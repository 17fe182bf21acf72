import FacetedSearch.Proofs.Period.Grammar

/-!
# Written periods read back

A period is written with the numerals of the components that are not zero. So its text is one of
its spellings, and reading restores it (`parse_text`). Among the spellings of a period this is the
only one in which no component is zero and no number has a zero in front (`Spelling.eq_spelling`);
the empty period has none of this kind and is written as `P0D`. Hence which texts are written as
they were read can be seen from their components (`text_canonical`).
-/

namespace FacetedSearch.Period

variable {p q : Period}

theorem get_zero (u : Component) : zero.get u = 0 := by cases u <;> rfl

theorem exists_get_ne_zero (h : p ≠ zero) : ∃ u, p.get u ≠ 0 := by
  by_contra hall
  push Not at hall
  exact h (ext_get fun u ↦ by rw [hall u, get_zero])

theorem Component.mem_ofDate_or_mem_ofTime (u : Component) : u ∈ ofDate ∨ u ∈ ofTime := by
  cases u <;> decide

/-! ## The components that are written -/

/-- A component of a period with its numeral. -/
def part (p : Period) (u : Component) : Part where
  unit := u
  digits := Text.numeral (p.get u).toNat
  isNumeral := Text.isNumeral_numeral _
  fits := by simpa using (p.get u).toNat_lt

/-- Those of the given components that are not zero. -/
def partsOf (p : Period) (us : List Component) : List Part :=
  (us.filter fun u ↦ p.get u ≠ 0).map p.part

theorem map_unit_partsOf (p : Period) (us : List Component) :
    (p.partsOf us).map Part.unit = us.filter fun u ↦ p.get u ≠ 0 := by
  rw [partsOf, List.map_map]
  exact List.map_id _

theorem mem_partsOf {us : List Component} {a : Part} :
    a ∈ p.partsOf us ↔ ∃ u ∈ us, p.get u ≠ 0 ∧ p.part u = a := by
  simp [partsOf, and_assoc]

theorem flatMap_chars_partsOf (p : Period) (us : List Component) :
    (p.partsOf us).flatMap Part.chars = us.flatMap p.componentChars := by
  induction us with
  | nil => rfl
  | cons u us ih =>
    rw [List.flatMap_cons, ← ih, componentChars]
    by_cases hu : p.get u = 0
    · simp [partsOf, hu]
    · simp [partsOf, hu, Part.chars, part]

theorem isEmpty_partsOf_ofTime (p : Period) :
    (p.partsOf Component.ofTime).isEmpty = !p.hasTime := by
  rw [Bool.eq_iff_iff]
  simp [partsOf, hasTime]

theorem isPlain_part {u : Component} (hu : p.get u ≠ 0) : (p.part u).IsPlain := by
  have hne : (p.get u).toNat ≠ 0 := fun h ↦ hu (UInt32.toNat_inj.mp h)
  refine ⟨?_, Text.head?_numeral_ne hne⟩
  rwa [part, Text.numeralValue_numeral]

theorem eq_part {a : Part} (hplain : a.IsPlain)
    (hget : (p.get a.unit).toNat = Text.numeralValue a.digits) : a = p.part a.unit := by
  obtain ⟨u, ds, hnumeral, hfits⟩ := a
  rw [part, Part.mk.injEq]
  exact ⟨rfl, by rw [hget, Text.numeral_numeralValue hnumeral hplain.2]⟩

/-- Plain components of one side are those that are written, if no other is needed. -/
theorem eq_partsOf {as : List Part} {us : List Component} (hsublist : (as.map Part.unit).Sublist us)
    (hus : us.Pairwise fun u v ↦ u.rank < v.rank) (hplain : ∀ a ∈ as, a.IsPlain)
    (hget : ∀ a ∈ as, (p.get a.unit).toNat = Text.numeralValue a.digits)
    (hall : ∀ u ∈ us, p.get u ≠ 0 → u ∈ as.map Part.unit) : as = p.partsOf us := by
  have hmem (u : Component) :
      u ∈ as.map Part.unit ↔ u ∈ us.filter fun u ↦ p.get u ≠ 0 := by
    rw [List.mem_filter, decide_eq_true_iff]
    constructor
    · intro hu
      refine ⟨hsublist.subset hu, fun hzero ↦ ?_⟩
      obtain ⟨a, ha, rfl⟩ := List.mem_map.mp hu
      have hvalue := hget a ha
      rw [hzero] at hvalue
      exact (hplain a ha).1 hvalue.symm
    · rintro ⟨hu, hne⟩
      exact hall u hu hne
  -- both lists of units increase, so having the same members they are equal
  have hunits : as.map Part.unit = us.filter fun u ↦ p.get u ≠ 0 :=
    Component.eq_of_mem_iff (hus.sublist hsublist) (hus.sublist List.filter_sublist) hmem
  have hparts : as.map id = as.map fun a ↦ p.part a.unit :=
    List.map_congr_left fun a ha ↦ eq_part (hplain a ha) (hget a ha)
  calc as = as.map fun a ↦ p.part a.unit := by rw [← hparts, List.map_id]
    _ = (as.map Part.unit).map p.part := by rw [List.map_map]; rfl
    _ = p.partsOf us := by rw [hunits, partsOf]

/-! ## The text as a spelling -/

/-- The spelling that a period is written in, unless it is empty. -/
def spelling (p : Period) (hp : p ≠ zero) : Spelling where
  date := p.partsOf Component.ofDate
  time := p.partsOf Component.ofTime
  date_sublist := by
    rw [map_unit_partsOf]
    exact List.filter_sublist
  time_sublist := by
    rw [map_unit_partsOf]
    exact List.filter_sublist
  ne_nil := by
    intro hnil
    obtain ⟨u, hu⟩ := exists_get_ne_zero hp
    obtain ⟨hdate, htime⟩ := List.append_eq_nil_iff.mp hnil
    rcases u.mem_ofDate_or_mem_ofTime with hmem | hmem
    · exact List.ne_nil_of_mem (mem_partsOf.mpr ⟨u, hmem, hu, rfl⟩) hdate
    · exact List.ne_nil_of_mem (mem_partsOf.mpr ⟨u, hmem, hu, rfl⟩) htime

theorem text_spelling (hp : p ≠ zero) : (p.spelling hp).text = p.text := by
  rw [Spelling.text, Spelling.chars, Spelling.timeChars, spelling, text, chars, isZero,
    decide_eq_false hp]
  simp only [flatMap_chars_partsOf, isEmpty_partsOf_ofTime]
  cases p.hasTime <;> rfl

theorem mem_parts_spelling {hp : p ≠ zero} {a : Part} :
    a ∈ (p.spelling hp).parts ↔ ∃ u, p.get u ≠ 0 ∧ p.part u = a := by
  rw [Spelling.parts, spelling, List.mem_append, mem_partsOf, mem_partsOf]
  constructor
  · rintro (⟨u, -, hu⟩ | ⟨u, -, hu⟩)
    · exact ⟨u, hu⟩
    · exact ⟨u, hu⟩
  · rintro ⟨u, hu⟩
    exact u.mem_ofDate_or_mem_ofTime.imp (fun hmem ↦ ⟨u, hmem, hu⟩) fun hmem ↦ ⟨u, hmem, hu⟩

theorem isPlain_of_mem_spelling {hp : p ≠ zero} {a : Part} (ha : a ∈ (p.spelling hp).parts) :
    a.IsPlain := by
  obtain ⟨u, hu, rfl⟩ := mem_parts_spelling.mp ha
  exact isPlain_part hu

theorem hasParts_spelling (hp : p ≠ zero) : p.HasParts (p.spelling hp).parts := by
  constructor
  · intro a ha
    obtain ⟨u, -, rfl⟩ := mem_parts_spelling.mp ha
    exact (Text.numeralValue_numeral _).symm
  · intro u hu
    by_contra hne
    exact hu (List.mem_map.mpr ⟨p.part u, mem_parts_spelling.mpr ⟨u, hne, rfl⟩, rfl⟩)

/-- The text of a period spells it. -/
theorem parse_text (p : Period) : parse p.text = .ok p := by
  by_cases hp : p = zero
  · rw [hp]
    rfl
  · obtain ⟨q, hq, hparts⟩ := exists_parse_text (p.spelling hp)
    rw [text_spelling] at hq
    rw [hq, hparts.eq (hasParts_spelling hp)]

theorem text_injective : Function.Injective text := by
  intro p q h
  have hp := parse_text p
  rw [h, parse_text] at hp
  exact (Except.ok.inj hp).symm

/-! ## Texts that are written as they were read -/

theorem Spelling.eq_spelling {w : Spelling} (hp : p ≠ zero) (hparts : p.HasParts w.parts)
    (hplain : ∀ a ∈ w.parts, a.IsPlain) : w = p.spelling hp := by
  have hwritten (u : Component) (hu : p.get u ≠ 0) : ∃ a ∈ w.parts, a.unit = u := by
    by_contra hnone
    exact hu (hparts.get_absent u fun hmem ↦ hnone (List.mem_map.mp hmem))
  have hdate {a : Part} (ha : a ∈ w.date) : a ∈ w.parts := List.mem_append_left w.time ha
  have htime {a : Part} (ha : a ∈ w.time) : a ∈ w.parts := List.mem_append_right w.date ha
  refine Spelling.ext ?date ?time
  case date =>
    refine eq_partsOf w.date_sublist Component.pairwise_ofDate (fun a ha ↦ hplain a (hdate ha))
      (fun a ha ↦ hparts.get_unit a (hdate ha)) fun u hu hne ↦ ?_
    obtain ⟨a, ha, rfl⟩ := hwritten u hne
    rcases List.mem_append.mp ha with ha | ha
    · exact List.mem_map_of_mem ha
    · -- the unit would be on both sides of the `T`
      rw [Component.mem_ofDate_iff, isTime_of_mem_time ha] at hu
      cases hu
  case time =>
    refine eq_partsOf w.time_sublist Component.pairwise_ofTime (fun a ha ↦ hplain a (htime ha))
      (fun a ha ↦ hparts.get_unit a (htime ha)) fun u hu hne ↦ ?_
    obtain ⟨a, ha, rfl⟩ := hwritten u hne
    rcases List.mem_append.mp ha with ha | ha
    · rw [Component.mem_ofTime_iff, isTime_of_mem_date ha] at hu
      cases hu
    · exact List.mem_map_of_mem ha

theorem Spelling.not_isPlain_of_zero {w : Spelling} (hparts : zero.HasParts w.parts) :
    ¬ ∀ a ∈ w.parts, a.IsPlain := by
  intro hplain
  obtain ⟨a, ha⟩ := List.exists_mem_of_ne_nil w.parts w.ne_nil
  have hvalue := hparts.get_unit a ha
  rw [get_zero] at hvalue
  exact (hplain a ha).1 hvalue.symm

/-- A text of a period is the one that it is written as if it is plain, or the text of the empty
period. -/
theorem Spelling.text_eq_iff {w : Spelling} (hparts : p.HasParts w.parts) :
    p.text = w.text ↔ w.text = "P0D" ∨ ∀ a ∈ w.parts, a.IsPlain := by
  by_cases hp : p = zero
  · subst hp
    rw [or_iff_left (not_isPlain_of_zero hparts)]
    exact eq_comm
  · have hnot : w.text ≠ "P0D" := by
      intro htext
      obtain ⟨q, hq, hparts'⟩ := exists_parse_text w
      rw [htext] at hq
      have hzero : zero = q := Except.ok.inj hq
      exact hp (hparts.eq (hzero ▸ hparts'))
    rw [or_iff_right hnot, ← text_spelling hp, Spelling.text_injective.eq_iff]
    constructor
    · intro heq a ha
      exact isPlain_of_mem_spelling (heq ▸ ha)
    · intro hplain
      exact (eq_spelling hp hparts hplain).symm

/-- **The text of a period is its canonical form.** Reading it restores the period, so different
periods have different texts. Every text of a period has one spelling, and the period is written as
that text exactly if the text is `P0D` or no component in it is zero or has a zero in front. -/
theorem text_canonical :
    (∀ p : Period, parse p.text = .ok p) ∧ Function.Injective text ∧
      ∀ s p, parse s = .ok p → ∃ w : Spelling, (∀ w' : Spelling, w'.text = s ↔ w' = w) ∧
        (p.text = s ↔ s = "P0D" ∨
          ∀ a ∈ w.parts, Text.numeralValue a.digits ≠ 0 ∧ a.digits.head? ≠ some '0') := by
  refine ⟨parse_text, text_injective, fun s p h ↦ ?_⟩
  obtain ⟨w, rfl, hparts⟩ := exists_spelling_of_parse h
  exact ⟨w, fun w' ↦ Spelling.text_injective.eq_iff, Spelling.text_eq_iff hparts⟩

end FacetedSearch.Period

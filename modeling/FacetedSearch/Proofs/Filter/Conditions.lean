import FacetedSearch.Proofs.Filter.Leaves

/-!
# Conditions as leaves

Every clean condition is written as a leaf, and two conditions are written as the same leaf exactly
if they are alike. For tests of terms this is plain. For ranges it is a question of how bounds are
written, and the three kinds of bound do not get mixed up: an open one is a star, a relative one
begins with `NOW`, and neither a star nor an `N` occurs in a timestamp.
-/

namespace FacetedSearch

/-! ## Tests of terms -/

namespace FieldTest

/-- What a test asks of its field. -/
def demand (t : FieldTest) : Demand :=
  match t.terms with
  | [term] => .term term.toList
  | terms => .terms (terms.map String.toList)

/-- A test as a leaf. -/
def leaf (t : FieldTest) : Leaf := ⟨t.excluded, t.field.toList, t.demand⟩

theorem toList_compile (t : FieldTest) : t.compile.toList = t.leaf.chars := by
  obtain ⟨field, terms, hne, excluded⟩ := t
  rcases terms with _ | ⟨term, _ | ⟨next, terms⟩⟩
  · exact absurd rfl hne
  · cases excluded <;> simp [compile, leaf, demand, Leaf.chars, Demand.chars]
  · cases excluded <;> simp [compile, leaf, demand, Leaf.chars, Demand.chars]

theorem terms_eq_of_demand {t u : FieldTest} (h : t.demand = u.demand) : t.terms = u.terms := by
  have hinj : Function.Injective (List.map String.toList) :=
    List.map_injective_iff.mpr fun _ _ ↦ String.toList_inj.mp
  unfold demand at h
  split at h
  · next term ht =>
    split at h
    · next term' hu =>
      rw [ht, hu, String.toList_inj.mp (Demand.term.inj h)]
    · cases h
  · split at h
    · cases h
    · exact hinj (Demand.terms.inj h)

theorem leaf_injective {t u : FieldTest} (h : t.leaf = u.leaf) : t = u := by
  obtain ⟨hexcluded, hfield, hdemand⟩ := Leaf.mk.inj h
  have hterms := terms_eq_of_demand hdemand
  cases t
  cases u
  simp_all [String.toList_inj]

theorem clean_leaf {t : FieldTest} (ht : (Condition.field t).Clean) : t.leaf.Clean := by
  obtain ⟨hfield, hterms⟩ := ht
  refine ⟨by simpa [leaf] using hfield.ne_empty, hfield.head?_ne, hfield.isFieldChar, ?_⟩
  rw [leaf, demand]
  split
  · next term hsingle =>
    have hterm := hterms term (hsingle ▸ List.mem_singleton_self term)
    exact ⟨by simpa using hterm.ne_empty, hterm.isWordChar⟩
  · refine ⟨by simpa using t.terms_ne_nil, fun cs hcs ↦ ?_⟩
    obtain ⟨term, hmem, rfl⟩ := List.mem_map.mp hcs
    exact (hterms term hmem).isWordChar

end FieldTest

/-! ## Ranges -/

/-- A range as a leaf. -/
def Leaf.range (field lower upper : String) : Leaf :=
  ⟨false, field.toList, .range lower.toList upper.toList⟩

theorem Leaf.range_inj {field lower upper field' lower' upper' : String} :
    Leaf.range field lower upper = Leaf.range field' lower' upper' ↔
      field = field' ∧ lower = lower' ∧ upper = upper' := by
  simp [Leaf.range, String.toList_inj]

theorem Leaf.clean_range {field lower upper : String} (hfield : IsFieldName field)
    (hlower : ' ' ∉ lower.toList) (hupper : ']' ∉ upper.toList) :
    (Leaf.range field lower upper).Clean :=
  ⟨by simpa [Leaf.range] using hfield.ne_empty, hfield.head?_ne, hfield.isFieldChar, hlower, hupper⟩

theorem DateMath.toList_rangeText (field : String) (lower upper : Option String) :
    (rangeText field lower upper).toList =
      (Leaf.range field (lower.getD unbounded) (upper.getD unbounded)).chars := by
  simp [rangeText, Leaf.range, Leaf.chars, Demand.chars]

/-! ### Fixed ends -/

namespace Instant

theorem isDigit_of_mem_padded {w n : Nat} {c : Char} (hc : c ∈ Text.padded w n) :
    c.isDigit = true := List.all_eq_true.mp (Text.all_isDigit_padded w n) c hc

theorem mem_dateMathText {t : Instant} {c : Char} (hc : c ∈ t.dateMathText.toList) :
    c.isDigit = true ∨ c ∈ ['+', '-', ':', 'T', 'Z'] := by
  have hpadded {w n : Nat} : c ∈ Text.padded w n → c.isDigit = true := isDigit_of_mem_padded
  have hyear : c ∈ yearChars t.date.year → c.isDigit = true ∨ c ∈ ['+', '-', ':', 'T', 'Z'] := by
    intro hc
    unfold yearChars at hc
    split at hc
    · exact .inl (hpadded hc)
    · rcases List.mem_cons.mp hc with rfl | hc
      · split <;> decide
      · exact .inl (hpadded hc)
  simp only [dateMathText, clockChars, String.toList_ofList, List.mem_append, List.mem_cons,
    List.not_mem_nil, or_false] at hc
  grind

theorem notMem_dateMathText (t : Instant) {c : Char} (hdigit : c.isDigit = false)
    (hc : c ∉ ['+', '-', ':', 'T', 'Z']) : c ∉ t.dateMathText.toList := by
  intro hmem
  rcases mem_dateMathText hmem with h | h
  · rw [hdigit] at h
    cases h
  · exact hc h

end Instant

namespace DateRange

/-- An end of a range as it is written. -/
def boundText (bound : Option Instant) : String :=
  (bound.map Instant.dateMathText).getD DateMath.unbounded

/-- A range with fixed ends as a leaf. -/
def leaf (r : DateRange) : Leaf := .range r.field (boundText r.lower) (boundText r.upper)

theorem notMem_boundText (bound : Option Instant) {c : Char} (hdigit : c.isDigit = false)
    (hc : c ∉ ['*', '+', '-', ':', 'T', 'Z']) : c ∉ (boundText bound).toList := by
  rw [List.mem_cons, not_or] at hc
  cases bound with
  | none => exact fun hmem ↦ hc.1 (List.mem_singleton.mp hmem)
  | some t => exact t.notMem_dateMathText hdigit hc.2

theorem boundText_inj {a b : Option Instant} :
    boundText a = boundText b ↔ a.map Instant.dateMathText = b.map Instant.dateMathText := by
  have hstar (t : Instant) : DateMath.unbounded ≠ t.dateMathText := fun h ↦
    t.notMem_dateMathText (c := '*') rfl (by decide) (h ▸ List.mem_singleton_self '*')
  cases a with
  | none =>
    cases b with
    | none => simp
    | some t => exact iff_of_false (hstar t) (by simp)
  | some s =>
    cases b with
    | none => exact iff_of_false (hstar s).symm (by simp)
    | some t => exact (Option.some_inj).symm

theorem toList_of_compile {r : DateRange} {s : String} (h : r.compile = .ok s) :
    s.toList = r.leaf.chars := by
  rw [compile] at h
  split at h
  · cases h
  · cases h
    exact DateMath.toList_rangeText _ _ _

theorem clean_leaf {r : DateRange} (h : IsFieldName r.field) : r.leaf.Clean :=
  Leaf.clean_range h (notMem_boundText r.lower rfl (by decide))
    (notMem_boundText r.upper rfl (by decide))

end DateRange

/-! ### Ends measured back from the present -/

namespace RelativeRange

open DateMath (now startOfDay endOfDay)

/-- An end of a range as it is written: the beginning of the day a period back, or an edge of today.
-/
def boundText (today : String) : Option Period → Except Violation String
  | some p => dayStart p
  | none => .ok (now ++ today)

/-- The leaf is that of the range. -/
def HasLeaf (r : RelativeRange) (l : Leaf) : Prop :=
  ∃ lower upper, boundText startOfDay r.before = .ok lower ∧
    boundText endOfDay r.after = .ok upper ∧
    l = .range r.field lower upper

theorem dayStart_eq_ok {p : Period} {s : String} (h : dayStart p = .ok s) :
    ∃ offset, p.subtractText = .ok offset ∧ s = now ++ offset ++ startOfDay := by
  obtain ⟨offset, hoffset, h⟩ := bind_eq_ok_iff.mp h
  exact ⟨offset, hoffset, (Except.ok.inj h).symm⟩

section Ends

variable {today s t : String} {a b : Option Period}

/-- The edge of today is told from the past by the sign that follows the present. -/
theorem now_append_ne {p : Period} (htoday : today.toList.head? = some '/')
    (h : dayStart p = .ok s) : now ++ today ≠ s := by
  obtain ⟨offset, hoffset, rfl⟩ := dayStart_eq_ok h
  have hminus := Period.head?_of_offsetText hoffset
  intro heq
  -- behind the present stands a slash in the one and a minus in the other
  rw [← String.toList_inj, String.append_assoc, String.toList_append, String.toList_append,
    String.toList_append] at heq
  have hhead := congrArg List.head? (List.append_cancel_left heq)
  rw [htoday, List.head?_append, hminus] at hhead
  exact absurd hhead (by decide)

theorem boundText_eq_iff (htoday : today.toList.head? = some '/') (ha : boundText today a = .ok s)
    (hb : boundText today b = .ok t) : s = t ↔ Option.Rel Period.SameDays a b := by
  cases a with
  | none =>
    obtain rfl := Except.ok.inj ha
    cases b with
    | none => exact iff_of_true (Except.ok.inj hb) .none
    | some q => exact iff_of_false (now_append_ne htoday hb) (by rintro ⟨⟩)
  | some p =>
    cases b with
    | none =>
      obtain rfl := Except.ok.inj hb
      exact iff_of_false (now_append_ne htoday ha).symm (by rintro ⟨⟩)
    | some q =>
      obtain ⟨offset, hoffset, rfl⟩ := dayStart_eq_ok ha
      obtain ⟨offset', hoffset', rfl⟩ := dayStart_eq_ok hb
      rw [Option.rel_some_some, ← Period.offsetText_eq_iff hoffset hoffset', ← String.toList_inj,
        ← String.toList_inj]
      simp

theorem boundText_spec (htoday : ' ' ∉ today.toList ∧ ']' ∉ today.toList)
    (h : boundText today a = .ok s) :
    (' ' ∉ s.toList ∧ ']' ∉ s.toList) ∧ 'N' ∈ s.toList := by
  cases a with
  | none =>
    obtain rfl := Except.ok.inj h
    simp [now, htoday]
  | some p =>
    obtain ⟨offset, hoffset, rfl⟩ := dayStart_eq_ok h
    have hmem {c : Char} (hc : c ≠ '-' ∧ c.isDigit = false ∧ c.isUpper = false) :
        c ∉ offset.toList := by
      intro hmem
      rcases Period.mem_of_offsetText hoffset hmem with h | h | h
      · exact hc.1 (List.mem_singleton.mp h)
      · exact absurd h (by simp [hc.2.1])
      · exact absurd h (by simp [hc.2.2])
    have hspace := @hmem ' ' (by decide)
    have hbracket := @hmem ']' (by decide)
    simp [now, startOfDay, hspace, hbracket]

end Ends

theorem toList_of_compile {r : RelativeRange} {s : String} (h : r.compile = .ok s) :
    ∃ l, r.HasLeaf l ∧ s.toList = l.chars := by
  have hrange (lower upper : String) :
      (DateMath.rangeText r.field (some lower) (some upper)).toList =
        (Leaf.range r.field lower upper).chars := DateMath.toList_rangeText _ _ _
  rw [compile] at h
  split at h
  · next before hbefore hafter =>
    obtain ⟨lower, hlower, h⟩ := bind_eq_ok_iff.mp h
    cases h
    exact ⟨_, ⟨lower, _, hbefore ▸ hlower, hafter ▸ rfl, rfl⟩, hrange _ _⟩
  · next after hbefore hafter =>
    obtain ⟨upper, hupper, h⟩ := bind_eq_ok_iff.mp h
    cases h
    exact ⟨_, ⟨_, upper, hbefore ▸ rfl, hafter ▸ hupper, rfl⟩, hrange _ _⟩
  · next before after hbefore hafter =>
    obtain ⟨lower, hlower, h⟩ := bind_eq_ok_iff.mp h
    obtain ⟨upper, hupper, h⟩ := bind_eq_ok_iff.mp h
    cases h
    exact ⟨_, ⟨lower, upper, hbefore ▸ hlower, hafter ▸ hupper, rfl⟩, hrange _ _⟩
  · cases h

theorem HasLeaf.clean {r : RelativeRange} {l : Leaf} (h : r.HasLeaf l)
    (hfield : IsFieldName r.field) : l.Clean := by
  obtain ⟨lower, upper, hlower, hupper, rfl⟩ := h
  exact Leaf.clean_range hfield (boundText_spec (by decide) hlower).1.1
    (boundText_spec (by decide) hupper).1.2

theorem HasLeaf.eq_iff {r r' : RelativeRange} {l m : Leaf} (h : r.HasLeaf l)
    (h' : r'.HasLeaf m) :
    l = m ↔ r.field = r'.field ∧ Option.Rel Period.SameDays r.before r'.before ∧
      Option.Rel Period.SameDays r.after r'.after := by
  obtain ⟨lower, upper, hlower, hupper, rfl⟩ := h
  obtain ⟨lower', upper', hlower', hupper', rfl⟩ := h'
  rw [Leaf.range_inj, boundText_eq_iff (by decide) hlower hlower',
    boundText_eq_iff (by decide) hupper hupper']

end RelativeRange

/-! ## Leaves of conditions -/

namespace Condition

/-- The leaf is that of the condition. -/
def HasLeaf : Condition → Leaf → Prop
  | field t, l => l = t.leaf
  | dateRange r, l => l = r.leaf
  | relativeRange r, l => r.HasLeaf l
  | raw _, _ | unarchived, _ => False

variable {c d : Condition} {l m : Leaf}

/-- A clean condition that compiles is written as a leaf. -/
theorem exists_leaf (hc : c.Clean) {s : String} (hs : c.compile = .ok s) :
    ∃ l, c.HasLeaf l ∧ l.Clean ∧ s.toList = l.chars := by
  cases c with
  | field t =>
    cases hs
    exact ⟨t.leaf, rfl, t.clean_leaf hc, t.toList_compile⟩
  | dateRange r => exact ⟨r.leaf, rfl, r.clean_leaf hc, r.toList_of_compile hs⟩
  | relativeRange r =>
    obtain ⟨l, hl, hchars⟩ := r.toList_of_compile hs
    exact ⟨l, hl, hl.clean hc, hchars⟩
  | raw q => exact hc.elim
  | unarchived => exact hc.elim

theorem leaf_ne_range (t : FieldTest) (field lower upper : String) :
    t.leaf ≠ .range field lower upper := by
  intro h
  have hdemand := (Leaf.mk.inj h).2.2
  rw [FieldTest.demand] at hdemand
  split at hdemand <;> cases hdemand

/-- A range with fixed ends is told from one that is measured back from the present. -/
theorem leaf_ne_of_hasLeaf (r : DateRange) {r' : RelativeRange} (h : r'.HasLeaf l) :
    r.leaf ≠ l := by
  obtain ⟨lower, upper, hlower, -, rfl⟩ := h
  rw [DateRange.leaf, Ne, Leaf.range_inj]
  rintro ⟨-, rfl, -⟩
  exact DateRange.notMem_boundText r.lower rfl (by decide)
    (RelativeRange.boundText_spec (by decide) hlower).2

/-- **Conditions have the same leaf exactly if they are alike.** -/
theorem leaf_eq_iff_alike (hc : c.HasLeaf l) (hd : d.HasLeaf m) : l = m ↔ c.Alike d := by
  -- the demands differ in kind, and the bounds of the two kinds of range in their characters
  cases c with
  | field t =>
    obtain rfl := hc
    cases d with
    | field u =>
      obtain rfl := hd
      exact ⟨FieldTest.leaf_injective, congrArg FieldTest.leaf⟩
    | dateRange r =>
      obtain rfl := hd
      exact iff_of_false (leaf_ne_range t _ _ _) id
    | relativeRange r =>
      obtain ⟨lower, upper, -, -, rfl⟩ := hd
      exact iff_of_false (leaf_ne_range t _ _ _) id
    | raw q => exact hd.elim
    | unarchived => exact hd.elim
  | dateRange r =>
    obtain rfl := hc
    cases d with
    | field u =>
      obtain rfl := hd
      exact iff_of_false (leaf_ne_range u _ _ _).symm id
    | dateRange r' =>
      obtain rfl := hd
      rw [DateRange.leaf, DateRange.leaf, Leaf.range_inj, DateRange.boundText_inj,
        DateRange.boundText_inj]
      rfl
    | relativeRange r' => exact iff_of_false (leaf_ne_of_hasLeaf r hd) id
    | raw q => exact hd.elim
    | unarchived => exact hd.elim
  | relativeRange r =>
    cases d with
    | field u =>
      obtain rfl := hd
      obtain ⟨lower, upper, -, -, rfl⟩ := hc
      exact iff_of_false (leaf_ne_range u _ _ _).symm id
    | dateRange r' =>
      obtain rfl := hd
      exact iff_of_false (leaf_ne_of_hasLeaf r' hc).symm id
    | relativeRange r' => exact hc.eq_iff hd
    | raw q => exact hd.elim
    | unarchived => exact hd.elim
  | raw q => exact hc.elim
  | unarchived => exact hc.elim

end Condition

end FacetedSearch

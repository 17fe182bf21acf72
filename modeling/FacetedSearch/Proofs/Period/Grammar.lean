import FacetedSearch.Period.Parser
import FacetedSearch.Proofs.Period.Spelling
import FacetedSearch.Proofs.Steps

/-!
# The grammar of periods

Reading accepts exactly the texts that have a spelling, and gives the period of the written numbers
(`accepts_iff_spelled`).

## Where a cursor stands

The reader goes through the text once, character by character, and keeps of what it has passed no
more than a period, a number and the last unit. A `Front` is all that has been passed: the written
components on both sides of the `T`, and the digits of a number whose letter has not come yet. The
invariant `Cursor.At` ties the two together. A step from a cursor at a front leads to a cursor at
the front with one more character, so what is accepted is spelled; and from a cursor at a front the
components that may follow are read one after the other, so what is spelled is accepted.
-/

namespace FacetedSearch.Period

theorem Component.ofDesignator?_eq_some_iff {u : Component} {inTime : Bool} {ch : Char} :
    ofDesignator? inTime ch = some u ↔ u.isTime = inTime ∧ u.designator = ch := by
  constructor
  · intro h
    have hmem := List.mem_of_find?_eq_some h
    have hletter := List.find?_some h
    refine ⟨?_, by simpa using hletter⟩
    cases inTime with
    | false => exact mem_ofDate_iff.mp hmem
    | true => exact mem_ofTime_iff.mp hmem
  · rintro ⟨rfl, rfl⟩
    exact ofDesignator?_designator u

/-- What of a spelling stands in front of some place in it. -/
structure Front where
  date : List Part
  /-- The components behind the `T`, if it has been passed. -/
  time? : Option (List Part)
  /-- The digits of a component whose letter has not come yet. -/
  digits : List Char

namespace Front

/-- The complete components. -/
def parts (f : Front) : List Part := f.date ++ f.time?.getD []

/-- The characters of the complete components, with the `T` if it has been passed. -/
def partsChars (f : Front) : List Char :=
  f.date.flatMap Part.chars ++ f.time?.elim [] fun time ↦ 'T' :: time.flatMap Part.chars

/-- All characters behind the `P`. -/
def chars (f : Front) : List Char := f.partsChars ++ f.digits

/-- The front behind more components, all on the same side of the `T`. -/
def extend (f : Front) (as : List Part) : Front :=
  match f.time? with
  | none => ⟨f.date ++ as, none, []⟩
  | some time => ⟨f.date, some (time ++ as), []⟩

theorem parts_extend (f : Front) (as : List Part) : (f.extend as).parts = f.parts ++ as := by
  obtain ⟨date, _ | time, digits⟩ := f
  · simp [extend, parts]
  · simp [extend, parts]

@[simp] theorem digits_extend (f : Front) (as : List Part) : (f.extend as).digits = [] := by
  obtain ⟨date, _ | time, digits⟩ := f <;> rfl

theorem isSome_time?_extend (f : Front) (as : List Part) :
    (f.extend as).time?.isSome = f.time?.isSome := by
  obtain ⟨date, _ | time, digits⟩ := f <;> rfl

theorem mem_date_extend {f : Front} {as : List Part} {b : Part} (hb : b ∈ (f.extend as).date) :
    b ∈ f.date ∨ f.time?.isSome = false ∧ b ∈ as := by
  obtain ⟨date, _ | time, digits⟩ := f
  · exact (List.mem_append.mp hb).imp_right fun hb ↦ ⟨rfl, hb⟩
  · exact .inl hb

theorem mem_time?_extend {f : Front} {as : List Part} {b : Part}
    (hb : b ∈ (f.extend as).time?.getD []) :
    b ∈ f.time?.getD [] ∨ f.time?.isSome = true ∧ b ∈ as := by
  obtain ⟨date, _ | time, digits⟩ := f
  · exact .inl hb
  · exact (List.mem_append.mp hb).imp_right fun hb ↦ ⟨rfl, hb⟩

theorem chars_extend (f : Front) (as : List Part) :
    (f.extend as).chars = f.partsChars ++ as.flatMap Part.chars := by
  obtain ⟨date, _ | time, digits⟩ := f
  · simp [extend, chars, partsChars]
  · simp [extend, chars, partsChars]

theorem partsChars_eq {f : Front} (htime : f.time? ≠ some []) :
    f.partsChars = f.date.flatMap Part.chars ++ Spelling.timeChars (f.time?.getD []) := by
  obtain ⟨date, _ | _ | ⟨a, time⟩, digits⟩ := f
  · rfl
  · exact absurd rfl htime
  · rfl

theorem extend_nil {f : Front} (hdigits : f.digits = []) : f.extend [] = f := by
  obtain ⟨date, _ | time, digits⟩ := f
  · obtain rfl : digits = [] := hdigits
    simp [extend]
  · obtain rfl : digits = [] := hdigits
    simp [extend]

theorem extend_extend (f : Front) (as bs : List Part) :
    (f.extend as).extend bs = f.extend (as ++ bs) := by
  obtain ⟨date, _ | time, digits⟩ := f
  · simp [extend]
  · simp [extend]

end Front

namespace Cursor

/-- A letter completes a component if its number fits, if there is such a unit on this side of the
`T`, and if the unit is shorter than the last one. -/
theorem close_eq_ok_iff {c c' : Cursor} {n : Nat} {ch : Char} : c.close n ch = .ok c' ↔
    n < UInt32.size ∧ ∃ u : Component, u.isTime = c.inTime ∧ u.designator = ch ∧ c.rank < u.rank ∧
      c' = { c with period := c.period.set (.ofNat n) u, pending := none, last := some u } := by
  rw [close]
  by_cases hn : UInt32.size ≤ n
  · rw [if_pos hn]
    simp [Nat.not_lt.mpr hn]
  rw [if_neg hn]
  constructor
  · intro h
    refine ⟨Nat.not_le.mp hn, ?_⟩
    split at h
    · cases h
    · next u hu =>
      obtain ⟨htime, hletter⟩ := Component.ofDesignator?_eq_some_iff.mp hu
      split at h
      · cases h
      · next hrank =>
        cases h
        exact ⟨u, htime, hletter, Nat.not_le.mp hrank, rfl⟩
  · rintro ⟨-, u, htime, hletter, hrank, rfl⟩
    rw [Component.ofDesignator?_eq_some_iff.mpr ⟨htime, hletter⟩]
    exact if_neg (Nat.not_le.mpr hrank)

/-- The cursor stands behind the front. -/
structure At (c : Cursor) (f : Front) : Prop where
  period : c.period.HasParts f.parts
  pending : c.pending = if f.digits = [] then none else some (Text.numeralValue f.digits)
  inTime : c.inTime = f.time?.isSome
  last : c.last = f.parts.getLast?.map Part.unit
  isDigit : f.digits.all Char.isDigit = true
  date_isTime : ∀ a ∈ f.date, a.unit.isTime = false
  time_isTime : ∀ a ∈ f.time?.getD [], a.unit.isTime = true
  increasing : (f.parts.map Part.unit).Pairwise fun u v ↦ u.rank < v.rank

namespace At

variable {c c' : Cursor} {f : Front} {a : Part} {p : Period} {ch : Char}

theorem start : At {} ⟨[], none, []⟩ where
  period := HasParts.zero_nil
  pending := rfl
  inTime := rfl
  last := rfl
  isDigit := rfl
  date_isTime := fun _ ha ↦ absurd ha List.not_mem_nil
  time_isTime := fun _ ha ↦ absurd ha List.not_mem_nil
  increasing := List.Pairwise.nil

/-- The last unit has the highest rank so far, so the cursor need not remember the others. -/
theorem rank_lt_iff (h : c.At f) {u : Component} :
    c.rank < u.rank ↔ ∀ b ∈ f.parts, b.unit.rank < u.rank := by
  have hpos : 0 < u.rank := by cases u <;> decide
  have hlast := h.last
  have hincreasing := h.increasing
  rw [rank, hlast]
  rcases List.eq_nil_or_concat' f.parts with hnil | ⟨parts, l, hparts⟩
  · simp [hnil, hpos]
  · rw [hparts, List.map_append, List.pairwise_append] at hincreasing
    have hl : ∀ b ∈ parts, b.unit.rank < l.unit.rank := fun b hb ↦
      hincreasing.2.2 b.unit (List.mem_map_of_mem hb) l.unit (by simp)
    rw [hparts, List.getLast?_concat]
    change l.unit.rank < u.rank ↔ _
    constructor
    · intro hlt b hb
      rcases List.mem_append.mp hb with hb | hb
      · exact (hl b hb).trans hlt
      · rwa [List.mem_singleton.mp hb]
    · intro hall
      exact hall l (by simp)

theorem pending_eq_none_iff (h : c.At f) : c.pending = none ↔ f.digits = [] := by
  rw [h.pending, ite_eq_left_iff]
  simp

theorem pending_eq_some_iff (h : c.At f) {n : Nat} : c.pending = some n ↔
    Text.isNumeral f.digits = true ∧ n = Text.numeralValue f.digits := by
  rw [h.pending, Text.isNumeral, h.isDigit, Bool.and_true]
  by_cases hnil : f.digits = []
  · simp [hnil]
  · rw [if_neg hnil, Option.some.injEq, @eq_comm _ n]
    simp [hnil]

/-! ## Steps -/

/-- A digit behind the front. -/
theorem digit (h : c.At f) (hch : ch.isDigit = true) :
    At { c with pending := some (10 * c.pending.getD 0 + Text.digitValue ch) }
      { f with digits := f.digits ++ [ch] } := by
  refine { h with pending := ?_, isDigit := ?_ }
  · have hvalue : c.pending.getD 0 = Text.numeralValue f.digits := by
      rw [h.pending]
      by_cases hnil : f.digits = []
      · rw [if_pos hnil, hnil]
        rfl
      · rw [if_neg hnil]
        rfl
    have happend : Text.numeralValue (f.digits ++ [ch]) =
        10 * Text.numeralValue f.digits + Text.digitValue ch := by
      rw [Text.numeralValue, Nat.ofDigitChars_append, Nat.ofDigitChars_cons, Nat.ofDigitChars_nil]
      rfl
    simp [hvalue, happend]
  · rw [List.all_append, h.isDigit, Bool.true_and, List.all_cons, hch, List.all_nil]
    rfl

/-- The `T` behind the front. -/
theorem marker (h : c.At f) (htime : f.time? = none) :
    At { c with inTime := true } { f with time? := some [] } := by
  have hparts : ({ f with time? := some [] } : Front).parts = f.parts := by
    simp [Front.parts, htime]
  exact { h with
    period := hparts ▸ h.period
    inTime := rfl
    last := hparts ▸ h.last
    time_isTime := fun b hb ↦ absurd hb List.not_mem_nil
    increasing := hparts ▸ h.increasing }

/-- One more component, on the side of the `T` on which its unit belongs. -/
theorem extend (h : c.At f) (htime : a.unit.isTime = f.time?.isSome)
    (hrank : ∀ b ∈ f.parts, b.unit.rank < a.unit.rank) :
    At { c with period := c.period.set a.value a.unit, pending := none, last := some a.unit }
      (f.extend [a]) := by
  -- ranks increase, so the component has not been set before
  have hnew : a.unit ∉ f.parts.map Part.unit := by
    intro hmem
    obtain ⟨b, hb, heq⟩ := List.mem_map.mp hmem
    exact (hrank b hb).ne (congrArg Component.rank heq)
  have hincreasing : ((f.parts ++ [a]).map Part.unit).Pairwise fun u v ↦ u.rank < v.rank := by
    rw [List.map_append, List.pairwise_append]
    refine ⟨h.increasing, List.pairwise_singleton _ _, fun u hu v hv ↦ ?_⟩
    obtain ⟨b, hb, rfl⟩ := List.mem_map.mp hu
    obtain rfl := List.mem_singleton.mp hv
    exact hrank b hb
  constructor
  case period =>
    rw [Front.parts_extend]
    exact h.period.append_set hnew
  case pending => rw [Front.digits_extend, if_pos rfl]
  case inTime =>
    rw [Front.isSome_time?_extend]
    exact h.inTime
  case last =>
    rw [Front.parts_extend, List.getLast?_concat]
    rfl
  case isDigit => rw [Front.digits_extend, List.all_nil]
  case date_isTime =>
    intro b hb
    rcases Front.mem_date_extend hb with hb | ⟨hside, hb⟩
    · exact h.date_isTime b hb
    · rw [List.mem_singleton.mp hb, htime, hside]
  case time_isTime =>
    intro b hb
    rcases Front.mem_time?_extend hb with hb | ⟨hside, hb⟩
    · exact h.time_isTime b hb
    · rw [List.mem_singleton.mp hb, htime, hside]
  case increasing =>
    rw [Front.parts_extend]
    exact hincreasing

/-- **A step goes on by one character.** -/
theorem step (h : c.At f) (hstep : c.step ch = .ok c') :
    ∃ f', c'.At f' ∧ f'.chars = f.chars ++ [ch] := by
  rw [Cursor.step] at hstep
  by_cases hdigit : ch.isDigit = true
  · rw [if_pos hdigit] at hstep
    cases hstep
    exact ⟨_, h.digit hdigit, by simp [Front.chars, Front.partsChars]⟩
  rw [if_neg hdigit] at hstep
  by_cases hT : ch = 'T'
  · rw [if_pos hT] at hstep
    split at hstep
    · cases hstep
    · next hplace =>
      cases hstep
      rw [Bool.or_eq_true, not_or, h.inTime, Option.not_isSome_iff_eq_none,
        Option.not_isSome_iff_eq_none] at hplace
      obtain ⟨htime, hpending⟩ := hplace
      have hdigits := h.pending_eq_none_iff.mp hpending
      exact ⟨_, h.marker htime, by simp [Front.chars, Front.partsChars, htime, hdigits, hT]⟩
  rw [if_neg hT] at hstep
  -- a letter completes the component whose digits stand at the end of the front
  split at hstep
  · cases hstep
  · next n hpending =>
    obtain ⟨hn, u, hside, rfl, hrank, rfl⟩ := close_eq_ok_iff.mp hstep
    obtain ⟨hnumeral, rfl⟩ := h.pending_eq_some_iff.mp hpending
    let a : Part := ⟨u, f.digits, hnumeral, hn⟩
    refine ⟨f.extend [a], h.extend (a := a) (hside.trans h.inTime) (h.rank_lt_iff.mp hrank), ?_⟩
    rw [Front.chars_extend, Front.chars]
    simp [Part.chars, a]

/-- **A run goes on by its characters.** -/
theorem run (h : c.At f) {cs : List Char} (hrun : cs.foldlM Cursor.step c = .ok c') :
    ∃ f', c'.At f' ∧ f'.chars = f.chars ++ cs := by
  induction cs generalizing c f with
  | nil =>
    cases hrun
    exact ⟨f, h, by simp⟩
  | cons ch cs ih =>
    rw [List.foldlM_cons] at hrun
    obtain ⟨c₁, hstep, hrun⟩ := bind_eq_ok_iff.mp hrun
    obtain ⟨f₁, h₁, hchars₁⟩ := h.step hstep
    obtain ⟨f', h', hchars'⟩ := ih h₁ hrun
    exact ⟨f', h', by rw [hchars', hchars₁, List.append_assoc]; rfl⟩

/-- A text that may end at a cursor is spelled up to there. -/
theorem finish (h : c.At f) (hfinish : c.finish = .ok p) :
    ∃ w : Spelling, w.chars = 'P' :: f.chars ∧ p.HasParts w.parts := by
  rw [Cursor.finish] at hfinish
  split at hfinish
  · cases hfinish
  next hpending =>
  rw [Option.not_isSome_iff_eq_none, h.pending_eq_none_iff] at hpending
  split at hfinish
  · cases hfinish
  next u hlast =>
  split at hfinish
  · cases hfinish
  next hend =>
  cases hfinish
  have hne : f.parts ≠ [] := by
    intro hnil
    rw [h.last, hnil] at hlast
    cases hlast
  have htime : f.time? ≠ some [] := by
    -- otherwise the last component would be one of whole days
    intro hsome
    have hparts : f.parts = f.date := by simp [Front.parts, hsome]
    rw [h.last, hparts] at hlast
    obtain ⟨a, ha, rfl⟩ := Option.map_eq_some_iff.mp hlast
    rw [h.inTime, hsome, h.date_isTime a (List.mem_of_getLast? ha)] at hend
    exact hend rfl
  have hincreasing := h.increasing
  rw [Front.parts, List.map_append, List.pairwise_append] at hincreasing
  refine ⟨⟨f.date, f.time?.getD [], ?date, ?time, hne⟩, ?chars, h.period⟩
  case date =>
    refine Component.sublist_of_subset hincreasing.1 Component.pairwise_ofDate fun u hu ↦ ?_
    obtain ⟨a, ha, rfl⟩ := List.mem_map.mp hu
    exact Component.mem_ofDate_iff.mpr (h.date_isTime a ha)
  case time =>
    refine Component.sublist_of_subset hincreasing.2.1 Component.pairwise_ofTime fun u hu ↦ ?_
    obtain ⟨a, ha, rfl⟩ := List.mem_map.mp hu
    exact Component.mem_ofTime_iff.mpr (h.time_isTime a ha)
  case chars =>
    rw [Spelling.chars, Front.chars, hpending, List.append_nil, Front.partsChars_eq htime]

/-- A text may end behind a component, and behind the `T` behind one of less than a day. -/
theorem finish_eq_ok (h : c.At f) (hdigits : f.digits = []) (hne : f.parts ≠ [])
    (htime : f.time? ≠ some []) : c.finish = .ok c.period := by
  have hpending := h.pending_eq_none_iff.mpr hdigits
  have hlast : c.last = some (f.parts.getLast hne).unit := by
    rw [h.last, List.getLast?_eq_some_getLast hne]
    rfl
  have hside : (c.inTime && !(f.parts.getLast hne).unit.isTime) = false := by
    rw [h.inTime]
    obtain ⟨date, _ | time, digits⟩ := f
    · rfl
    · have htime : time ≠ [] := fun hnil ↦ htime (congrArg some hnil)
      have hmem : (date ++ time).getLast hne ∈ time := by
        rw [List.getLast_append_of_right_ne_nil _ _ htime]
        exact List.getLast_mem htime
      have := h.time_isTime _ hmem
      simpa [Front.parts] using this
  rw [Cursor.finish, hpending, hlast]
  simp [hside]

/-! ## Whole components -/

theorem exists_read_digits (h : c.At f) {ds : List Char} (hds : ds.all Char.isDigit = true) :
    ∃ c', ds.foldlM Cursor.step c = .ok c' ∧ c'.At { f with digits := f.digits ++ ds } := by
  induction ds generalizing c f with
  | nil => exact ⟨c, rfl, by rwa [List.append_nil]⟩
  | cons d ds ih =>
    rw [List.all_cons, Bool.and_eq_true] at hds
    obtain ⟨c', hrun, h'⟩ := ih (h.digit hds.1) hds.2
    rw [List.append_assoc] at h'
    refine ⟨c', ?_, h'⟩
    rw [List.foldlM_cons, Cursor.step, if_pos hds.1]
    exact hrun

theorem exists_read_part (h : c.At f) (hdigits : f.digits = [])
    (htime : a.unit.isTime = f.time?.isSome) (hrank : ∀ b ∈ f.parts, b.unit.rank < a.unit.rank) :
    ∃ c', a.chars.foldlM Cursor.step c = .ok c' ∧ c'.At (f.extend [a]) := by
  obtain ⟨c₁, hrun, h₁⟩ := h.exists_read_digits (List.all_eq_true.mpr a.isDigit_of_mem)
  rw [hdigits, List.nil_append] at h₁
  have hpending := h₁.pending_eq_some_iff.mpr ⟨a.isNumeral, rfl⟩
  have hclose := close_eq_ok_iff.mpr ⟨a.fits, a.unit, htime.trans h₁.inTime.symm, rfl,
    h₁.rank_lt_iff.mpr hrank, rfl⟩
  have hletter : c₁.step a.unit.designator =
      c₁.close (Text.numeralValue a.digits) a.unit.designator := by
    rw [Cursor.step, a.unit.isDigit_designator, if_neg Bool.false_ne_true,
      if_neg a.unit.designator_ne_T, hpending]
  refine ⟨_, ?_, h₁.extend htime hrank⟩
  rw [Part.chars, List.foldlM_append, hrun]
  change List.foldlM Cursor.step c₁ [a.unit.designator] = _
  rw [List.foldlM_cons, hletter, hclose]
  rfl

/-- Components are read one after the other if they may follow in this order. -/
theorem exists_read_parts (h : c.At f) (hdigits : f.digits = []) {as : List Part}
    (htime : ∀ a ∈ as, a.unit.isTime = f.time?.isSome)
    (hincreasing : ((f.parts ++ as).map Part.unit).Pairwise fun u v ↦ u.rank < v.rank) :
    ∃ c', (as.flatMap Part.chars).foldlM Cursor.step c = .ok c' ∧ c'.At (f.extend as) := by
  induction as generalizing c f with
  | nil =>
    refine ⟨c, rfl, ?_⟩
    rwa [Front.extend_nil hdigits]
  | cons a as ih =>
    have hrank : ∀ b ∈ f.parts, b.unit.rank < a.unit.rank := by
      rw [List.map_append, List.pairwise_append] at hincreasing
      intro b hb
      exact hincreasing.2.2 b.unit (List.mem_map_of_mem hb) a.unit (by simp)
    obtain ⟨c₁, hrun₁, h₁⟩ := h.exists_read_part hdigits (htime a List.mem_cons_self) hrank
    obtain ⟨c', hrun', h'⟩ := ih h₁ (f.digits_extend [a])
      (fun b hb ↦ by rw [f.isSome_time?_extend, htime b (List.mem_cons_of_mem a hb)])
      (by rwa [Front.parts_extend, List.append_assoc])
    rw [Front.extend_extend] at h'
    refine ⟨c', ?_, h'⟩
    rw [List.flatMap_cons, List.foldlM_append, hrun₁]
    exact hrun'

end At

end Cursor

/-! ## Whole periods -/

theorem parse_eq_ok_iff {s : String} {p : Period} :
    parse s = .ok p ↔ parseChars s.toList = .ok p := by
  rw [parse, mapError_eq_ok_iff]

theorem exists_spelling_of_parse {s : String} {p : Period} (h : parse s = .ok p) :
    ∃ w : Spelling, w.text = s ∧ p.HasParts w.parts := by
  rw [parse_eq_ok_iff, parseChars.eq_def] at h
  split at h
  · next cs hcs =>
    obtain ⟨c, hrun, hfinish⟩ := bind_eq_ok_iff.mp h
    obtain ⟨f, hf, hchars⟩ := Cursor.At.start.run hrun
    obtain ⟨w, hw, hparts⟩ := hf.finish hfinish
    have htext : w.chars = s.toList := by
      rw [hw, hchars, hcs]
      rfl
    exact ⟨w, by rw [Spelling.text, htext, String.ofList_toList], hparts⟩
  · cases h

theorem exists_read_spelling (w : Spelling) :
    ∃ c : Cursor, c.At ⟨w.date, if w.time = [] then none else some w.time, []⟩ ∧
      (w.date.flatMap Part.chars ++ Spelling.timeChars w.time).foldlM Cursor.step {} = .ok c := by
  have hincreasing := w.increasing
  have hdates : (w.date.map Part.unit).Pairwise fun u v ↦ u.rank < v.rank := by
    rw [Spelling.parts, List.map_append, List.pairwise_append] at hincreasing
    exact hincreasing.1
  obtain ⟨c, hrun, hc⟩ := Cursor.At.start.exists_read_parts rfl
    (fun a ha ↦ Spelling.isTime_of_mem_date ha) hdates
  have hc : c.At ⟨w.date, none, []⟩ := hc
  rw [List.foldlM_append, hrun]
  by_cases hnil : w.time = []
  · rw [if_pos hnil, hnil]
    exact ⟨c, hc, rfl⟩
  · -- the components of the time are read from the cursor behind the `T`
    have hmarked : Cursor.At { c with inTime := true } ⟨w.date, some [], []⟩ := hc.marker rfl
    have hT : c.step 'T' = .ok { c with inTime := true } := by
      have hpending := hc.pending_eq_none_iff.mpr rfl
      simp [Cursor.step, hc.inTime, hpending]
    have hbehind : ((Front.parts ⟨w.date, some [], []⟩ ++ w.time).map Part.unit).Pairwise
        fun u v ↦ u.rank < v.rank := by
      simpa [Front.parts, Spelling.parts] using hincreasing
    obtain ⟨c', hrun', hc'⟩ := hmarked.exists_read_parts rfl
      (fun a ha ↦ Spelling.isTime_of_mem_time ha) hbehind
    rw [if_neg hnil, Spelling.timeChars_of_ne_nil hnil]
    refine ⟨c', hc', ?_⟩
    change List.foldlM Cursor.step c ('T' :: _) = _
    rw [List.foldlM_cons, hT]
    exact hrun'

theorem exists_parse_text (w : Spelling) : ∃ p, parse w.text = .ok p ∧ p.HasParts w.parts := by
  obtain ⟨c, hc, hrun⟩ := exists_read_spelling w
  have hparts : Front.parts ⟨w.date, if w.time = [] then none else some w.time, []⟩ = w.parts := by
    by_cases hnil : w.time = [] <;> simp [Front.parts, Spelling.parts, hnil]
  have htime : (if w.time = [] then none else some w.time) ≠ some [] := by
    by_cases hnil : w.time = [] <;> simp [hnil]
  have hfinish := hc.finish_eq_ok rfl (hparts ▸ w.ne_nil) htime
  refine ⟨c.period, ?_, hparts ▸ hc.period⟩
  rw [parse_eq_ok_iff, Spelling.text, String.toList_ofList]
  change (_ >>= Cursor.finish) = _
  rw [hrun]
  exact hfinish

/-- **Reading accepts exactly what is spelled.** A text is read if and only if it has a spelling,
and then the period has the written numbers, and zero for the components that are not written. -/
theorem accepts_iff_spelled (s : String) :
    ((∃ p, parse s = .ok p) ↔ ∃ w : Spelling, w.text = s) ∧
      ∀ w : Spelling, w.text = s → ∃ p, parse s = .ok p ∧
        (∀ a ∈ w.parts, (p.get a.unit).toNat = Text.numeralValue a.digits) ∧
        ∀ u, u ∉ w.parts.map Part.unit → p.get u = 0 := by
  constructor
  · constructor
    · rintro ⟨p, hp⟩
      obtain ⟨w, hw, -⟩ := exists_spelling_of_parse hp
      exact ⟨w, hw⟩
    · rintro ⟨w, rfl⟩
      obtain ⟨p, hp, -⟩ := exists_parse_text w
      exact ⟨p, hp⟩
  · rintro w rfl
    obtain ⟨p, hp, hparts⟩ := exists_parse_text w
    exact ⟨p, hp, hparts.get_unit, hparts.get_absent⟩

end FacetedSearch.Period

import FacetedSearch.DateMath
import FacetedSearch.Proofs.Steps
import FacetedSearch.Proofs.Text.Runs

/-!
# What an offset says about its period

An offset is written term by term, each a sign, a number and the name of a unit. Nothing separates
the terms, but a sign is no letter, a letter is no digit, and numbers have no leading zeros, so the
terms can be read off the text; `flatMap_termChars_inj` says so as a cancellation law.

The terms in turn determine three numbers, which are all that a period contributes to a bound:
years, months, and days with weeks counted as seven of them. `offsetText_eq_iff` puts the two
together.
-/

namespace FacetedSearch

open Text (append_inj_of_run numeral)

namespace DateMath

/-! ## Terms as characters -/

/-- The characters of a term behind its sign. -/
def termChars (sign : Sign) (t : Term) : List Char :=
  sign.text.toList ++ (numeral t.amount ++ t.unit.text.toList)

theorem toList_append_text (sign : Sign) (t : Term) :
    (sign.text ++ t.text).toList = termChars sign t := by
  simp [termChars, Term.text, numeral]

theorem text_unit_injective {u v : DateUnit} (h : u.text.toList = v.text.toList) : u = v := by
  revert h
  cases u <;> cases v <;> decide

theorem isUpper_text_unit (u : DateUnit) : ∀ c ∈ u.text.toList, c.isUpper = true := by
  cases u <;> exact List.all_eq_true.mp rfl

/-- A letter follows the digits of a number. -/
theorem isDigit_head_text_unit (u : DateUnit) (rest : List Char) :
    ∀ c ∈ (u.text.toList ++ rest).head?, c.isDigit = false := by
  cases u <;> rintro c ⟨⟩ <;> rfl

theorem isUpper_head_flatMap (sign : Sign) (ts : List Term) :
    ∀ c ∈ (ts.flatMap (termChars sign)).head?, c.isUpper = false := by
  cases ts with
  | nil => simp
  | cons t ts => cases sign <;> rintro c ⟨⟩ <;> rfl

theorem numeral_injective {m n : Nat} (h : numeral m = numeral n) : m = n := by
  rw [← Text.numeralValue_numeral m, h, Text.numeralValue_numeral]

/-- Terms are read off their text. -/
theorem flatMap_termChars_inj {sign : Sign} {ts us : List Term}
    (h : ts.flatMap (termChars sign) = us.flatMap (termChars sign)) : ts = us := by
  induction ts generalizing us with
  | nil =>
    cases us with
    | nil => rfl
    | cons u us => cases sign <;> cases h
  | cons t ts ih =>
    cases us with
    | nil => cases sign <;> cases h
    | cons u us =>
      have hdigit (n : Nat) : ∀ c ∈ numeral n, c.isDigit = true :=
        List.all_eq_true.mp (Text.all_isDigit_numeral n)
      -- the number ends where the unit begins, and the unit where the next sign stands
      simp only [List.flatMap_cons, termChars, List.append_assoc] at h
      obtain ⟨hamount, hunit⟩ := append_inj_of_run (hdigit t.amount) (hdigit u.amount)
        (isDigit_head_text_unit t.unit _) (isDigit_head_text_unit u.unit _)
        (List.append_cancel_left h)
      obtain ⟨hunit, hrest⟩ := append_inj_of_run (isUpper_text_unit t.unit)
        (isUpper_text_unit u.unit) (isUpper_head_flatMap sign ts) (isUpper_head_flatMap sign us)
        hunit
      have htu : t = u := by
        obtain ⟨amount, unit⟩ := t
        obtain ⟨amount', unit'⟩ := u
        rw [Term.mk.injEq]
        exact ⟨numeral_injective hamount, text_unit_injective hunit⟩
      rw [htu, ih hrest]

/-- The number of a unit in a sequence of terms. A unit that does not occur counts as zero. -/
def amountOf (unit : DateUnit) (ts : List Term) : Nat :=
  ((ts.filter fun t ↦ t.unit = unit).map Term.amount).sum

end DateMath

namespace Period

open DateMath

/-! ## Offsets -/

/-- The periods have the same years and months, and the same days with the weeks among them. -/
def SameDays (p q : Period) : Prop :=
  p.years = q.years ∧ p.months = q.months ∧ p.dayCount = q.dayCount

instance (p q : Period) : Decidable (p.SameDays q) := inferInstanceAs (Decidable (_ ∧ _))

variable {p q : Period} {ts : List Term} {sign : Sign} {s t : String}

theorem hasTime_iff : p.hasTime = true ↔ p.hours ≠ 0 ∨ p.minutes ≠ 0 ∨ p.seconds ≠ 0 := by
  simp [hasTime, Component.ofTime, get]

/-- The terms of a period show its three numbers. -/
theorem amountOf_dateTerms (h : p.dateTerms = .ok ts) :
    amountOf .years ts = p.years.toNat ∧ amountOf .months ts = p.months.toNat ∧
      amountOf .days ts = p.dayCount := by
  unfold dateTerms at h
  split at h
  · cases h
  · cases h
    by_cases hyears : p.years.toNat = 0 <;> by_cases hmonths : p.months.toNat = 0 <;>
      by_cases hdays : p.dayCount = 0 <;> simp [amountOf, hyears, hmonths, hdays]

theorem dateTerms_ne_nil (h : p.dateTerms = .ok ts) : ts ≠ [] := by
  unfold dateTerms at h
  split at h
  · cases h
  · dsimp only at h
    split at h
    · cases h
      simp
    · next hlong =>
      cases h
      exact (not_or.mp hlong).2

/-- Periods with the same three numbers have the same terms, if they have terms at all. -/
theorem SameDays.dateTerms_eq {us : List Term} (h : p.SameDays q) (hp : p.dateTerms = .ok ts)
    (hq : q.dateTerms = .ok us) : ts = us := by
  obtain ⟨hyears, hmonths, hdays⟩ := h
  unfold dateTerms at hp hq
  split at hp
  · cases hp
  split at hq
  · cases hq
  rw [hyears, hmonths, hdays, hq] at hp
  exact (Except.ok.inj hp).symm

theorem sameDays_of_dateTerms (hp : p.dateTerms = .ok ts) (hq : q.dateTerms = .ok ts) :
    p.SameDays q := by
  obtain ⟨hyears, hmonths, hdays⟩ := amountOf_dateTerms hp
  obtain ⟨hyears', hmonths', hdays'⟩ := amountOf_dateTerms hq
  exact ⟨UInt32.toNat_inj.mp (hyears.symm.trans hyears'),
    UInt32.toNat_inj.mp (hmonths.symm.trans hmonths'), hdays.symm.trans hdays'⟩

/-- The only period without an offset is one with a time. -/
theorem offsetText_eq_error_iff {v : Violation} :
    p.offsetText sign = .error v ↔ p.hasTime = true ∧ v = .unsupportedPeriodUnit p := by
  rw [offsetText, bind_eq_error_iff, dateTerms]
  split
  · next htime => simp [htime, eq_comm]
  · next htime => simp [htime, pure, Except.pure]

theorem toList_of_offsetText (h : p.offsetText sign = .ok s) :
    ∃ ts, p.dateTerms = .ok ts ∧ s.toList = ts.flatMap (termChars sign) := by
  obtain ⟨ts, hts, h⟩ := bind_eq_ok_iff.mp h
  cases h
  refine ⟨ts, hts, ?_⟩
  rw [String.toList_join, List.flatMap_map]
  simp only [toList_append_text]

/-- **An offset shows three numbers of its period and nothing else.** -/
theorem offsetText_eq_iff (hp : p.offsetText sign = .ok s) (hq : q.offsetText sign = .ok t) :
    s = t ↔ p.SameDays q := by
  obtain ⟨ts, hts, hs⟩ := toList_of_offsetText hp
  obtain ⟨us, hus, ht⟩ := toList_of_offsetText hq
  rw [← String.toList_inj, hs, ht]
  constructor
  · intro h
    rw [← flatMap_termChars_inj h] at hus
    exact sameDays_of_dateTerms hts hus
  · intro h
    rw [h.dateTerms_eq hts hus]

example : SameDays { months := 2, weeks := 1, days := 3 } { months := 2, days := 10 } := by decide

theorem head?_of_offsetText (h : p.offsetText sign = .ok s) :
    s.toList.head? = sign.text.toList.head? := by
  obtain ⟨ts, hts, hs⟩ := toList_of_offsetText h
  rw [hs]
  cases ts with
  | nil => exact absurd rfl (dateTerms_ne_nil hts)
  | cons t ts => cases sign <;> rfl

theorem mem_of_offsetText (h : p.offsetText sign = .ok s) {c : Char} (hc : c ∈ s.toList) :
    c ∈ sign.text.toList ∨ c.isDigit = true ∨ c.isUpper = true := by
  obtain ⟨ts, -, hs⟩ := toList_of_offsetText h
  rw [hs, List.mem_flatMap] at hc
  obtain ⟨t, -, hc⟩ := hc
  rcases List.mem_append.mp hc with hc | hc
  · exact .inl hc
  · rcases List.mem_append.mp hc with hc | hc
    · exact .inr (.inl (List.all_eq_true.mp (Text.all_isDigit_numeral t.amount) c hc))
    · exact .inr (.inr (isUpper_text_unit t.unit c hc))

end Period

end FacetedSearch

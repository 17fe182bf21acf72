import FacetedSearch.Text.Digits
import Mathlib.Data.String.Basic
import Mathlib.Tactic

/-!
# Numerals with and without leading zeros

Numerals with leading zeros are how dates and times are written. A number that fits the width is
written with exactly that many digits, all of them read back, and nothing behind them is touched.
Trailing zeros, which fill up the fraction of a second, multiply. Where no zero may stand in front,
a number has one numeral (`numeral_numeralValue`).

Where numbers fill a width, the order of their texts is the order of the numbers
(`padded_append_le`).
-/

namespace FacetedSearch.Text

theorem all_isDigit_numeral (n : Nat) : (numeral n).all Char.isDigit = true := by
  have h := isNumeral_numeral n
  rw [isNumeral, Bool.and_eq_true] at h
  exact h.2

theorem numeral_ne_nil (n : Nat) : numeral n ≠ [] := Nat.toDigits_ne_nil

/-- A run of characters extends to the first one that is not among them. -/
theorem takeWhile_append_of_head? {f : Char → Bool} {cs rest : List Char}
    (hcs : ∀ c ∈ cs, f c = true) (hrest : ∀ c ∈ rest.head?, f c = false) :
    (cs ++ rest).takeWhile f = cs ∧ (cs ++ rest).dropWhile f = rest := by
  rw [List.takeWhile_append_of_pos hcs, List.dropWhile_append_of_pos hcs]
  cases rest with
  | nil => simp
  | cons c rest =>
    have hc : ¬ f c = true := by simp [hrest c rfl]
    rw [List.takeWhile_cons_of_neg hc, List.dropWhile_cons_of_neg hc, List.append_nil]
    exact ⟨rfl, rfl⟩

/-! ## Leading zeros -/

theorem length_padded {w n : Nat} (hw : 0 < w) (h : n < 10 ^ w) : (padded w n).length = w := by
  have hlen : (numeral n).length ≤ w := (Nat.length_toDigits_le_iff (by decide) hw).mpr h
  rw [padded, List.length_leftpad]
  exact max_eq_left hlen

theorem all_isDigit_padded (w n : Nat) : (padded w n).all Char.isDigit = true := by
  rw [padded, List.leftpad, List.all_append, all_isDigit_numeral, Bool.and_true, List.all_eq_true]
  intro c hc
  rw [List.eq_of_mem_replicate hc]
  rfl

@[simp] theorem numeralValue_padded (w n : Nat) : numeralValue (padded w n) = n := by
  rw [padded, List.leftpad, numeralValue, Nat.ofDigitChars_append, Nat.ofDigitChars_replicate_zero,
    Nat.mul_zero]
  exact numeralValue_numeral n

theorem takeDigits_padded {w n : Nat} (hw : 0 < w) (h : n < 10 ^ w) (cs : List Char) :
    takeDigits w (padded w n ++ cs) = some (n, cs) := by
  have hlen := length_padded hw h
  have htake : (padded w n ++ cs).take w = padded w n := List.take_left' hlen
  have hdrop : (padded w n ++ cs).drop w = cs := List.drop_left' hlen
  rw [takeDigits, htake, hdrop, if_pos ⟨hlen, all_isDigit_padded w n⟩, numeralValue_padded]

theorem takeDigits_cons_of_not_isDigit {n : Nat} {c : Char} (hc : c.isDigit = false)
    (cs : List Char) : takeDigits (n + 1) (c :: cs) = none := by
  simp [takeDigits, hc]

/-! ## Trailing zeros -/

theorem numeralValue_append_replicate_zero (cs : List Char) (k : Nat) :
    numeralValue (cs ++ List.replicate k '0') = 10 ^ k * numeralValue cs := by
  rw [numeralValue, Nat.ofDigitChars_append, Nat.ofDigitChars_replicate_zero, numeralValue]

/-! ## No zeros in front -/

theorem digitValue_lt {c : Char} (hc : c.isDigit = true) : digitValue c < 10 := by
  simp only [Char.isDigit, Bool.and_eq_true, decide_eq_true_eq] at hc
  have hhigh : c.toNat ≤ 57 := hc.2
  change c.toNat - 48 < 10
  omega

theorem numeral_digitValue {c : Char} (hc : c.isDigit = true) : numeral (digitValue c) = [c] := by
  have hvalue := Nat.toNat_digitChar_of_lt_ten (digitValue_lt hc)
  rw [numeral, Nat.toDigits_of_lt_base (digitValue_lt hc), List.singleton_inj, ← Char.toNat_inj,
    hvalue]
  simp only [Char.isDigit, Bool.and_eq_true, decide_eq_true_eq] at hc
  have hlow : 48 ≤ c.toNat := hc.1
  change 48 + (c.toNat - 48) = c.toNat
  omega

theorem numeral_append {n : Nat} (hn : 0 < n) {ds : List Char} (hds : ds.all Char.isDigit = true) :
    numeral n ++ ds = numeral (Nat.ofDigitChars 10 ds n) := by
  induction ds generalizing n with
  | nil => simp
  | cons d ds ih =>
    rw [List.all_cons, Bool.and_eq_true] at hds
    obtain ⟨hd, hds⟩ := hds
    have hlonger : numeral n ++ [d] = numeral (10 * n + digitValue d) := by
      rw [← numeral_digitValue hd]
      exact Nat.toDigits_append_toDigits (by decide) hn (digitValue_lt hd)
    calc numeral n ++ d :: ds = (numeral n ++ [d]) ++ ds := by simp
      _ = numeral (10 * n + digitValue d) ++ ds := by rw [hlonger]
      _ = numeral (Nat.ofDigitChars 10 ds (10 * n + digitValue d)) := ih (by omega) hds
      _ = numeral (Nat.ofDigitChars 10 (d :: ds) n) := by rw [Nat.ofDigitChars_cons, digitValue]

/-- A number that is written without a zero in front is written as its numeral. -/
theorem numeral_numeralValue {ds : List Char} (hds : isNumeral ds = true)
    (hhead : ds.head? ≠ some '0') : numeral (numeralValue ds) = ds := by
  rw [isNumeral, Bool.and_eq_true] at hds
  obtain ⟨hne, hdigits⟩ := hds
  rcases ds with _ | ⟨d, ds⟩
  · cases hne
  · rw [List.all_cons, Bool.and_eq_true] at hdigits
    obtain ⟨hd, hds⟩ := hdigits
    have hpos : 0 < digitValue d := by
      by_contra hzero
      have hdigit := numeral_digitValue hd
      rw [Nat.eq_zero_of_not_pos hzero] at hdigit
      exact hhead (congrArg List.head? hdigit).symm
    have hvalue : numeralValue (d :: ds) = Nat.ofDigitChars 10 ds (digitValue d) := by
      rw [numeralValue, Nat.ofDigitChars_cons, Nat.mul_zero, Nat.zero_add, digitValue]
    rw [hvalue, ← numeral_append hpos hds, numeral_digitValue hd]
    rfl

theorem head?_numeral_ne {n : Nat} (hn : n ≠ 0) : (numeral n).head? ≠ some '0' := by
  induction n using Nat.base_induction 10 (by decide) with
  | single m hm => simpa [numeral, Nat.toDigits_of_lt_base hm] using hn
  | digit m k hk hm ih =>
    have hsplit : numeral (10 * m + k) = numeral m ++ numeral k :=
      (Nat.toDigits_append_toDigits (by decide) hm hk).symm
    rw [hsplit, List.head?_append_of_ne_nil _ (numeral_ne_nil m)]
    exact ih hm.ne'

/-! ## Order -/

theorem numeralValue_cons (d : Char) (ds : List Char) :
    numeralValue (d :: ds) = 10 ^ ds.length * digitValue d + numeralValue ds := by
  rw [numeralValue, Nat.ofDigitChars_cons, Nat.ofDigitChars_eq_ofDigitChars_zero, Nat.mul_zero,
    Nat.zero_add]
  rfl

theorem numeralValue_lt {ds : List Char} (hds : ds.all Char.isDigit = true) :
    numeralValue ds < 10 ^ ds.length := by
  induction ds with
  | nil => simp [numeralValue]
  | cons d ds ih =>
    rw [List.all_cons, Bool.and_eq_true] at hds
    obtain ⟨hd, hds⟩ := hds
    have htail := ih hds
    have hhead : digitValue d + 1 ≤ 10 := digitValue_lt hd
    calc numeralValue (d :: ds) = 10 ^ ds.length * digitValue d + numeralValue ds :=
          numeralValue_cons d ds
      _ < 10 ^ ds.length * (digitValue d + 1) := by rw [Nat.mul_add_one]; omega
      _ ≤ 10 ^ ds.length * 10 := Nat.mul_le_mul_left _ hhead
      _ = 10 ^ (d :: ds).length := by rw [List.length_cons, pow_succ]

theorem lt_of_digitValue_lt {c d : Char} (h : digitValue c < digitValue d) : c < d := by
  have hlt : c.toNat < d.toNat := by
    change c.toNat - 48 < d.toNat - 48 at h
    omega
  exact hlt

theorem digitValue_inj {c d : Char} (hc : c.isDigit = true) (hd : d.isDigit = true)
    (h : digitValue c = digitValue d) : c = d := by
  have hnumeral := numeral_digitValue hc
  rw [h, numeral_digitValue hd] at hnumeral
  exact (List.singleton_inj.mp hnumeral).symm

/-- Runs of digits of one length come in the order of their values, whatever follows them. -/
theorem append_lt_of_numeralValue_lt {ds es : List Char} (hlength : ds.length = es.length)
    (hds : ds.all Char.isDigit = true) (hes : es.all Char.isDigit = true)
    (h : numeralValue ds < numeralValue es) (rest rest' : List Char) :
    ds ++ rest < es ++ rest' := by
  induction ds generalizing es with
  | nil =>
    obtain rfl := List.length_eq_zero_iff.mp hlength.symm
    exact absurd h (lt_irrefl _)
  | cons d ds ih =>
    rcases es with _ | ⟨e, es⟩
    · cases hlength
    · rw [List.length_cons, List.length_cons, Nat.add_right_cancel_iff] at hlength
      rw [List.all_cons, Bool.and_eq_true] at hds hes
      rw [numeralValue_cons, numeralValue_cons, hlength] at h
      rw [List.cons_append, List.cons_append, List.cons_lt_cons_iff]
      -- the first digits decide, unless they are equal
      rcases lt_trichotomy (digitValue d) (digitValue e) with hlt | heq | hgt
      · exact .inl (lt_of_digitValue_lt hlt)
      · rw [heq, Nat.add_lt_add_iff_left] at h
        exact .inr ⟨digitValue_inj hds.1 hes.1 heq, ih hlength hds.2 hes.2 h⟩
      · -- one more in front outweighs all that is behind
        have hbehind := numeralValue_lt hes.2
        have hfront : 10 ^ es.length * (digitValue e + 1) ≤ 10 ^ es.length * digitValue d :=
          Nat.mul_le_mul_left _ hgt
        rw [Nat.mul_add_one] at hfront
        omega

/-- Numbers of one width come in their order, and what follows them decides between equal ones. -/
theorem padded_append_le {w m n : Nat} (hw : 0 < w) (hm : m < 10 ^ w) (hn : n < 10 ^ w)
    {rest rest' : List Char} (h : m < n ∨ m = n ∧ rest ≤ rest') :
    padded w m ++ rest ≤ padded w n ++ rest' := by
  rcases h with hlt | ⟨rfl, hrest⟩
  · refine le_of_lt (append_lt_of_numeralValue_lt ?_ (all_isDigit_padded w m)
      (all_isDigit_padded w n) ?_ rest rest')
    · rw [length_padded hw hm, length_padded hw hn]
    · rwa [numeralValue_padded, numeralValue_padded]
  · rcases hrest.lt_or_eq with hlt | rfl
    · exact le_of_lt (List.append_left_lt hlt)
    · exact le_refl _

theorem padded_append_cons_le {w m n : Nat} (hw : 0 < w) (hm : m < 10 ^ w) (hn : n < 10 ^ w)
    (c : Char) {rest rest' : List Char} (h : m < n ∨ m = n ∧ rest ≤ rest') :
    padded w m ++ c :: rest ≤ padded w n ++ c :: rest' :=
  padded_append_le hw hm hn (h.imp_right (And.imp_right (List.cons_le_cons c)))

end FacetedSearch.Text

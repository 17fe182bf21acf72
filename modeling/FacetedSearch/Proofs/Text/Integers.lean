import FacetedSearch.Proofs.Text.Numerals
import FacetedSearch.Text.Blank
import Mathlib.Data.List.TakeWhile

/-!
# Integers within a text

An integer is spelled by an optional sign and a run of digits, of which any number may be zeros in
front, and there may be blanks around it. `SpellsPadded` says this without a reader, and
`readInt?_trimChars_eq_some_iff` that the reader takes exactly these texts: the blanks that are cut
off are those of the spelling, since neither signs nor digits are blank.

Among the spellings of a number that is not negative there is one without sign, blanks and zeros in
front (`IsDecimal`), and this is how numbers are written.
-/

namespace FacetedSearch.Text

variable {cs ds front core back : List Char} {c : Char} {n : Int}

/-! ## Spellings -/

/-- Characters that spell an integer: an optional sign and at least one digit. -/
inductive SpellsInt : List Char → Int → Prop
  | unsigned {ds : List Char} (hds : isNumeral ds = true) : SpellsInt ds (numeralValue ds)
  | plus {ds : List Char} (hds : isNumeral ds = true) : SpellsInt ('+' :: ds) (numeralValue ds)
  | minus {ds : List Char} (hds : isNumeral ds = true) :
    SpellsInt ('-' :: ds) (-(numeralValue ds : Int))

/-- Characters that spell an integer between any number of blanks. -/
def SpellsPadded (cs : List Char) (n : Int) : Prop :=
  ∃ front core back, cs = front ++ core ++ back ∧ (∀ c ∈ front, isBlank c = true) ∧
    (∀ c ∈ back, isBlank c = true) ∧ SpellsInt core n

/-- The digits of a number, with no zero in front unless it is the number itself. -/
structure IsDecimal (cs : List Char) (n : Nat) : Prop where
  isNumeral : isNumeral cs = true
  numeralValue_eq : numeralValue cs = n
  eq_of_head? : cs.head? = some '0' → cs = ['0']

theorem isDecimal_numeral (n : Nat) : IsDecimal (numeral n) n where
  isNumeral := isNumeral_numeral n
  numeralValue_eq := numeralValue_numeral n
  eq_of_head? h := by
    by_cases hn : n = 0
    · rw [hn]
      rfl
    · exact absurd h (head?_numeral_ne hn)

theorem toList_toString (n : Nat) : (toString n).toList = numeral n := String.toList_ofList

/-! ## Signs and digits -/

theorem readInt?_eq_some_iff : readInt? cs = some n ↔ SpellsInt cs n := by
  constructor
  · intro h
    rw [readInt?.eq_def] at h
    split at h
    · split at h
      · next hds =>
        cases h
        exact .plus hds
      · cases h
    · split at h
      · next hds =>
        cases h
        exact .minus hds
      · cases h
    · split at h
      · next hds =>
        cases h
        exact .unsigned hds
      · cases h
  · rintro (hds | hds | hds)
    · -- a run of digits has no sign in front
      rw [readInt?.eq_def]
      split
      · cases hds
      · cases hds
      · rw [if_pos hds]
    · rw [readInt?, if_pos hds]
    · rw [readInt?, if_pos hds]

theorem isBlank_eq_false_of_isDigit (hc : c.isDigit = true) : isBlank c = false := by
  simp only [Char.isDigit, Bool.and_eq_true, decide_eq_true_eq] at hc
  have hlow : 48 ≤ c.toNat := hc.1
  have hhigh : c.toNat ≤ 57 := hc.2
  have hranges : ∀ r ∈ blankRanges, r.2 < 48 ∨ 57 < r.1 := by decide
  rw [isBlank, List.any_eq_false]
  intro r hr hc
  rw [Bool.and_eq_true, decide_eq_true_eq, decide_eq_true_eq] at hc
  have hrange := hranges r hr
  omega

theorem SpellsInt.isBlank_eq_false (h : SpellsInt cs n) : ∀ c ∈ cs, isBlank c = false := by
  have hrun {ds : List Char} (hds : isNumeral ds = true) : ∀ c ∈ ds, isBlank c = false := by
    rw [isNumeral, Bool.and_eq_true, List.all_eq_true] at hds
    exact fun c hc ↦ isBlank_eq_false_of_isDigit (hds.2 c hc)
  cases h with
  | unsigned hds => exact hrun hds
  | plus hds => exact List.forall_mem_cons.mpr ⟨by decide, hrun hds⟩
  | minus hds => exact List.forall_mem_cons.mpr ⟨by decide, hrun hds⟩

/-! ## Blanks at the ends -/

theorem exists_append_trimChars (cs : List Char) : ∃ front back,
    cs = front ++ trimChars cs ++ back ∧ (∀ c ∈ front, isBlank c = true) ∧
      ∀ c ∈ back, isBlank c = true := by
  have hblank (ds : List Char) : ∀ c ∈ ds.takeWhile isBlank, isBlank c = true := fun c hc ↦
    List.mem_takeWhile_imp hc
  refine ⟨cs.takeWhile isBlank, ((cs.dropWhile isBlank).reverse.takeWhile isBlank).reverse, ?_,
    hblank cs, fun c hc ↦ hblank _ c (List.mem_reverse.mp hc)⟩
  rw [trimChars, List.append_assoc, ← List.reverse_append, List.takeWhile_append_dropWhile,
    List.reverse_reverse, List.takeWhile_append_dropWhile]

theorem trimChars_append (hfront : ∀ c ∈ front, isBlank c = true)
    (hback : ∀ c ∈ back, isBlank c = true) (hcore : ∀ c ∈ core, isBlank c = false) :
    trimChars (front ++ core ++ back) = core := by
  cases core with
  | nil =>
    have hall : ∀ c ∈ front ++ [] ++ back, isBlank c = true := by
      simpa [or_imp, forall_and] using ⟨hfront, hback⟩
    rw [trimChars, List.dropWhile_eq_nil_iff.mpr hall]
    rfl
  | cons d ds =>
    have hhead : ∀ c ∈ (d :: ds ++ back).head?, isBlank c = false := by
      rintro c ⟨⟩
      exact hcore d List.mem_cons_self
    have hlast : ∀ c ∈ (d :: ds).reverse.head?, isBlank c = false := fun c hc ↦
      hcore c (List.mem_reverse.mp (List.mem_of_mem_head? hc))
    have hreverse : ∀ c ∈ back.reverse, isBlank c = true := fun c hc ↦
      hback c (List.mem_reverse.mp hc)
    rw [trimChars, List.append_assoc, (takeWhile_append_of_head? hfront hhead).2,
      List.reverse_append, (takeWhile_append_of_head? hreverse hlast).2, List.reverse_reverse]

/-- **An integer within a text.** The reader takes it exactly if nothing but blanks is around it. -/
theorem readInt?_trimChars_eq_some_iff : readInt? (trimChars cs) = some n ↔ SpellsPadded cs n := by
  rw [readInt?_eq_some_iff]
  constructor
  · intro h
    obtain ⟨front, back, hcs, hfront, hback⟩ := exists_append_trimChars cs
    exact ⟨front, trimChars cs, back, hcs, hfront, hback, h⟩
  · rintro ⟨front, core, back, rfl, hfront, hback, h⟩
    rwa [trimChars_append hfront hback h.isBlank_eq_false]

/-- Other scripts have blanks, too, and zeros in front do not count. -/
example : readInt? (trimChars "\u3000-007\n".toList) = some (-7) := by decide

end FacetedSearch.Text

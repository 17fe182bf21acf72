import FacetedSearch.Proofs.Filter.Alike

/-!
# Reading conditions

A condition is a field and what is asked of it: one term, several terms in parentheses, or a range
in brackets. `Leaf` is a condition taken apart in this way, as it stands in the text. Different
leaves have different texts, and the text of a leaf can be told from what may follow it in a group
(`Leaf.chars_append_inj`).
-/

namespace FacetedSearch

open Text (EndsMember append_cons_inj append_inj_of_endsMember append_inj_of_run
  intercalate_append_inj)

/-! ## Leaves -/

/-- What is asked of a field. -/
inductive Demand where
  | term (term : List Char)
  | terms (terms : List (List Char))
  | range (lower upper : List Char)

namespace Demand

/-- A demand as it is written. -/
def chars : Demand → List Char
  | term t => t
  | terms ts => '(' :: ([' '].intercalate ts ++ [')'])
  | range lower upper => '[' :: (lower ++ [' ', 'T', 'O', ' '] ++ upper ++ [']'])

/-- Terms are words, and bounds do not contain what ends them. -/
def Clean : Demand → Prop
  | term t => t ≠ [] ∧ ∀ c ∈ t, isWordChar c = true
  | terms ts => ts ≠ [] ∧ ∀ t ∈ ts, ∀ c ∈ t, isWordChar c = true
  | range lower upper => ' ' ∉ lower ∧ ']' ∉ upper

variable {v w : Demand} {rest rest' : List Char}

theorem term_append_ne_cons {t : List Char} (ht : (term t).Clean) {c : Char}
    (hc : isWordChar c = false) (rest rest' : List Char) : t ++ rest ≠ c :: rest' := by
  obtain ⟨hne, hword⟩ := ht
  cases t with
  | nil => exact absurd rfl hne
  | cons d t =>
    intro h
    have hd := hword d List.mem_cons_self
    rw [(List.cons.inj h).1, hc] at hd
    cases hd

theorem chars_append_inj (hv : v.Clean) (hw : w.Clean) (hrest : EndsMember rest)
    (hrest' : EndsMember rest') (h : v.chars ++ rest = w.chars ++ rest') :
    v = w ∧ rest = rest' := by
  have hword {ts us : List (List Char)} (hts : ∀ t ∈ ts, ∀ c ∈ t, isWordChar c = true)
      (hus : ∀ u ∈ us, ∀ c ∈ u, isWordChar c = true) : ∀ t ∈ ts, ∀ u ∈ us, ∀ {rest rest'},
        EndsMember rest → EndsMember rest' → id t ++ rest = id u ++ rest' → t = u ∧ rest = rest' :=
    fun t ht u hu ↦ append_inj_of_endsMember (by decide) (by decide) (hts t ht) (hus u hu)
  -- the kinds differ in their first characters, and no bound contains what ends it
  cases v with
  | term t =>
    cases w with
    | term u =>
      obtain ⟨rfl, hend⟩ :=
        append_inj_of_endsMember (by decide) (by decide) hv.2 hw.2 hrest hrest' h
      exact ⟨rfl, hend⟩
    | terms us => exact absurd h (term_append_ne_cons hv (by decide) _ _)
    | range lower upper => exact absurd h (term_append_ne_cons hv (by decide) _ _)
  | terms ts =>
    cases w with
    | term u => exact absurd h.symm (term_append_ne_cons hw (by decide) _ _)
    | terms us =>
      have hinner : (' ' :: []).intercalate (ts.map id) ++ ')' :: rest =
          (' ' :: []).intercalate (us.map id) ++ ')' :: rest' := by
        simpa [chars] using h
      obtain ⟨⟨-, hterms⟩, hend⟩ := intercalate_append_inj hv.1 hw.1 (hword hv.2 hw.2)
        (fun h ↦ ⟨rfl, List.append_cancel_left h⟩) hinner
      rw [List.forall₂_eq_eq_eq] at hterms
      exact ⟨congrArg terms hterms, hend⟩
    | range lower upper => exact absurd (List.cons.inj h).1 (by decide)
  | range lower upper =>
    cases w with
    | term u => exact absurd h.symm (term_append_ne_cons hw (by decide) _ _)
    | terms us => exact absurd (List.cons.inj h).1 (by decide)
    | range lower' upper' =>
      simp only [chars, List.cons_append, List.append_assoc, List.nil_append] at h
      obtain ⟨rfl, hupper⟩ := append_cons_inj hv.1 hw.1 (List.cons.inj h).2
      simp only [List.cons.injEq, true_and] at hupper
      obtain ⟨rfl, hend⟩ := append_cons_inj hv.2 hw.2 hupper
      exact ⟨rfl, hend⟩

end Demand

/-- A condition as it is written: whether it is negated, its field, and what is asked of the field.
-/
structure Leaf where
  excluded : Bool
  field : List Char
  demand : Demand

namespace Leaf

/-- The characters of a leaf. -/
def chars (l : Leaf) : List Char :=
  (if l.excluded then ['-'] else []) ++ (l.field ++ ':' :: l.demand.chars)

/-- The field of a leaf has the form of a name, and its demand is clean. -/
structure Clean (l : Leaf) : Prop where
  ne_nil : l.field ≠ []
  head?_ne : l.field.head? ≠ some '-'
  isFieldChar : ∀ c ∈ l.field, isFieldChar c = true
  demand : l.demand.Clean

variable {l m : Leaf} {rest rest' : List Char}

theorem field_append_inj (hl : l.Clean) (hm : m.Clean)
    (h : l.field ++ ':' :: rest = m.field ++ ':' :: rest') : l.field = m.field ∧ rest = rest' := by
  have hcolon {n : Leaf} (hn : n.Clean) : ':' ∉ n.field := fun hmem ↦
    absurd (hn.isFieldChar ':' hmem) (by decide)
  exact append_cons_inj (hcolon hl) (hcolon hm) h

theorem field_append_ne_cons (hl : l.Clean) {c : Char} (hc : c = '-' ∨ isFieldChar c = false)
    (rest rest' : List Char) : l.field ++ rest ≠ c :: rest' := by
  obtain ⟨hne, hhead, hchars, -⟩ := hl
  cases hfield : l.field with
  | nil => exact absurd hfield hne
  | cons d field =>
    rw [hfield] at hhead hchars
    rintro ⟨⟩
    rcases hc with rfl | hc
    · exact hhead rfl
    · exact absurd (hchars c List.mem_cons_self) (by rw [hc]; exact Bool.false_ne_true)

/-- **The text of a leaf determines the leaf** and what follows it. -/
theorem chars_append_inj (hl : l.Clean) (hm : m.Clean) (hrest : EndsMember rest)
    (hrest' : EndsMember rest') (h : l.chars ++ rest = m.chars ++ rest') :
    l = m ∧ rest = rest' := by
  have key (h : l.field ++ ':' :: (l.demand.chars ++ rest) =
      m.field ++ ':' :: (m.demand.chars ++ rest')) :
      l.field = m.field ∧ l.demand = m.demand ∧ rest = rest' := by
    obtain ⟨hfield, hdemand⟩ := field_append_inj hl hm h
    exact ⟨hfield, Demand.chars_append_inj hl.demand hm.demand hrest hrest' hdemand⟩
  obtain ⟨excluded, field, demand⟩ := l
  obtain ⟨excluded', field', demand'⟩ := m
  simp only [chars, List.append_assoc, List.cons_append] at h
  -- a field does not begin with the sign of an exclusion
  cases excluded with
  | false =>
    cases excluded' with
    | false =>
      obtain ⟨rfl, rfl, hend⟩ := key h
      exact ⟨rfl, hend⟩
    | true => exact absurd h (field_append_ne_cons hl (.inl rfl) _ _)
  | true =>
    cases excluded' with
    | false => exact absurd h.symm (field_append_ne_cons hm (.inl rfl) _ _)
    | true =>
      obtain ⟨rfl, rfl, hend⟩ := key (List.cons.inj h).2
      exact ⟨rfl, hend⟩

theorem chars_append_ne_paren (hl : l.Clean) (rest rest' : List Char) :
    l.chars ++ rest ≠ '(' :: rest' := by
  intro h
  simp only [chars, List.append_assoc] at h
  cases hexcluded : l.excluded with
  | true =>
    rw [hexcluded, if_pos rfl] at h
    exact absurd (List.cons.inj h).1 (by decide)
  | false =>
    rw [hexcluded, if_neg Bool.false_ne_true] at h
    exact field_append_ne_cons hl (.inr (by decide)) _ _ h

/-- A leaf does not begin like a negation. Its field may be named `NOT`, but no space follows it. -/
theorem chars_append_ne_not (hl : l.Clean) (rest rest' : List Char) :
    l.chars ++ rest ≠ ['N', 'O', 'T'] ++ ' ' :: rest' := by
  intro h
  simp only [chars, List.append_assoc] at h
  cases hexcluded : l.excluded with
  | true =>
    rw [hexcluded, if_pos rfl] at h
    exact absurd (List.cons.inj h).1 (by decide)
  | false =>
    rw [hexcluded, if_neg Bool.false_ne_true, List.nil_append, List.cons_append] at h
    -- the name would end at the space, and a colon has to follow it
    have hstop {c : Char} (hc : isFieldChar c = false) (cs : List Char) :
        ∀ d ∈ (c :: cs).head?, isFieldChar d = false := by
      rintro d ⟨⟩
      exact hc
    obtain ⟨-, hrest⟩ := append_inj_of_run hl.isFieldChar (List.all_eq_true.mp rfl)
      (hstop (by decide) _) (hstop (by decide) _) h
    exact absurd (List.cons.inj hrest).1 (by decide)

end Leaf

end FacetedSearch

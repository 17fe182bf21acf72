import FacetedSearch.Proofs.Text.Numerals

/-!
# Where one text ends and the next begins

Two texts in a row can be told apart if the first one consists of characters of a kind and the
second one does not begin with such a character. For words this is all there is to it. For members
of a list in parentheses it is carried from the members to the list: if a member can be told from
the space or the parenthesis behind it, so can the list from whatever follows it.

The statements are cancellation laws: equal characters in all mean equal parts.
-/

namespace FacetedSearch.Text

variable {cs ds rest rest' : List Char}

/-- A run of characters of a kind is told from what follows it. -/
theorem append_inj_of_run {kind : Char → Bool} (hcs : ∀ c ∈ cs, kind c = true)
    (hds : ∀ c ∈ ds, kind c = true) (hrest : ∀ c ∈ rest.head?, kind c = false)
    (hrest' : ∀ c ∈ rest'.head?, kind c = false) (h : cs ++ rest = ds ++ rest') :
    cs = ds ∧ rest = rest' := by
  obtain ⟨htake, hdrop⟩ := takeWhile_append_of_head? hcs hrest
  obtain ⟨htake', hdrop'⟩ := takeWhile_append_of_head? hds hrest'
  constructor
  · rw [← htake, ← htake', h]
  · rw [← hdrop, ← hdrop', h]

theorem append_cons_inj {stop : Char} (hcs : stop ∉ cs) (hds : stop ∉ ds)
    (h : cs ++ stop :: rest = ds ++ stop :: rest') : cs = ds ∧ rest = rest' := by
  have hkind {es : List Char} (hes : stop ∉ es) : ∀ c ∈ es, (c != stop) = true := by
    intro c hc
    rw [bne_iff_ne]
    rintro rfl
    exact hes hc
  have hstop (es : List Char) : ∀ c ∈ (stop :: es).head?, (c != stop) = false := by
    rintro c ⟨⟩
    exact bne_self_eq_false _
  obtain ⟨rfl, hrest⟩ := append_inj_of_run (hkind hcs) (hkind hds) (hstop rest) (hstop rest') h
  exact ⟨rfl, (List.cons.inj hrest).2⟩

/-! ## Members of a list -/

/-- What may follow a member of a list: a space, a closing parenthesis, or nothing. -/
def EndsMember (rest : List Char) : Prop := ∀ c ∈ rest.head?, c = ' ' ∨ c = ')'

theorem endsMember_nil : EndsMember [] := fun _ hc ↦ absurd hc (by simp)

theorem endsMember_space (rest : List Char) : EndsMember (' ' :: rest) := by
  rintro c ⟨⟩
  exact .inl rfl

theorem endsMember_paren (rest : List Char) : EndsMember (')' :: rest) := by
  rintro c ⟨⟩
  exact .inr rfl

/-- Characters that are neither a space nor a closing parenthesis are told from what may follow a
member. -/
theorem append_inj_of_endsMember {kind : Char → Bool} (hspace : kind ' ' = false)
    (hparen : kind ')' = false) (hcs : ∀ c ∈ cs, kind c = true) (hds : ∀ c ∈ ds, kind c = true)
    (hrest : EndsMember rest) (hrest' : EndsMember rest') (h : cs ++ rest = ds ++ rest') :
    cs = ds ∧ rest = rest' := by
  have hend {es : List Char} (hes : EndsMember es) : ∀ c ∈ es.head?, kind c = false := by
    intro c hc
    rcases hes c hc with rfl | rfl
    · exact hspace
    · exact hparen
  exact append_inj_of_run hcs hds (hend hrest) (hend hrest') h

theorem intercalate_cons {α : Type} (sep x : List α) (xs : List (List α)) :
    sep.intercalate (x :: xs) = x ++ xs.flatMap (sep ++ ·) := by
  induction xs generalizing x with
  | nil => simp
  | cons y ys ih =>
    rw [List.intercalate_cons_cons, ih, List.flatMap_cons, List.append_assoc, List.append_assoc]

section Members

variable {α : Type} {text : α → List Char} {related : α → α → Prop} {word word' : List Char}

/-- What stands behind the first member of a list: a space, a word and a member, over and over, and
a closing parenthesis in the end. -/
def membersTail (word : List Char) (text : α → List Char) (as : List α) (rest : List Char) :
    List Char :=
  (as.map text).flatMap (' ' :: word ++ ·) ++ ')' :: rest

theorem membersTail_cons (a : α) (as : List α) :
    membersTail word text (a :: as) rest =
      ' ' :: (word ++ (text a ++ membersTail word text as rest)) := by
  simp [membersTail]

theorem endsMember_membersTail (as : List α) : EndsMember (membersTail word text as rest) := by
  cases as with
  | nil => exact endsMember_paren rest
  | cons a as =>
    rw [membersTail_cons]
    exact endsMember_space _

/-- Members that are told from what may follow them are told from each other all along the list. -/
theorem membersTail_inj {as bs : List α}
    (hmember : ∀ a ∈ as, ∀ b ∈ bs, ∀ {rest rest'}, EndsMember rest → EndsMember rest' →
      text a ++ rest = text b ++ rest' → related a b ∧ rest = rest')
    (hword : ∀ {rest rest'}, word ++ rest = word' ++ rest' → word = word' ∧ rest = rest')
    (h : membersTail word text as rest = membersTail word' text bs rest') :
    (as = [] ∨ word = word') ∧ List.Forall₂ related as bs ∧ rest = rest' := by
  induction as generalizing bs with
  | nil =>
    cases bs with
    | nil => exact ⟨.inl rfl, .nil, (List.cons.inj h).2⟩
    | cons b bs =>
      -- where one list ends the other one goes on with a space
      rw [membersTail_cons] at h
      exact absurd (List.cons.inj h).1 (by decide)
  | cons a as ih =>
    cases bs with
    | nil =>
      rw [membersTail_cons] at h
      exact absurd (List.cons.inj h).1 (by decide)
    | cons b bs =>
      rw [membersTail_cons, membersTail_cons] at h
      obtain ⟨hwords, h⟩ := hword (List.cons.inj h).2
      obtain ⟨hab, h⟩ := hmember a List.mem_cons_self b List.mem_cons_self
        (endsMember_membersTail as) (endsMember_membersTail bs) h
      obtain ⟨-, htails, hrest⟩ := ih
        (fun c hc d hd ↦ hmember c (List.mem_cons_of_mem a hc) d (List.mem_cons_of_mem b hd)) h
      exact ⟨.inr hwords, .cons hab htails, hrest⟩

/-- Members that are told from what may follow them make lists that are told from what follows their
closing parenthesis. The words between the members show as soon as there are two members. -/
theorem intercalate_append_inj {as bs : List α} (has : as ≠ []) (hbs : bs ≠ [])
    (hmember : ∀ a ∈ as, ∀ b ∈ bs, ∀ {rest rest'}, EndsMember rest → EndsMember rest' →
      text a ++ rest = text b ++ rest' → related a b ∧ rest = rest')
    (hword : ∀ {rest rest'}, word ++ rest = word' ++ rest' → word = word' ∧ rest = rest')
    (h : (' ' :: word).intercalate (as.map text) ++ ')' :: rest =
      (' ' :: word').intercalate (bs.map text) ++ ')' :: rest') :
    ((as.length = 1 ∨ word = word') ∧ List.Forall₂ related as bs) ∧ rest = rest' := by
  obtain ⟨a, as, rfl⟩ := List.exists_cons_of_ne_nil has
  obtain ⟨b, bs, rfl⟩ := List.exists_cons_of_ne_nil hbs
  rw [List.map_cons, List.map_cons, intercalate_cons, intercalate_cons, List.append_assoc,
    List.append_assoc] at h
  obtain ⟨hab, h⟩ := hmember a List.mem_cons_self b List.mem_cons_self
    (endsMember_membersTail as) (endsMember_membersTail bs) h
  obtain ⟨hwords, htails, hrest⟩ := membersTail_inj
    (fun c hc d hd ↦ hmember c (List.mem_cons_of_mem a hc) d (List.mem_cons_of_mem b hd)) hword h
  refine ⟨⟨hwords.imp_left ?_, .cons hab htails⟩, hrest⟩
  rintro rfl
  rfl

end Members

end FacetedSearch.Text

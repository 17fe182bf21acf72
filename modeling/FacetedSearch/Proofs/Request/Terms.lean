import FacetedSearch.Proofs.Request.Counts

/-!
# Lists within local parameters

The terms of a field facet are a list, and a list is written as a single value: its items are
escaped for the commas between them, and the value as a whole is quoted for the spaces and braces
around it. Both layers use the backslash. `splitItems` undoes the inner one and `LocalParams.read`
the outer one, and since each layer is undone for arbitrary texts, they do not have to know of each
other.

An item may be empty. A list may not: no items and a single empty one would be written alike, which
is why a facet without terms has no such parameter at all.
-/

namespace FacetedSearch

namespace LocalParams

/-! ## Items -/

/-- The items of a list. A comma divides them, and a backslash takes the next character as it is. -/
def splitItems : List Char → List (List Char)
  | [] => [[]]
  | '\\' :: c :: cs => (splitItems cs).modifyHead (c :: ·)
  | c :: cs => if c = ',' then [] :: splitItems cs else (splitItems cs).modifyHead (c :: ·)

/-- The items of a list as texts. -/
def listItems (value : String) : List String := (splitItems value.toList).map String.ofList

theorem splitItems_comma (cs : List Char) : splitItems (',' :: cs) = [] :: splitItems cs := by
  cases cs <;> rfl

theorem splitItems_escapeItem_append (c : Char) (rest : List Char) :
    splitItems (escapeItem c ++ rest) = (splitItems rest).modifyHead (c :: ·) := by
  rw [escapeItem]
  split
  · rfl
  · next hc =>
    rw [not_or] at hc
    simp [splitItems, hc.1, hc.2]

theorem splitItems_flatMap_append (item rest : List Char) :
    splitItems (item.flatMap escapeItem ++ rest) = (splitItems rest).modifyHead (item ++ ·) := by
  induction item with
  | nil => exact (congrFun List.modifyHead_id _).symm
  | cons c item ih =>
    rw [List.flatMap_cons, List.append_assoc, splitItems_escapeItem_append, ih,
      List.modifyHead_modifyHead]
    rfl

theorem splitItems_intercalate {items : List (List Char)} (h : items ≠ []) :
    splitItems ([','].intercalate (items.map fun item ↦ item.flatMap escapeItem)) = items := by
  induction items with
  | nil => exact absurd rfl h
  | cons item items ih =>
    cases items with
    | nil =>
      have hitem := splitItems_flatMap_append item []
      rw [List.append_nil] at hitem
      rw [List.map_singleton, List.intercalate_singleton, hitem, splitItems, List.modifyHead_cons,
        List.append_nil]
    | cons next items =>
      rw [List.map_cons, List.map_cons, List.intercalate_cons_cons, ← List.map_cons,
        List.append_assoc, splitItems_flatMap_append, List.singleton_append, splitItems_comma,
        ih (List.cons_ne_nil next items), List.modifyHead_cons, List.append_nil]

/-- Items are read back, whatever commas and backslashes they contain. -/
theorem listItems_joinItems {items : List String} (h : items ≠ []) :
    listItems (joinItems items) = items := by
  have hchars : (joinItems items).toList =
      [','].intercalate ((items.map String.toList).map fun item ↦ item.flatMap escapeItem) := by
    rw [joinItems, String.toList_intercalate, List.map_map, List.map_map]
    simp [Function.comp_def]
  rw [listItems, hchars, splitItems_intercalate (by simpa using h), List.map_map]
  simp [Function.comp_def]

end LocalParams

namespace Facet

open LocalParams (listItems read read_wrap Readable)

/-! ## Field facets -/

/-- The local parameters of a field facet: its key, what it excludes, and its terms if it has any.
-/
def fieldLocals (f : Facet) (terms : List String) : LocalParams where
  pairs := [("key", f.key)] ++ f.excludeFilter.toList.map ("ex", ·) ++
    if terms = [] then [] else [("terms", LocalParams.joinItems terms)]

theorem fieldParam_eq_wrap (f : Facet) (name : String) (terms : List String) :
    fieldParam f name terms = ("facet.field", (fieldLocals f terms).wrap name) := by
  obtain ⟨key, measure, excludeFilter⟩ := f
  cases excludeFilter <;> cases terms <;> rfl

theorem readable_fieldLocals (f : Facet) (terms : List String) :
    (fieldLocals f terms).Readable := by
  have h := (readable_keyed f.key f.excludeFilter).add? (show LocalParams.IsName "terms" by decide)
    (if terms.isEmpty then none else some (LocalParams.joinItems terms))
  obtain ⟨key, measure, excludeFilter⟩ := f
  cases excludeFilter <;> cases terms <;> exact h

/-- **Local parameters survive rendering.** Parameters with names that can be read are found again
in front of any query, the parser, the pairs in order and the query, whatever the values are. In the
parameter of a field facet they are its key and its exclusion, followed by a list of exactly its
terms if it has terms, in front of its field. -/
theorem localParams_survive_rendering {p : LocalParams} (hp : p.Readable)
    (hsome : p.parser ≠ none ∨ p.pairs ≠ []) (body : String) :
    read (p.wrap body) = some (p, body) ∧
      ∀ (b : Backend) (f : Facet) (name : String) (terms : List String),
        f.measure = .field name terms → ∃ value list,
          f.params b = .ok [("facet.field", value)] ∧
          read value = some
            ({ pairs := [("key", f.key)] ++ f.excludeFilter.toList.map ("ex", ·) ++ list }, name) ∧
          list.map (fun nv ↦ (nv.1, listItems nv.2)) =
            if terms = [] then [] else [("terms", terms)] := by
  constructor
  · have hparts : p.parts ≠ [] := by
      obtain ⟨_ | parser, pairs⟩ := p
      · simpa [LocalParams.parts] using hsome
      · simp [LocalParams.parts]
    exact read_wrap hp hparts body
  · intro b f name terms hf
    have hparts : (fieldLocals f terms).parts ≠ [] := by simp [fieldLocals, LocalParams.parts]
    refine ⟨_, _, ?_, read_wrap (readable_fieldLocals f terms) hparts name, ?_⟩
    · rw [params, hf]
      exact congrArg (fun param ↦ Except.ok [param]) (fieldParam_eq_wrap f name terms)
    · split
      · rfl
      · next hterms => rw [List.map_singleton, LocalParams.listItems_joinItems hterms]

/-- A parser, an empty value, quotes, a backslash at the end, a blank far from ASCII and a brace;
and terms with a comma, without a character and with a backslash at the end. -/
theorem localParams_survive_rendering_frange :
    let p : LocalParams :=
      { parser := some "frange", pairs := [("key", ""), ("ex", "it's\\"), ("u", "1\u3000\x7d")] }
    let terms := ["a,b", "", "c\\"]
    let f : Facet := { key := "cat key", measure := .field Field.category terms }
    p.Readable ∧ read (p.wrap "geodist()") = some (p, "geodist()") ∧ ∃ value list,
      f.params {} = .ok [("facet.field", value)] ∧
      read value = some ({ pairs := ("key", "cat key") :: list }, Field.category) ∧
      list.map (fun nv ↦ (nv.1, listItems nv.2)) = [("terms", terms)] := by
  intro p terms f
  have hp : p.Readable := by
    constructor
    · rintro name ⟨⟩
      decide
    · decide
  obtain ⟨hread, hfields⟩ :=
    localParams_survive_rendering hp (.inr (List.cons_ne_nil _ _)) "geodist()"
  exact ⟨hp, hread, hfields {} f Field.category terms rfl⟩

end Facet

end FacetedSearch

import FacetedSearch.Proofs.Text.Numerals
import FacetedSearch.Request.LocalParams

/-!
# Reading local parameters

How the backend takes the local parameters in front of a query, and that it finds in them what was
written. Behind the opening brace stand items with single spaces between them, up to the first
closing brace that is not quoted; everything behind that brace is the query. An item without an
equals sign names the parser. Every other item is a name and a value, and the value is either quoted
or extends to the next blank or closing brace.

## Where one value ends

Values are arbitrary texts, so the reader must not stop early inside one and must not run into what
follows it. A quoted value is safe because both characters that matter between quotes are escaped. A
value without quotes is safe because it has none of the characters that end one, and does not begin
with a quote; it is not empty either, which the reader would accept but the backend would not.

Names are fixed by the program, and it is enough that they are free of the characters that matter
between items.
-/

namespace FacetedSearch.LocalParams

open Text (isBlank takeWhile_append_of_head?)

/-! ## The reader -/

/-- A character that does not end a value without quotes. -/
def isPlain (c : Char) : Bool := !(isBlank c || c == '\x7d')

/-- A character of a name. -/
def isNameChar (c : Char) : Bool := isPlain c && c != '='

/-- A quoted text from behind its opening quote, and what follows the closing one. -/
def readQuoted : List Char → Option (List Char × List Char)
  | [] => none
  | '\'' :: cs => some ([], cs)
  | ['\\'] => none
  | '\\' :: c :: cs => (readQuoted cs).map fun r ↦ (c :: r.1, r.2)
  | c :: cs => (readQuoted cs).map fun r ↦ (c :: r.1, r.2)

/-- A value and what follows it. -/
def readValue : List Char → Option (List Char × List Char)
  | [] => some ([], [])
  | c :: cs =>
    if c = '\'' then readQuoted cs
    else some ((c :: cs).takeWhile isPlain, (c :: cs).dropWhile isPlain)

/-- What stands between two spaces. -/
inductive Item where
  | parser (name : List Char)
  | pair (name value : List Char)

/-- One item and what follows it. -/
def readItem (cs : List Char) : Option (Item × List Char) :=
  match cs.dropWhile isNameChar with
  | [] => some (.parser (cs.takeWhile isNameChar), [])
  | c :: rest =>
    if c = '=' then (readValue rest).map fun r ↦ (.pair (cs.takeWhile isNameChar) r.1, r.2)
    else some (.parser (cs.takeWhile isNameChar), c :: rest)

theorem suffix_of_readQuoted {cs : List Char} {r : List Char × List Char}
    (h : readQuoted cs = some r) : r.2 <:+ cs := by
  fun_induction readQuoted cs generalizing r with
  | case1 => cases h
  | case2 cs =>
    cases h
    exact List.suffix_cons _ cs
  | case3 => cases h
  | case4 c cs ih =>
    obtain ⟨r', hr', rfl⟩ := Option.map_eq_some_iff.mp h
    exact ((ih hr').trans (List.suffix_cons c cs)).trans (List.suffix_cons _ (c :: cs))
  | case5 c cs _ _ _ ih =>
    obtain ⟨r', hr', rfl⟩ := Option.map_eq_some_iff.mp h
    exact (ih hr').trans (List.suffix_cons c cs)

theorem suffix_of_readValue {cs : List Char} {r : List Char × List Char}
    (h : readValue cs = some r) : r.2 <:+ cs := by
  cases cs with
  | nil =>
    cases h
    exact List.suffix_refl []
  | cons c cs =>
    rw [readValue] at h
    split at h
    · exact (suffix_of_readQuoted h).trans (List.suffix_cons c cs)
    · cases h
      exact List.dropWhile_suffix _

theorem suffix_of_readItem {cs : List Char} {r : Item × List Char} (h : readItem cs = some r) :
    r.2 <:+ cs := by
  have hdrop : cs.dropWhile isNameChar <:+ cs := List.dropWhile_suffix _
  rw [readItem] at h
  split at h
  · cases h
    exact List.nil_suffix
  · next c rest hrest =>
    rw [hrest] at hdrop
    split at h
    · obtain ⟨r', hr', rfl⟩ := Option.map_eq_some_iff.mp h
      exact ((suffix_of_readValue hr').trans (List.suffix_cons c rest)).trans hdrop
    · cases h
      exact hdrop

/-- An item in front of the local parameters that follow it. -/
def Item.addTo (p : LocalParams) : Item → LocalParams
  | parser name => { p with parser := some (String.ofList name) }
  | pair name value => { p with pairs := (String.ofList name, String.ofList value) :: p.pairs }

/-- The items up to the closing brace, and what follows the brace. -/
def readItems (cs : List Char) : Option (LocalParams × List Char) :=
  match _h : readItem cs with
  | some (i, c :: rest) =>
    if c = '\x7d' then some (i.addTo {}, rest)
    else if c = ' ' then (readItems rest).map fun r ↦ (i.addTo r.1, r.2)
    else none
  | _ => none
termination_by cs.length
decreasing_by
  -- what follows an item is no longer than it was, and one more character is dropped from it
  have hlength := (suffix_of_readItem _h).length_le
  rw [List.length_cons] at hlength
  exact hlength

/-- The local parameters in front of a query, and the query. -/
def read (text : String) : Option (LocalParams × String) :=
  match text.toList with
  | '\x7b' :: '!' :: cs => (readItems cs).map fun r ↦ (r.1, String.ofList r.2)
  | _ => none

/-! ## Reading back what was written -/

/-- A name that can be told from what stands around it. -/
def IsName (name : String) : Prop := ∀ c ∈ name.toList, isNameChar c = true

instance (name : String) : Decidable (IsName name) :=
  decidable_of_iff (name.toList.all isNameChar = true) List.all_eq_true

theorem readQuoted_escape (c : Char) (cs : List Char) :
    readQuoted ('\\' :: c :: cs) = (readQuoted cs).map fun r ↦ (c :: r.1, r.2) := rfl

theorem readQuoted_cons {c : Char} (hc : c ≠ '\'') (hc' : c ≠ '\\') (cs : List Char) :
    readQuoted (c :: cs) = (readQuoted cs).map fun r ↦ (c :: r.1, r.2) := by
  simp [readQuoted, hc']

theorem readQuoted_flatMap (value rest : List Char) :
    readQuoted (value.flatMap escapeQuoted ++ '\'' :: rest) = some (value, rest) := by
  induction value with
  | nil => rfl
  | cons c value ih =>
    rw [List.flatMap_cons, List.append_assoc, escapeQuoted]
    split
    · rw [List.cons_append, List.cons_append, List.nil_append, readQuoted_escape, ih]
      rfl
    · next hc =>
      rw [not_or] at hc
      rw [List.cons_append, List.nil_append, readQuoted_cons hc.1 hc.2, ih]
      rfl

/-- What may follow a value: anything that ends one without quotes. -/
def EndsValue (rest : List Char) : Prop := ∀ c ∈ rest.head?, isPlain c = false

/-- A value is quoted whenever it could not be told from what follows it. -/
theorem isPlain_of_needsQuotes {value : List Char} (h : needsQuotes value = false) :
    value ≠ [] ∧ ∀ c ∈ value, isPlain c = true ∧ c ≠ '\'' := by
  rw [needsQuotes, Bool.or_eq_false_iff, List.any_eq_false] at h
  refine ⟨by simpa using h.1, fun c hc ↦ ?_⟩
  have hsafe := h.2 c hc
  simp only [Bool.or_eq_true, not_or, Bool.not_eq_true, specials, List.contains_cons] at hsafe
  simp_all [isPlain]

theorem readValue_quoteChars (value : List Char) {rest : List Char} (hrest : EndsValue rest) :
    readValue (quoteChars value ++ rest) = some (value, rest) := by
  rw [quoteChars]
  split
  · rw [List.cons_append, List.cons_append, List.append_assoc, List.singleton_append, readValue,
      if_pos rfl]
    exact readQuoted_flatMap value rest
  · next h =>
    obtain ⟨hne, hvalue⟩ := isPlain_of_needsQuotes (by simpa using h)
    obtain ⟨htake, hdrop⟩ := takeWhile_append_of_head? (fun c hc ↦ (hvalue c hc).1) hrest
    cases value with
    | nil => exact absurd rfl hne
    | cons c value =>
      rw [List.cons_append] at htake hdrop ⊢
      rw [readValue, if_neg (hvalue c List.mem_cons_self).2, htake, hdrop]

theorem readItem_pair {name value rest : List Char} (hname : ∀ c ∈ name, isNameChar c = true)
    (hrest : EndsValue rest) : readItem (name ++ '=' :: (quoteChars value ++ rest))
      = some (.pair name value, rest) := by
  have hstop : ∀ c ∈ ('=' :: (quoteChars value ++ rest)).head?, isNameChar c = false := by
    rintro c ⟨⟩
    rfl
  obtain ⟨htake, hdrop⟩ := takeWhile_append_of_head? hname hstop
  rw [readItem, hdrop]
  dsimp only
  rw [if_pos rfl, htake, readValue_quoteChars value hrest]
  rfl

theorem readItem_parserName {name rest : List Char} (hname : ∀ c ∈ name, isNameChar c = true)
    (hrest : EndsValue rest) : readItem (name ++ rest) = some (.parser name, rest) := by
  have hstop : ∀ c ∈ rest.head?, isNameChar c = false := fun c hc ↦ by
    rw [isNameChar, hrest c hc, Bool.false_and]
  obtain ⟨htake, hdrop⟩ := takeWhile_append_of_head? hname hstop
  rw [readItem, hdrop]
  cases rest with
  | nil => rw [htake]
  | cons c rest =>
    have hc : c ≠ '=' := by
      rintro rfl
      exact absurd (hrest '=' rfl) (by decide)
    dsimp only
    rw [if_neg hc, htake]

/-! ## All of them -/

section Items

variable {cs rest : List Char} {i : Item}

theorem readItems_brace (h : readItem cs = some (i, '\x7d' :: rest)) :
    readItems cs = some (i.addTo {}, rest) := by
  rw [readItems]
  split
  · next i' c rest' h' =>
    rw [h] at h'
    cases h'
    exact if_pos rfl
  · next hnone => exact absurd h (hnone _ _ _)

theorem readItems_space (h : readItem cs = some (i, ' ' :: rest)) :
    readItems cs = (readItems rest).map fun r ↦ (i.addTo r.1, r.2) := by
  rw [readItems]
  split
  · next i' c rest' h' =>
    rw [h] at h'
    cases h'
    rw [if_neg (by decide), if_pos rfl]
  · next hnone => exact absurd h (hnone _ _ _)

namespace Item

/-- An item as it is written. -/
def chars : Item → List Char
  | parser name => name
  | pair name value => name ++ '=' :: quoteChars value

/-- The name of an item. -/
def name : Item → List Char
  | parser name | pair name _ => name

theorem readItem_chars (hi : ∀ c ∈ i.name, isNameChar c = true) (hrest : EndsValue rest) :
    readItem (i.chars ++ rest) = some (i, rest) := by
  cases i with
  | parser name => exact readItem_parserName hi hrest
  | pair name value =>
    rw [chars, List.append_assoc, List.cons_append]
    exact readItem_pair hi hrest

end Item

theorem readItems_intercalate (is : List Item)
    (his : ∀ j ∈ i :: is, ∀ c ∈ j.name, isNameChar c = true) (rest : List Char) :
    readItems ([' '].intercalate ((i :: is).map Item.chars) ++ '\x7d' :: rest) =
      some ((i :: is).foldr (fun j p ↦ j.addTo p) {}, rest) := by
  have hends {c : Char} (hc : isPlain c = false) (cs : List Char) : EndsValue (c :: cs) := by
    rintro d ⟨⟩
    exact hc
  induction is generalizing i with
  | nil =>
    rw [List.map_singleton, List.intercalate_singleton]
    exact readItems_brace (Item.readItem_chars (his i List.mem_cons_self) (hends (by decide) rest))
  | cons j is ih =>
    -- the separator stands behind the first item, and that is where its value ends
    rw [List.map_cons, List.map_cons, List.intercalate_cons_cons, List.append_assoc,
      List.append_assoc, List.singleton_append, ← List.map_cons]
    rw [readItems_space (Item.readItem_chars (his i List.mem_cons_self) (hends (by decide) _)),
      ih fun k hk ↦ his k (List.mem_cons_of_mem i hk)]
    rfl

end Items

/-- The items of local parameters, the parser first. -/
def items (p : LocalParams) : List Item :=
  (p.parser.map fun name ↦ Item.parser name.toList).toList ++
    p.pairs.map fun nv ↦ Item.pair nv.1.toList nv.2.toList

theorem map_toList_parts (p : LocalParams) :
    p.parts.map String.toList = p.items.map Item.chars := by
  obtain ⟨parser, pairs⟩ := p
  have hpairs : pairs.map (fun nv ↦ (nv.1 ++ "=" ++ quote nv.2).toList) =
      pairs.map fun nv ↦ (Item.pair nv.1.toList nv.2.toList).chars := by
    refine List.map_congr_left fun nv _ ↦ ?_
    simp [quote, Item.chars]
  cases parser <;> simpa [parts, items, Item.chars] using hpairs

theorem foldr_pairs (pairs : List (String × String)) :
    (pairs.map fun nv ↦ Item.pair nv.1.toList nv.2.toList).foldr (fun i p ↦ i.addTo p) {} =
      { pairs } := by
  induction pairs with
  | nil => rfl
  | cons nv pairs ih =>
    rw [List.map_cons, List.foldr_cons, ih]
    simp [Item.addTo]

theorem foldr_items (p : LocalParams) : p.items.foldr (fun i p ↦ i.addTo p) {} = p := by
  obtain ⟨parser, pairs⟩ := p
  rw [items, List.foldr_append, foldr_pairs]
  cases parser <;> simp [Item.addTo]

/-- Local parameters with names that can all be read. -/
structure Readable (p : LocalParams) : Prop where
  parser : ∀ name ∈ p.parser, IsName name
  pairs : ∀ nv ∈ p.pairs, IsName nv.1

theorem Readable.name_of_mem {p : LocalParams} (hp : p.Readable) {i : Item} (hi : i ∈ p.items) :
    ∀ c ∈ i.name, isNameChar c = true := by
  rcases List.mem_append.mp hi with hi | hi
  · rw [Option.mem_toList, Option.map_eq_some_iff] at hi
    obtain ⟨name, hname, rfl⟩ := hi
    exact hp.parser name hname
  · obtain ⟨nv, hnv, rfl⟩ := List.mem_map.mp hi
    exact hp.pairs nv hnv

/-- **Local parameters are read back.** Whatever the values and the query are, the reader finds the
parser, the pairs in order and the query. -/
theorem read_wrap {p : LocalParams} (hp : p.Readable) (hparts : p.parts ≠ []) (body : String) :
    read (p.wrap body) = some (p, body) := by
  have hempty : ¬ p.parts.isEmpty = true := by simpa using hparts
  have hchars : (p.wrap body).toList =
      '\x7b' :: '!' :: ([' '].intercalate (p.items.map Item.chars) ++ '\x7d' :: body.toList) := by
    rw [wrap, if_neg hempty, String.toList_append, String.toList_append, String.toList_append,
      String.toList_intercalate, map_toList_parts]
    simp
  have hitems : readItems ([' '].intercalate (p.items.map Item.chars) ++ '\x7d' :: body.toList) =
      some (p, body.toList) := by
    cases his : p.items with
    | nil =>
      have hnil := map_toList_parts p
      rw [his, List.map_nil, List.map_eq_nil_iff] at hnil
      exact absurd hnil hparts
    | cons i is =>
      rw [readItems_intercalate is (fun j hj ↦ hp.name_of_mem (his ▸ hj)), ← his, foldr_items]
  rw [read, hchars]
  change (readItems _).map _ = _
  rw [hitems, Option.map_some, String.ofList_toList]

/-! ## Single parameters -/

/-- The values of a parameter, in order. -/
def values (p : LocalParams) (name : String) : List String :=
  (p.pairs.filter fun nv ↦ nv.1 == name).map Prod.snd

/-- The values of a local parameter in front of a query. -/
def valuesIn (name text : String) : List String := ((read text).map fun r ↦ r.1.values name).getD []

section Add

variable {p : LocalParams} {name : String}

theorem readable_empty : Readable {} where
  parser := by simp
  pairs := by simp

theorem Readable.add (hp : p.Readable) (hname : IsName name) (value : String) :
    (p.add name value).Readable where
  parser := hp.parser
  pairs nv hnv := by
    rcases List.mem_append.mp hnv with hnv | hnv
    · exact hp.pairs nv hnv
    · rw [List.mem_singleton.mp hnv]
      exact hname

theorem Readable.add? (hp : p.Readable) (hname : IsName name) (value? : Option String) :
    (p.add? name value?).Readable := by
  cases value? with
  | none => exact hp
  | some value => exact hp.add hname value

@[simp] theorem values_empty (name : String) : values {} name = [] := by
  simp [values]

@[simp] theorem values_add (p : LocalParams) (name value other : String) :
    (p.add name value).values other = p.values other ++ if name = other then [value] else [] := by
  simp only [values, add, List.filter_append, List.map_append, List.filter_cons, List.filter_nil,
    beq_iff_eq]
  split <;> rfl

@[simp] theorem values_add? (p : LocalParams) (name other : String) (value? : Option String) :
    (p.add? name value?).values other =
      p.values other ++ if name = other then value?.toList else [] := by
  cases value? <;> simp [LocalParams.add?]

theorem parts_ne_nil_of_values {value : String} (h : value ∈ p.values name) : p.parts ≠ [] := by
  obtain ⟨nv, hnv, -⟩ := List.mem_map.mp h
  have hpairs := List.ne_nil_of_mem (List.mem_filter.mp hnv).1
  simp [parts, hpairs]

theorem valuesIn_wrap (hp : p.Readable) (hparts : p.parts ≠ []) (name body : String) :
    valuesIn name (p.wrap body) = p.values name := by
  rw [valuesIn, read_wrap hp hparts]
  rfl

end Add

end FacetedSearch.LocalParams

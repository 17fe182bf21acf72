import FacetedSearch.Json.Path
import FacetedSearch.Proofs.Text.Numerals

/-!
# Places that are read back

A place is a list of steps and becomes a text only when a message is written. The reader of a
message has nothing but that text and follows it by its marks: `$` is the document itself, and
anything else is a chain of keys and of indices in brackets. `Path.ofText?` does this. It finds the
steps again whenever no key contains a mark (`Path.ofText?_text`), and then the text says as much as
the list of steps.

`Json.induction` is the induction that goes with places: a value has a property if everything one
step inside it has the property.
-/

namespace FacetedSearch.Json

/-! ## Induction along steps -/

private theorem sizeOf_lt_of_lookup {o : Object} {key : String} {w : Json}
    (h : o.lookup key = some w) : sizeOf w < sizeOf (object o) := by
  obtain ⟨front, back, ho, -⟩ := List.lookup_eq_some_iff.mp h
  have hmem : (key, w) ∈ o := ho ▸ List.mem_append_right front List.mem_cons_self
  have hentry := List.sizeOf_lt_of_mem hmem
  have hpair : sizeOf (key, w) = 1 + sizeOf key + sizeOf w := Prod.mk.sizeOf_spec key w
  have hobject : sizeOf (object o) = 1 + sizeOf o := object.sizeOf_spec o
  omega

theorem sizeOf_lt_of_step? {v w : Json} {s : Step} (h : v.step? s = some w) :
    sizeOf w < sizeOf v := by
  cases v with
  | object o =>
    cases s with
    | key k => exact sizeOf_lt_of_lookup h
    | index i => cases h
  | array items =>
    cases s with
    | key k => cases h
    | index i =>
      have hitem := List.sizeOf_lt_of_mem (List.mem_of_getElem? h)
      have harray : sizeOf (array items) = 1 + sizeOf items := array.sizeOf_spec items
      omega
  | _ => cases h

/-- A property of all values, from that of the values one step inside to that of the whole. -/
@[elab_as_elim]
theorem induction {motive : Json → Prop}
    (step : ∀ v, (∀ s w, v.step? s = some w → motive w) → motive v) (v : Json) : motive v :=
  step v fun _ w _ ↦ induction step w
termination_by v
decreasing_by exact sizeOf_lt_of_step? ‹_›

namespace Path

/-! ## Following a text -/

/-- A character that has no meaning of its own in the text of a place. -/
def isKeyChar (c : Char) : Bool := decide (c ∉ ['.', '[', ']', '$'])

/-- A key that can be told from what stands around it. -/
def IsPlainKey (k : String) : Prop := k.toList ≠ [] ∧ ∀ c ∈ k.toList, isKeyChar c = true

instance (k : String) : Decidable (IsPlainKey k) :=
  decidable_of_iff (k.toList ≠ [] ∧ k.toList.all isKeyChar = true) (by simp [IsPlainKey])

/-- The keys of a place can all be told from what stands around them. -/
def Plain (p : Path) : Prop := ∀ k, .key k ∈ p → IsPlainKey k

/-- The steps that follow each other in a text, each behind its mark. -/
def readSteps : List Char → Option Path
  | [] => some []
  | '.' :: cs =>
    let name := cs.takeWhile isKeyChar
    if name = [] then none
    else (readSteps (cs.dropWhile isKeyChar)).map (.key (String.ofList name) :: ·)
  | '[' :: cs =>
    let digits := cs.takeWhile Char.isDigit
    let rest := cs.dropWhile Char.isDigit
    if digits = [] ∨ rest.head? ≠ some ']' then none
    else (readSteps rest.tail).map (.index (Text.numeralValue digits) :: ·)
  | _ => none
termination_by cs => cs.length
decreasing_by
  · exact Nat.lt_succ_of_le (List.dropWhile_suffix isKeyChar).length_le
  · have hrest := (List.dropWhile_suffix (l := cs) Char.isDigit).length_le
    rw [List.length_tail, List.length_cons]
    omega

/-- The place that a text stands for. A key in front has no mark. -/
def ofText? (s : String) : Option Path :=
  if s = "$" then some []
  else if s.toList.head? = some '[' then readSteps s.toList
  else readSteps ('.' :: s.toList)

/-! ## The characters of a place -/

/-- The steps of a place as characters, each behind its mark. -/
def stepsChars (p : Path) : List Char := p.flatMap fun s ↦ (stepText s).toList

theorem stepsChars_key (k : String) (p : Path) :
    stepsChars (.key k :: p) = '.' :: (k.toList ++ stepsChars p) := by
  rw [stepsChars, List.flatMap_cons, stepText, String.toList_append]
  rfl

theorem stepsChars_index (i : Nat) (p : Path) :
    stepsChars (.index i :: p) = '[' :: (Text.numeral i ++ ']' :: stepsChars p) := by
  have hnumeral : (toString i).toList = Text.numeral i := String.toList_ofList
  rw [stepsChars, List.flatMap_cons, stepText, String.toList_append, String.toList_append, hnumeral,
    List.append_assoc, List.append_assoc]
  rfl

theorem toList_text_key (k : String) (p : Path) :
    (text (.key k :: p)).toList = k.toList ++ stepsChars p := by
  rw [text, String.toList_append, String.toList_join, List.flatMap_map, stepsChars]

theorem toList_text_index (i : Nat) (p : Path) :
    (text (.index i :: p)).toList = stepsChars (.index i :: p) := by
  rw [text, String.toList_join, List.flatMap_map, stepsChars]

theorem head?_stepsChars (p : Path) : ∀ c ∈ (stepsChars p).head?, c = '.' ∨ c = '[' := by
  intro c hc
  cases p with
  | nil => cases hc
  | cons s p =>
    cases s with
    | key k =>
      rw [stepsChars_key] at hc
      exact .inl (Option.some.inj hc).symm
    | index i =>
      rw [stepsChars_index] at hc
      exact .inr (Option.some.inj hc).symm

/-! ## Reading back -/

theorem readSteps_stepsChars {p : Path} (hp : Plain p) : readSteps (stepsChars p) = some p := by
  induction p with
  | nil => rw [stepsChars, List.flatMap_nil, readSteps]
  | cons s p ih =>
    have hread := ih fun k hk ↦ hp k (List.mem_cons_of_mem s hk)
    have hhead := head?_stepsChars p
    cases s with
    | key k =>
      obtain ⟨hne, hk⟩ := hp k List.mem_cons_self
      -- the next step begins with a dot or a bracket, which are in no key
      have hend : ∀ c ∈ (stepsChars p).head?, isKeyChar c = false := fun c hc ↦ by
        rcases hhead c hc with rfl | rfl <;> rfl
      obtain ⟨htake, hdrop⟩ := Text.takeWhile_append_of_head? hk hend
      rw [stepsChars_key, readSteps, htake, hdrop, if_neg hne, hread, String.ofList_toList]
      rfl
    | index i =>
      have hdigits := List.all_eq_true.mp (Text.all_isDigit_numeral i)
      have hend : ∀ c ∈ (']' :: stepsChars p).head?, c.isDigit = false := by
        rintro c ⟨⟩
        rfl
      obtain ⟨htake, hdrop⟩ := Text.takeWhile_append_of_head? hdigits hend
      have hindex : ¬ (Text.numeral i = [] ∨ (']' :: stepsChars p).head? ≠ some ']') := by
        simp [Text.numeral_ne_nil i]
      rw [stepsChars_index, readSteps, htake, hdrop, if_neg hindex, List.tail_cons, hread,
        Text.numeralValue_numeral]
      rfl

/-- A text that does not begin like a place of its own is read step by step. -/
private theorem ofText?_eq_readSteps {s : String} {c : Char} (hc : s.toList.head? = some c)
    (hkey : isKeyChar c = true) : ofText? s = readSteps ('.' :: s.toList) := by
  have hroot : s ≠ "$" := by
    rintro rfl
    cases hc
    cases hkey
  have hbracket : s.toList.head? ≠ some '[' := by
    rw [hc]
    rintro ⟨⟩
    cases hkey
  rw [ofText?, if_neg hroot, if_neg hbracket]

/-- **A place is read back from its text** if its keys are plain. -/
theorem ofText?_text {p : Path} (hp : Plain p) : ofText? p.text = some p := by
  have hsteps := readSteps_stepsChars hp
  cases p with
  | nil => rfl
  | cons s p =>
    cases s with
    | key k =>
      obtain ⟨hne, hk⟩ := hp k List.mem_cons_self
      obtain ⟨c, cs, hcs⟩ := List.exists_cons_of_ne_nil hne
      have hhead : (text (.key k :: p)).toList.head? = some c := by
        rw [toList_text_key, hcs]
        rfl
      rw [ofText?_eq_readSteps hhead (hk c (hcs ▸ List.mem_cons_self)), toList_text_key,
        ← stepsChars_key, hsteps]
    | index i =>
      have hhead : (text (.index i :: p)).toList.head? = some '[' := by
        rw [toList_text_index, stepsChars_index]
        rfl
      have hroot : text (.index i :: p) ≠ "$" := fun h ↦ by
        rw [h] at hhead
        cases hhead
      rw [ofText?, if_neg hroot, if_pos hhead, toList_text_index, hsteps]

end Path

end FacetedSearch.Json

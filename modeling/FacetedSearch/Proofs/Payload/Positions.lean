import FacetedSearch.Proofs.Payload.Culprits
import FacetedSearch.Proofs.Payload.PlacedReaders

/-!
# Reading elsewhere

What a filter, a facet or a criterion is read as does not depend on where it stands. At another
place than that of a whole document the result is the same, and an error has its place behind that
place (`PositionIndependent`).

The text of a place treats the document itself as a special case, so that this is more than putting
texts together. The place of an error has to be empty or to begin with a key that is not taken for
the document (`ReadError.Anchored`). That it does is known from what the readers blame: objects are
only entered through their keys.
-/

namespace FacetedSearch

open Json
open Payload

/-! ## Places seen from elsewhere -/

/-- The place of a part of the value at a place, from its place in the value alone. -/
def rebasePlace (place part : String) : String := if part = "$" then place else place ++ "." ++ part

private theorem ne_root {place : String} {c : Char} (h : c ∈ place.toList) (hc : c ≠ '$') :
    place ≠ "$" := by
  rintro rfl
  exact hc (List.mem_singleton.mp h)

theorem toList_childPlace {place : String} (hplace : place ≠ "$") (key : String) :
    (childPlace place key).toList = place.toList ++ '.' :: key.toList := by
  rw [childPlace, if_neg hplace, String.toList_append, String.toList_append, List.append_assoc]
  rfl

theorem toList_itemPlace (place : String) (i : Nat) :
    (itemPlace place i).toList = place.toList ++ '[' :: (Text.numeral i ++ [']']) := by
  have hnumeral : (toString i).toList = Text.numeral i := String.toList_ofList
  rw [itemPlace, String.toList_append, String.toList_append, String.toList_append, hnumeral,
    List.append_assoc, List.append_assoc]
  rfl

theorem childPlace_ne_root {place : String} (hplace : place ≠ "$") (key : String) :
    childPlace place key ≠ "$" := by
  refine ne_root (c := '.') ?_ (by decide)
  rw [toList_childPlace hplace]
  exact List.mem_append_right _ List.mem_cons_self

theorem itemPlace_ne_root (place : String) (i : Nat) : itemPlace place i ≠ "$" := by
  refine ne_root (c := '[') ?_ (by decide)
  rw [toList_itemPlace]
  exact List.mem_append_right _ List.mem_cons_self

namespace Json.Path

/-- The value itself, or a place that begins with a plain key. -/
def Anchored : Path → Prop
  | [] => True
  | .key k :: _ => IsPlainKey k
  | .index _ :: _ => False

theorem toList_behind {place : String} (hplace : place ≠ "$") (p : Path) :
    (p.behind place).toList = place.toList ++ stepsChars p := by
  induction p generalizing place with
  | nil => exact (List.append_nil _).symm
  | cons s p ih =>
    cases s with
    | key k =>
      rw [behind, ih (childPlace_ne_root hplace k), toList_childPlace hplace, stepsChars_key,
        List.append_assoc, List.cons_append]
    | index i =>
      rw [behind, ih (itemPlace_ne_root place i), toList_itemPlace, stepsChars_index,
        List.append_assoc, List.cons_append, List.append_assoc, List.singleton_append]

private theorem text_key_ne_root {k : String} (hk : IsPlainKey k) (p : Path) :
    text (.key k :: p) ≠ "$" := by
  obtain ⟨c, cs, hcs⟩ := List.exists_cons_of_ne_nil hk.1
  have hc : c ≠ '$' := by
    have hchar := hk.2 c (hcs ▸ List.mem_cons_self)
    rintro rfl
    exact absurd hchar (by decide)
  refine ne_root (c := c) ?_ hc
  rw [toList_text_key, hcs]
  exact List.mem_cons_self

theorem behind_root {p : Path} (hp : p.Anchored) : p.behind "$" = p.text := by
  match p, hp with
  | [], _ => rfl
  | .key k :: p, hk =>
    have hne : k ≠ "$" := by
      have htext := text_key_ne_root hk []
      rwa [text, List.map_nil, String.join_nil, String.append_empty] at htext
    apply String.toList_injective
    rw [toList_text_key, behind, childPlace, if_pos rfl, toList_behind hne]

theorem behind_of_ne {place : String} (hplace : place ≠ "$") {p : Path} (hp : p.Anchored) :
    p.behind place = rebasePlace place p.text := by
  match p, hp with
  | [], _ => rfl
  | .key k :: p, hk =>
    apply String.toList_injective
    rw [rebasePlace, if_neg (text_key_ne_root hk p), toList_behind hplace, stepsChars_key,
      String.toList_append, String.toList_append, toList_text_key, List.append_assoc]
    rfl

end Json.Path

namespace Payload

/-! ## Errors seen from elsewhere -/

/-- The error as it is reported, with its place as text. -/
def ReadError.located : ReadError → PlacedError
  | malformed p r => .malformed p.text r
  | unknownVariant f t p => .unknownVariant f t p.text
  | violation v => .violation v

/-- The error of a value that was read alone, where the value stands at a place. -/
def PlacedError.rebase (place : String) : PlacedError → PlacedError
  | malformed p r => .malformed (rebasePlace place p) r
  | unknownVariant f t p => .unknownVariant f t (rebasePlace place p)
  | violation v => .violation v

/-- The place of the error, if it has one, is anchored. -/
def ReadError.Anchored : ReadError → Prop
  | malformed p _ => p.Anchored
  | unknownVariant _ _ p => p.Anchored
  | violation _ => True

theorem ReadError.placed_under_key (place k : String) (e : ReadError) :
    (e.under (.key k)).placed place = e.placed (childPlace place k) := by
  cases e <;> rfl

theorem ReadError.placed_under_index (place : String) (i : Nat) (e : ReadError) :
    (e.under (.index i)).placed place = e.placed (itemPlace place i) := by
  cases e <;> rfl

theorem ReadError.anchored_under_key {k : String} (hk : Path.IsPlainKey k) (e : ReadError) :
    (e.under (.key k)).Anchored := by
  cases e with
  | violation v => exact trivial
  | _ => exact hk

theorem ReadError.placed_root {e : ReadError} (h : e.Anchored) : e.placed "$" = e.located := by
  cases e with
  | malformed p r => exact congrArg (PlacedError.malformed · r) (Path.behind_root h)
  | unknownVariant f t p => exact congrArg (PlacedError.unknownVariant f t) (Path.behind_root h)
  | violation v => rfl

theorem ReadError.placed_of_ne {place : String} (hplace : place ≠ "$") {e : ReadError}
    (h : e.Anchored) : e.placed place = e.located.rebase place := by
  cases e with
  | malformed p r => exact congrArg (PlacedError.malformed · r) (Path.behind_of_ne hplace h)
  | unknownVariant f t p =>
    exact congrArg (PlacedError.unknownVariant f t) (Path.behind_of_ne hplace h)
  | violation v => rfl

/-- What is blamed on an object is reached through a key first. -/
theorem Locates.anchored {o : Object} {e : ReadError} (h : Locates (.object o) e) : e.Anchored := by
  have hanchored {p : Path} {w : Json} (hplain : p.Plain) (hat : (object o).at? p = some w) :
      p.Anchored := by
    match p with
    | [] => exact trivial
    | .key k :: p => exact hplain k List.mem_cons_self
    | .index i :: p => cases hat
  cases h with
  | @missing p key o' hplain hat hlacks =>
    match p with
    | [] => exact hplain key List.mem_cons_self
    | .key k :: p => exact hplain k List.mem_cons_self
    | .index i :: p => cases hat
  | unfit hplain hat => exact hanchored hplain hat
  | untagged hplain hat => exact hanchored hplain hat
  | unknownTag hplain hat => exact hanchored hplain hat
  | violation cause => exact trivial

/-- A reader of objects that blames what it reads. -/
structure ReadsObjects {α : Type} (read : Json → Reading α) : Prop where
  blames : ∀ v, Blames v (read v)
  object_of : ∀ v, (∀ o, v ≠ .object o) → read v = .error (unexpected .object v)

theorem ReadsObjects.anchored {α : Type} {read : Json → Reading α} (h : ReadsObjects read)
    {v : Json} {e : ReadError} (he : read v = .error e) : e.Anchored := by
  by_cases hobject : ∃ o, v = .object o
  · obtain ⟨o, rfl⟩ := hobject
    exact (h.blames _ e he).anchored
  · rw [h.object_of v fun o ho ↦ hobject ⟨o, ho⟩] at he
    cases he
    exact trivial

theorem readsObjects_filter : ReadsObjects Filter.ofPayload where
  blames := blames_filter
  object_of v hv := by
    cases v with
    | object o => exact absurd rfl (hv o)
    | _ => rfl

theorem readsObjects_facet : ReadsObjects Facet.ofPayload where
  blames := blames_facet
  object_of v hv := by
    cases v with
    | object o => exact absurd rfl (hv o)
    | _ => rfl

theorem readsObjects_sort : ReadsObjects SortCriterion.ofPayload where
  blames := blames_sort
  object_of v hv := by
    cases v with
    | object o => exact absurd rfl (hv o)
    | _ => rfl

/-! ## Values at places -/

/-- What is read of a value alone is read of it at every place. -/
structure PositionIndependent {α : Type} (readAt : String → Json → PlacedReading α)
    (read : Json → Reading α) : Prop where
  /-- At the place of a document, errors are as reported. -/
  alone : ∀ v, readAt "$" v = (read v).mapError ReadError.located
  /-- At any other place they stand behind that place. -/
  elsewhere : ∀ place, place ≠ "$" → ∀ v,
    readAt place v = (readAt "$" v).mapError (PlacedError.rebase place)

theorem ReadsObjects.positionIndependent {α : Type} {readAt : String → Json → PlacedReading α}
    {read : Json → Reading α} (h : ReadsObjects read) (hagrees : Agrees readAt read) :
    PositionIndependent readAt read where
  alone v := by
    rw [hagrees]
    cases hv : read v with
    | ok a => rfl
    | error e => exact congrArg Except.error (ReadError.placed_root (h.anchored hv))
  elsewhere place hplace v := by
    rw [hagrees, hagrees]
    cases hv : read v with
    | ok a => rfl
    | error e =>
      have hanchored := h.anchored hv
      rw [placed_error, placed_error, ReadError.placed_root hanchored,
        ReadError.placed_of_ne hplace hanchored]
      rfl

end Payload

end FacetedSearch

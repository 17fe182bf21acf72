import FacetedSearch.Payload.Reading
import Mathlib.Tactic

/-!
# Outcomes of reading what was written

Writing a value and reading it back gives the value again, unless the payload cannot express it; and
then reading fails. Both halves are said at once by `Yields`: a reading gives one value exactly if a
condition holds, and an error otherwise. The two halves are composed by the same rules, one for each
way in which readers are put together, so a round trip and the exact condition under which it
succeeds come out of a single walk through the reader.

The rules for keys ask only what an object has under the key. What a written object has under each
of its keys is computed by the simplifier, with the lemmas on `Json.Object.value?` below.
-/

namespace FacetedSearch

namespace Json

/-- A value that stands for itself, which is any but `null`. -/
def present? : Json → Option Json
  | .null => none
  | v => some v

@[simp] theorem present?_string (s : String) : present? (.string s) = some (.string s) := rfl

@[simp] theorem present?_bool (b : Bool) : present? (.bool b) = some (.bool b) := rfl

@[simp] theorem present?_number (n : Number) : present? (.number n) = some (.number n) := rfl

@[simp] theorem present?_array (vs : List Json) : present? (.array vs) = some (.array vs) := rfl

@[simp] theorem present?_object (o : Object) : present? (.object o) = some (.object o) := rfl

/-- A way to write values that never gives `null`, so that what is written can be found again. -/
class Written {α : Type} (write : α → Json) : Prop where
  present?_eq (a : α) : (write a).present? = some (write a)

instance : Written Json.string := ⟨fun _ ↦ rfl⟩

namespace Object

theorem value?_cons (k : String) (v : Json) (o : Object) (key : String) :
    value? ((k, v) :: o) key = if key = k then v.present? else value? o key := by
  split
  · next h =>
    subst h
    cases v <;> simp [value?, present?]
  · next h => exact value?_cons_of_ne v o h

theorem value?_optionalEntry_append (k : String) (v? : Option Json) (o : Object) (key : String) :
    value? (optionalEntry k v? ++ o) key =
      if key = k then (v?.map present?).getD (value? o key) else value? o key := by
  cases v? with
  | none => simp [optionalEntry]
  | some v =>
    change value? ((k, v) :: o) key = _
    rw [value?_cons]
    rfl

section Written

variable {α : Type} (write : α → Json) [Written write] (k : String) (x : Option α)

@[simp] theorem value?_written_append (o : Object) (key : String) :
    value? (optionalEntry k (x.map write) ++ o) key =
      if key = k then (x.map write).or (value? o key) else value? o key := by
  rw [value?_optionalEntry_append]
  cases x with
  | none => rfl
  | some a =>
    rw [Option.map_some, Option.map_some, Written.present?_eq a]
    rfl

@[simp] theorem value?_written (key : String) :
    value? (optionalEntry k (x.map write)) key = if key = k then x.map write else none := by
  have h := value?_written_append write k x [] key
  rw [List.append_nil, value?_nil, Option.or_none] at h
  exact h

end Written

theorem value?_append_of_notMem_right {a b : Object} {key : String} (h : key ∉ b.map Prod.fst) :
    value? (a ++ b) key = value? a key := by
  induction a with
  | nil =>
    have hlookup : b.lookup key = none := List.lookup_eq_none_iff.mpr fun e he ↦ by
      simpa using fun heq : key = e.1 ↦ h (heq ▸ List.mem_map_of_mem he)
    rw [List.nil_append, value?, hlookup, value?_nil]
  | cons e a ih => rw [List.cons_append, value?_cons, value?_cons, ih]

theorem value?_append_of_notMem_left {a b : Object} {key : String} (h : key ∉ a.map Prod.fst) :
    value? (a ++ b) key = value? b key := by
  induction a with
  | nil => rfl
  | cons e a ih =>
    rw [List.map_cons, List.mem_cons, not_or] at h
    rw [List.cons_append, value?_cons, if_neg h.1, ih h.2]

theorem value?_eq_none_of_notMem {o : Object} {key : String} (h : key ∉ o.map Prod.fst) :
    value? o key = none := by
  have happend := value?_append_of_notMem_left (b := []) h
  rwa [List.append_nil, value?_nil] at happend

/-- The key of an entry that is there only if its value is. -/
theorem map_fst_optionalEntry_subset (k : String) (v? : Option Json) :
    (optionalEntry k v?).map Prod.fst ⊆ [k] := by
  cases v? <;> simp [optionalEntry]

end Object

end Json

namespace Payload

open Json

variable {α β : Type}

/-! ## Outcomes -/

@[simp] theorem ok_bind (a : α) (k : α → Reading β) : (Except.ok a >>= k) = k a := rfl

/-- The reading gives a value if a condition holds, and an error if it does not. -/
structure Yields (r : Reading α) (a : α) (p : Prop) : Prop where
  ok : p → r = .ok a
  error : ¬ p → ∃ e, r = .error e

namespace Yields

variable {r : Reading α} {a : α} {p q : Prop}

theorem of_eq_ok (h : r = .ok a) : Yields r a True := ⟨fun _ ↦ h, fun hp ↦ absurd trivial hp⟩

theorem of_eq_error {e : ReadError} (h : r = .error e) : Yields r a False :=
  ⟨False.elim, fun _ ↦ ⟨e, h⟩⟩

/-- Whatever was read, the condition holds and the value is the one that was to be read. -/
theorem of_ok {b : α} (h : Yields r a p) (hr : r = .ok b) : p ∧ b = a := by
  by_cases hp : p
  · rw [h.ok hp] at hr
    exact ⟨hp, (Except.ok.inj hr).symm⟩
  · obtain ⟨e, he⟩ := h.error hp
    rw [he] at hr
    cases hr

theorem congr (h : Yields r a p) (hpq : p ↔ q) : Yields r a q :=
  ⟨fun hq ↦ h.ok (hpq.mpr hq), fun hq ↦ h.error fun hp ↦ hq (hpq.mp hp)⟩

/-- One reading after another. The second one is looked at only for the value of the first. -/
theorem bind {k : α → Reading β} {b : β} (h : Yields r a p) (hk : Yields (k a) b q) :
    Yields (r >>= k) b (p ∧ q) := by
  constructor
  · rintro ⟨hp, hq⟩
    rw [h.ok hp]
    exact hk.ok hq
  · intro hpq
    by_cases hp : p
    · rw [h.ok hp]
      exact hk.error fun hq ↦ hpq ⟨hp, hq⟩
    · obtain ⟨e, he⟩ := h.error hp
      rw [he]
      exact ⟨e, rfl⟩

/-- A first reading that cannot fail puts no condition on the whole. -/
theorem bind_of_ok {k : α → Reading β} {b : β} (h : r = .ok a) (hk : Yields (k a) b q) :
    Yields (r >>= k) b q := by
  rw [h]
  exact hk

theorem bind_pure (h : Yields r a p) (f : α → β) :
    Yields (r >>= fun x ↦ pure (f x)) (f a) p := by
  have hpure : Yields (pure (f a) : Reading β) (f a) True := of_eq_ok rfl
  exact (h.bind hpure).congr (and_iff_left trivial)

theorem map (h : Yields r a p) (f : α → β) : Yields (f <$> r) (f a) p := by
  constructor
  · intro hp
    rw [h.ok hp]
    rfl
  · intro hp
    obtain ⟨e, he⟩ := h.error hp
    rw [he]
    exact ⟨e, rfl⟩

theorem within (h : Yields r a p) (s : Step) : Yields (within s r) a p := by
  constructor
  · intro hp
    rw [h.ok hp, within_ok]
  · intro hp
    obtain ⟨e, he⟩ := h.error hp
    exact ⟨e.under s, by rw [he, within_error]⟩

end Yields

/-! ## Lists -/

section Lists

variable {read : Json → Reading α} {write : α → Json}

theorem yields_readItems {P : α → Prop} {as : List α}
    (h : ∀ a ∈ as, Yields (read (write a)) a (P a)) (i : Nat) :
    Yields (readItems read i (as.map write)) as (∀ a ∈ as, P a) := by
  induction as generalizing i with
  | nil => exact (Yields.of_eq_ok rfl).congr (by simp)
  | cons a as ih =>
    rw [List.map_cons, readItems]
    have hhead := (h a List.mem_cons_self).within (.index i)
    have htail := ih (fun b hb ↦ h b (List.mem_cons_of_mem a hb)) (i + 1)
    exact (hhead.bind (htail.bind_pure _)).congr List.forall_mem_cons.symm

theorem yields_readList {P : α → Prop} {as : List α}
    (h : ∀ a ∈ as, Yields (read (write a)) a (P a)) :
    Yields (readList read (.array (as.map write))) as (∀ a ∈ as, P a) :=
  yields_readItems h 0

theorem readList_eq_ok {as : List α} (h : ∀ a ∈ as, read (write a) = .ok a) :
    readList read (.array (as.map write)) = .ok as :=
  (yields_readList fun a ha ↦ .of_eq_ok (h a ha)).ok fun _ _ ↦ trivial

theorem readList_readTerm (ss : List String) : readList readTerm (.ofStrings ss) = .ok ss :=
  readList_eq_ok fun _ _ ↦ rfl

end Lists

/-! ## Keys -/

section Keys

variable {o : Object} {key : String} {read : Json → Reading α} {write : α → Json} {a : α}
  {p : Prop}

theorem yields_required {v : Json} (hv : o.value? key = some v) (h : Yields (read v) a p) :
    Yields (required o key read) a p := by
  rw [required, hv]
  exact h.within _

theorem required_eq_ok {v : Json} (hv : o.value? key = some v) (h : read v = .ok a) :
    required o key read = .ok a := (yields_required hv (.of_eq_ok h)).ok trivial

theorem required_eq_error (hv : o.value? key = none) :
    required o key read = .error (.malformed [.key key] .missing) := by
  rw [required, hv]

theorem yields_optional {P : α → Prop} {x : Option α} (hv : o.value? key = x.map write)
    (h : ∀ a ∈ x, Yields (read (write a)) a (P a)) :
    Yields (optional o key read) x (∀ a ∈ x, P a) := by
  cases x with
  | none =>
    rw [Option.map_none] at hv
    rw [optional, hv]
    exact (Yields.of_eq_ok rfl).congr (by simp)
  | some a =>
    rw [Option.map_some] at hv
    rw [optional, hv]
    exact (((h a rfl).within (.key key)).map some).congr (by simp)

theorem optional_eq_ok {x : Option α} (hv : o.value? key = x.map write)
    (h : ∀ a ∈ x, read (write a) = .ok a) : optional o key read = .ok x :=
  (yields_optional hv fun a ha ↦ .of_eq_ok (h a ha)).ok fun _ _ ↦ trivial

theorem yields_optional_some {v : Json} (hv : o.value? key = some v) (h : Yields (read v) a p) :
    Yields (optional o key read) (some a) p := by
  rw [optional, hv]
  exact (h.within _).map some

theorem optionalD_eq_ok {v : Json} (hv : o.value? key = some v) (h : read v = .ok a) (d : α) :
    optionalD o key read d = .ok a := by
  rw [optionalD, optional, hv]
  change (do let x ← some <$> within (.key key) (read v); pure (x.getD d)) = _
  rw [h]
  rfl

theorem yields_listOf {P : α → Prop} {as : List α}
    (hv : o.value? key = some (.array (as.map write)))
    (h : ∀ a ∈ as, Yields (read (write a)) a (P a)) :
    Yields (listOf o key read) as (∀ a ∈ as, P a) :=
  (yields_optional_some hv (yields_readList h)).bind_pure _

theorem listOf_readTerm {ss : List String} (hv : o.value? key = some (.ofStrings ss)) :
    listOf o key readTerm = .ok ss :=
  (yields_listOf hv fun _ _ ↦ .of_eq_ok rfl).ok fun _ _ ↦ trivial

theorem readTag_eq_ok [Vocabulary α] {family : Family} (hv : o.value? "type" = some (ofWord a)) :
    readTag family o = .ok a := by
  simp [readTag, hv, ofWord]

end Keys

end Payload

end FacetedSearch

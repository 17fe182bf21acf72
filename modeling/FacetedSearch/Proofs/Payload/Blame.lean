import FacetedSearch.Payload.Query
import FacetedSearch.Proofs.Json.Places
import FacetedSearch.Proofs.Steps

/-!
# What readers blame

An error of a reader has a place, and the place is worth something only if it leads to the fault:
through keys and indices that are there, to a value of the kind that the message complains about, or
to the object that lacks the key. `Payload.Locates` says this of an error and the value that was
read.

Readers are put together in a few ways, and each of them keeps the property. `Payload.Blames` is
closed under doing one reading after another and under reading a part at its key or index, which is
the only way for a place to grow. What remains is one lemma for each reader of single values.
-/

namespace FacetedSearch

namespace Json.Object

/-- The object has nothing under the key, or `null`. -/
def Lacks (o : Object) (key : String) : Prop := o.lookup key = none ∨ o.lookup key = some .null

theorem value?_eq_none_iff {o : Object} {key : String} : o.value? key = none ↔ o.Lacks key := by
  rw [value?, Lacks]
  cases h : o.lookup key with
  | none => simp
  | some v => cases v <;> simp

theorem value?_eq_some_iff {o : Object} {key : String} {v : Json} :
    o.value? key = some v ↔ o.lookup key = some v ∧ v ≠ .null := by
  rw [value?]
  cases o.lookup key with
  | none => simp
  | some w =>
    cases w with
    | null =>
      refine iff_of_false (by simp) ?_
      rintro ⟨⟨⟩, hne⟩
      exact hne rfl
    | _ =>
      refine ⟨?_, And.left⟩
      rintro ⟨⟩
      exact ⟨rfl, by simp⟩

theorem lookup_of_value? {o : Object} {key : String} {v : Json} (h : o.value? key = some v) :
    o.lookup key = some v := (value?_eq_some_iff.mp h).1

end Json.Object

namespace Payload

open Json

/-- The tags of a family. -/
def Family.tags : Family → List String
  | .filter =>
    Vocabulary.words Specialization ++ ["absoluteDateRange", "and", "archive", "field", "not", "or",
      "query", "relativeDateRange"]
  | .facet =>
    Vocabulary.words Specialization ++ ["absoluteDateRange", "field", "multiQuery", "query",
      "relativeDateRange", "spatialDistanceRange"]
  | .sort => ["customField", "date", "name", "natural", "score", "spatialDist"]

/-! ## Errors and the values they are about -/

/-- The error is one that the value gives reason for, at the place where it says so. -/
inductive Locates (v : Json) : ReadError → Prop
  | missing {p : Path} {key : String} {o : Object} (hplain : Path.Plain (p ++ [.key key]))
      (hat : v.at? p = some (.object o)) (hlacks : o.Lacks key) :
      Locates v (.malformed (p ++ [.key key]) .missing)
  | unfit {p : Path} {r : Reason} {w : Json} (hplain : Path.Plain p) (hat : v.at? p = some w)
      (hr : r ≠ .missing) (hkind : ∀ e k, r = .unexpected e k → w.kind = k) :
      Locates v (.malformed p r)
  | untagged {p : Path} {family : Family} {o : Object} (hplain : Path.Plain p)
      (hat : v.at? p = some (.object o)) (hlacks : o.Lacks "type") :
      Locates v (.unknownVariant family none p)
  | unknownTag {p : Path} {family : Family} {tag : String} {o : Object} (hplain : Path.Plain p)
      (hat : v.at? p = some (.object o)) (htype : o.lookup "type" = some (.string tag))
      (htag : tag ∉ family.tags) : Locates v (.unknownVariant family (some tag) p)
  | violation (cause : Violation) : Locates v (.violation cause)

/-- A step with a key that can be told from what stands around it. -/
def PlainStep (s : Step) : Prop := ∀ k, s = .key k → Path.IsPlainKey k

theorem plainStep_index (i : Nat) : PlainStep (.index i) := fun _ h ↦ nomatch h

theorem plainStep_key {k : String} (h : Path.IsPlainKey k) : PlainStep (.key k) := by
  rintro _ ⟨⟩
  exact h

theorem plain_cons {s : Step} {p : Path} (hs : PlainStep s) (hp : Path.Plain p) :
    Path.Plain (s :: p) := by
  intro k hk
  rcases List.mem_cons.mp hk with rfl | hk
  · exact hs k rfl
  · exact hp k hk

theorem plain_nil : Path.Plain [] := fun _ hk ↦ absurd hk List.not_mem_nil

/-- An error of a part, seen from the whole, is about the whole. -/
theorem Locates.under {v w : Json} {s : Step} {e : ReadError} (h : Locates w e) (hs : PlainStep s)
    (hw : v.step? s = some w) : Locates v (e.under s) := by
  have hstep {p : Path} {u : Json} (hat : w.at? p = some u) : v.at? (s :: p) = some u := by
    rw [at?_cons, hw]
    exact hat
  cases h with
  | missing hplain hat hlacks => exact .missing (plain_cons hs hplain) (hstep hat) hlacks
  | unfit hplain hat hr hkind => exact .unfit (plain_cons hs hplain) (hstep hat) hr hkind
  | untagged hplain hat hlacks => exact .untagged (plain_cons hs hplain) (hstep hat) hlacks
  | unknownTag hplain hat htype htag =>
    exact .unknownTag (plain_cons hs hplain) (hstep hat) htype htag
  | violation cause => exact .violation cause

/-- Whatever error the reading ends with is one that the value gives reason for. -/
def Blames {α : Type} (v : Json) (r : Reading α) : Prop := ∀ e, r = .error e → Locates v e

section Rules

variable {α β : Type} {v : Json}

theorem blames_ok (a : α) : Blames v (.ok a) := fun _ h ↦ nomatch h

theorem Blames.bind {r : Reading α} {k : α → Reading β} (hr : Blames v r)
    (hk : ∀ a, Blames v (k a)) : Blames v (r >>= k) := by
  intro e he
  rcases bind_eq_error_iff.mp he with he | ⟨a, -, he⟩
  · exact hr e he
  · exact hk a e he

theorem Blames.map {r : Reading α} (hr : Blames v r) (f : α → β) : Blames v (f <$> r) := by
  intro e he
  cases r with
  | ok a => cases he
  | error e' =>
    cases he
    exact hr _ rfl

theorem blames_checked (r : Except Violation α) : Blames v (checked r) := by
  intro e he
  cases r with
  | ok a => cases he
  | error cause =>
    cases he
    exact .violation cause

theorem Blames.within {s : Step} {w : Json} {r : Reading α} (hr : Blames w r) (hs : PlainStep s)
    (hw : v.step? s = some w) : Blames v (within s r) := by
  intro e he
  cases r with
  | ok a => cases he
  | error e' =>
    cases he
    exact (hr _ rfl).under hs hw

theorem blames_here {r : Reason} (hr : r ≠ .missing)
    (hkind : ∀ e k, r = .unexpected e k → v.kind = k) :
    Blames v (.error (.malformed [] r) : Reading α) := by
  rintro _ ⟨⟩
  exact .unfit plain_nil (at?_nil v) hr hkind

theorem blames_unexpected (e : Expected) : Blames v (.error (unexpected e v) : Reading α) := by
  refine blames_here (by simp) ?_
  rintro _ _ ⟨⟩
  rfl

end Rules

/-! ## Values -/

section Values

variable (v : Json)

theorem blames_readText : Blames v (readText v) := by
  cases v with
  | string s => exact blames_ok s
  | _ => exact blames_unexpected .string

theorem blames_readTerm : Blames v (readTerm v) := by
  cases v with
  | string s => exact blames_ok s
  | number n => exact blames_ok n.text
  | _ => exact blames_unexpected .string

theorem blames_readBool : Blames v (readBool v) := by
  rw [readBool.eq_def]
  split
  · exact blames_ok _
  · split
    · exact blames_ok true
    · split
      · exact blames_ok false
      · exact blames_unexpected .boolean
  · exact blames_unexpected .boolean

theorem blames_readInteger : Blames v (readInteger v) := by
  rw [readInteger.eq_def]
  split
  · split
    · exact blames_ok _
    · exact blames_unexpected .integer
  · split
    · exact blames_ok _
    · exact blames_unexpected .integer
  · exact blames_unexpected .integer

theorem blames_readFloat : Blames v (readFloat v) := by
  rw [readFloat.eq_def]
  split
  · exact blames_ok _
  · split
    · exact blames_ok _
    · exact blames_unexpected .finiteNumber
  · exact blames_unexpected .number

/-- A result that is refused for a reason of its own is refused at the value. -/
theorem blames_mapError {ε α : Type} (r : Except ε α) {reason : ε → Reason}
    (hr : ∀ e, reason e ≠ .missing) (hkind : ∀ e x k, reason e ≠ .unexpected x k) :
    Blames v (r.mapError fun e ↦ .malformed [] (reason e)) := by
  cases r with
  | ok a => exact blames_ok a
  | error e => exact blames_here (hr e) fun x k h ↦ absurd h (hkind e x k)

theorem blames_readInstant : Blames v (readInstant v) :=
  (blames_readText v).bind fun s ↦ blames_mapError v (Rfc3339.read s) (by simp) (by simp)

theorem blames_readPeriod : Blames v (readPeriod v) :=
  (blames_readText v).bind fun s ↦ blames_mapError v (Period.parse s) (by simp) (by simp)

theorem blames_readLanguage : Blames v (readLanguage v) := by
  rw [readLanguage.eq_def]
  split
  · exact blames_ok _
  · split
    · exact blames_ok _
    · exact blames_here (by simp) (by simp)
  · exact blames_here (by simp) (by simp)

end Values

theorem blames_readWord {α : Type} [Vocabulary α] (v : Json) : Blames v (readWord v : Reading α) :=
  blames_mapError v (decodeWord v) (by simp) (by simp)

/-! ## Lists and keys -/

section Parts

variable {α : Type} {read : Json → Reading α}

theorem blames_readItems {items : List Json} {i : Nat} {vs : List Json} (hvs : items.drop i = vs)
    (h : ∀ w ∈ vs, Blames w (read w)) : Blames (.array items) (readItems read i vs) := by
  induction vs generalizing i with
  | nil => exact blames_ok []
  | cons w vs ih =>
    have hw : (array items).step? (.index i) = some w := by
      change items[i]? = some w
      rw [← List.head?_drop, hvs]
      rfl
    have htail : items.drop (i + 1) = vs := by
      rw [← List.drop_drop, hvs]
      rfl
    have hhead := (h w List.mem_cons_self).within (plainStep_index i) hw
    exact hhead.bind fun a ↦
      (ih htail fun u hu ↦ h u (List.mem_cons_of_mem w hu)).bind fun as ↦ blames_ok (a :: as)

theorem blames_readList {v : Json} (h : ∀ i w, v.step? (.index i) = some w → Blames w (read w)) :
    Blames v (readList read v) := by
  cases v with
  | array items =>
    refine blames_readItems List.drop_zero fun w hw ↦ ?_
    obtain ⟨i, hi⟩ := List.mem_iff_getElem?.mp hw
    exact h i w hi
  | _ => exact blames_unexpected .list

variable {o : Object} {key : String}

theorem blames_optional (hkey : Path.IsPlainKey key)
    (h : ∀ w, (object o).step? (.key key) = some w → Blames w (read w)) :
    Blames (.object o) (optional o key read) := by
  rw [optional]
  cases hv : o.value? key with
  | none => exact blames_ok none
  | some w =>
    have hw : (object o).step? (.key key) = some w := Object.lookup_of_value? hv
    exact ((h w hw).within (plainStep_key hkey) hw).map some

theorem blames_required (hkey : Path.IsPlainKey key)
    (h : ∀ w, (object o).step? (.key key) = some w → Blames w (read w)) :
    Blames (.object o) (required o key read) := by
  rw [required]
  cases hv : o.value? key with
  | none =>
    rintro _ ⟨⟩
    exact .missing (p := []) (plain_cons (plainStep_key hkey) plain_nil) (at?_nil _)
      (Object.value?_eq_none_iff.mp hv)
  | some w =>
    have hw : (object o).step? (.key key) = some w := Object.lookup_of_value? hv
    exact (h w hw).within (plainStep_key hkey) hw

theorem blames_optionalD (hkey : Path.IsPlainKey key) (h : ∀ w, Blames w (read w)) (d : α) :
    Blames (.object o) (optionalD o key read d) :=
  (blames_optional hkey fun w _ ↦ h w).bind fun x ↦ blames_ok (x.getD d)

theorem blames_listOf (hkey : Path.IsPlainKey key) (h : ∀ w, Blames w (read w)) :
    Blames (.object o) (listOf o key read) :=
  (blames_optional hkey fun _ _ ↦ blames_readList fun _ w _ ↦ h w).bind fun x ↦
    blames_ok (x.getD [])

theorem blames_readObject {read : Object → Reading α} (h : ∀ o, Blames (.object o) (read o))
    (v : Json) : Blames v (readObject read v) := by
  cases v with
  | object o => exact h o
  | _ => exact blames_unexpected .object

theorem blames_readTag [Vocabulary α] {family : Family}
    (htags : ∀ t ∈ family.tags, t ∈ Vocabulary.words α) :
    Blames (.object o) (readTag family o : Reading α) := by
  rw [readTag]
  cases hv : o.value? "type" with
  | none =>
    rintro _ ⟨⟩
    exact .untagged plain_nil (at?_nil _) (Object.value?_eq_none_iff.mp hv)
  | some w =>
    have hw := Object.lookup_of_value? hv
    cases w with
    | string t =>
      dsimp only
      cases ht : (Vocabulary.ofWord? t : Option α) with
      | some a => exact blames_ok a
      | none =>
        rintro _ ⟨⟩
        exact .unknownTag plain_nil (at?_nil _) hw fun hmem ↦
          Vocabulary.ofWord?_eq_none_iff.mp ht (htags t hmem)
    | _ =>
      exact Blames.within (r := (.error (unexpected .string _) : Reading α))
        (blames_unexpected .string) (plainStep_key (by decide)) hw

end Parts

end Payload

end FacetedSearch

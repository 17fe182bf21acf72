import FacetedSearch.Proofs.Payload.Edits
import FacetedSearch.Proofs.Payload.Mirrors

/-!
# Building what was read

Reading judges almost everything about a payload, and building has one judgment left: whether every
filter that a facet excludes is one of the payload's filters. `Payload.Dangles` says of a payload,
without a word about readers, that the facet at a position excludes a filter by a key that no entry
of the list of filters has. Only the entries themselves count, so a key inside an operand resolves
nothing. The first such facet is the one that is reported.

The other judgment of building, that all numbers are finite, never fails, since no number that was
read is infinite or none at all. A query of a named index may also lack its index, and then it is
refused for that before anything else.
-/

namespace FacetedSearch

open Json
open Payload

/-! ## Places in payloads -/

namespace Json

variable {o : Object} {key : String}

@[simp] theorem at?_key (o : Object) (key : String) : (object o).at? [.key key] = o.lookup key := by
  rw [at?_cons]
  change (o.lookup key).bind (·.at? []) = o.lookup key
  simp

theorem Object.Gives.lookup_eq_iff {x : Option String} (h : o.Gives key TextOf x) {s : String} :
    o.lookup key = some (.string s) ↔ x = some s := by
  cases x with
  | none => rcases h with h | h <;> simp [h]
  | some t =>
    obtain ⟨v, hv, rfl⟩ := h
    simp [hv]

/-- What an item of a list shows under a key is known from what was read of the item. -/
theorem at?_item_iff {α : Type} {read : Json → Reading α} {as : List α}
    (h : listOf o key read = .ok as) {name s : String} {text? : α → Option String}
    (hitem : ∀ v a, read v = .ok a → (v.at? [.key name] = some (.string s) ↔ text? a = some s))
    (i : Nat) : (object o).at? [.key key, .index i, .key name] = some (.string s) ↔
      ∃ a, as[i]? = some a ∧ text? a = some s := by
  rw [listOf, bind_eq_ok_iff] at h
  obtain ⟨x, hx, has⟩ := h
  obtain rfl := pure_eq_ok_iff.mp has
  rw [optional_eq_ok_iff (fun _ _ ↦ readList_eq_ok_iff fun _ _ ↦ Iff.rfl) (by simp)] at hx
  have hat : (object o).at? [.key key, .index i, .key name] =
      (o.lookup key).bind (·.at? [.index i, .key name]) := rfl
  rw [hat]
  -- a key that is absent or `null` is read as an empty list
  cases x with
  | none =>
    have hnothing : (o.lookup key).bind (·.at? [.index i, .key name]) = none := by
      rcases hx with hx | hx <;> rw [hx] <;> rfl
    simp [hnothing]
  | some as =>
    obtain ⟨_, hlookup, items, rfl, hitems⟩ := hx
    have harray : (o.lookup key).bind (·.at? [.index i, .key name]) =
        items[i]?.bind (·.at? [.key name]) := by
      rw [hlookup]
      rfl
    rw [harray, Option.getD_some]
    by_cases hi : i < items.length
    · have hi' : i < as.length := hitems.length_eq ▸ hi
      have hread : read items[i] = .ok as[i] := hitems.get hi hi'
      rw [List.getElem?_eq_getElem hi, List.getElem?_eq_getElem hi', Option.bind_some,
        hitem _ _ hread]
      simp
    · have hi' : ¬ i < as.length := hitems.length_eq ▸ hi
      rw [List.getElem?_eq_none (not_lt.mp hi), List.getElem?_eq_none (not_lt.mp hi')]
      simp

end Json

namespace Payload

/-- The facet at a position excludes a filter by a key that no filter of the payload has. -/
def Dangles (v : Json) (i : Nat) (k : String) : Prop :=
  v.at? [.key "facets", .index i, .key "excludeFilter"] = some (.string k) ∧
    ∀ j, v.at? [.key "filter", .index j, .key "key"] ≠ some (.string k)

/-- What is reported of a payload with such a facet: the first of them, by its key, and the key of
the filter that it excludes. -/
inductive FirstDangling (v : Json) : Violation → Prop
  | intro {i : Nat} {facetKey k : String} (dangles : Dangles v i k)
      (key : v.at? [.key "facets", .index i, .key "key"] = some (.string facetKey))
      (first : ∀ j < i, ∀ l, ¬ Dangles v j l) :
      FirstDangling v (.unknownExcludeFilter facetKey k)

/-- A payload that names no index, or one without a name. -/
def Unindexed (v : Json) : Prop :=
  v.at? [.key "index"] = none ∨ v.at? [.key "index"] = some .null ∨
    v.at? [.key "index"] = some (.string "")

end Payload

/-! ## Builders and their payloads -/

theorem Filter.key_eq_iff {f : Filter} {v : Json} (h : ofPayload v = .ok f) {k : String} :
    v.at? [.key "key"] = some (.string k) ↔ f.key = some k := by
  obtain ⟨o, rfl⟩ := exists_object_of_ofPayload h
  obtain ⟨hkey, -⟩ := ofPayload_object_eq_ok_iff.mp h
  rw [at?_key]
  exact hkey.lookup_eq_iff

theorem Facet.excludeFilter_eq_iff {f : Facet} {v : Json} (h : ofPayload v = .ok f) {k : String} :
    v.at? [.key "excludeFilter"] = some (.string k) ↔ f.excludeFilter = some k := by
  obtain ⟨o, rfl, -, hexclude, -⟩ := of_ofPayload h
  rw [at?_key]
  exact hexclude.lookup_eq_iff

theorem Facet.key_eq_iff {f : Facet} {v : Json} (h : ofPayload v = .ok f) {k : String} :
    v.at? [.key "key"] = some (.string k) ↔ some f.key = some k := by
  obtain ⟨o, rfl, hkey, -, -⟩ := of_ofPayload h
  rw [at?_key, hkey]
  simp

namespace Query.Builder.IsReadFrom

variable {b : Builder} {o : Object}

theorem dangles_iff (hb : b.IsReadFrom o) {i : Nat} {k : String} :
    Dangles (object o) i k ↔ ∃ f, b.draft.facets[i]? = some f ∧ f.excludeFilter = some k ∧
      ∀ g ∈ b.draft.filters, g.key ≠ some k := by
  have hkey (j : Nat) := at?_item_iff hb.filters (fun _ _ hf ↦ Filter.key_eq_iff hf (k := k)) j
  have hexclude := at?_item_iff hb.facets (fun _ _ hf ↦ Facet.excludeFilter_eq_iff hf (k := k)) i
  rw [Dangles, hexclude]
  simp only [ne_eq, hkey, not_exists, not_and, List.mem_iff_getElem?]
  constructor
  · rintro ⟨⟨f, hf, hk⟩, hunknown⟩
    exact ⟨f, hf, hk, fun g ⟨j, hj⟩ ↦ hunknown j g hj⟩
  · rintro ⟨f, hf, hk, hunknown⟩
    exact ⟨⟨f, hf, hk⟩, fun j g hj ↦ hunknown g ⟨j, hj⟩⟩

theorem resolves_iff (hb : b.IsReadFrom o) {i : Nat} {f : Facet}
    (hf : b.draft.facets[i]? = some f) :
    b.draft.Resolves f ↔ ∀ k, ¬ Dangles (object o) i k := by
  simp only [hb.dangles_iff, hf, Option.some.injEq, Resolves, Option.mem_def]
  constructor
  · rintro h k ⟨_, rfl, hk, hunknown⟩
    obtain ⟨g, hg, hkey⟩ := h k hk
    exact hunknown g hg hkey
  · intro h k hk
    by_contra hunknown
    exact h k ⟨f, rfl, hk, fun g hg hkey ↦ hunknown ⟨g, hg, hkey⟩⟩

theorem finite_at (hb : b.IsReadFrom o) {s : Site} {n : String × Float}
    (hn : b.draft.numberAt? s = some n) : n.2.isFinite = true := by
  refine hb.finite n ?_
  rw [numbers_eq]
  exact List.mem_filterMap.mpr ⟨s, mem_sites hn, hn⟩

theorem sound_iff (hb : b.IsReadFrom o) :
    b.draft.Sound ↔ ∀ i k, ¬ Dangles (object o) i k := by
  constructor
  · rintro ⟨hresolved, -⟩ i k hdangles
    obtain ⟨f, hf, -⟩ := hb.dangles_iff.mp hdangles
    exact (hb.resolves_iff hf).mp (hresolved f (List.mem_of_getElem? hf)) k hdangles
  · intro h
    refine ⟨fun f hf ↦ ?_, fun s n hn ↦ hb.finite_at hn⟩
    obtain ⟨i, hi⟩ := List.mem_iff_getElem?.mp hf
    exact (hb.resolves_iff hi).mpr (h i)

/-- The draft is refused for the first facet that dangles, and for nothing else. -/
theorem refused_iff (hb : b.IsReadFrom o) {e : Violation} :
    b.draft.Refused e ↔ FirstDangling (object o) e := by
  have hkey (i : Nat) (k : String) :=
    at?_item_iff hb.facets (fun _ _ hf ↦ Facet.key_eq_iff hf (k := k)) i
  constructor
  · rintro (@⟨i, f, k, hf, hexcludes, hunknown, hfirst⟩ | @⟨s, name, x, -, hs, hx, -⟩)
    · refine .intro (hb.dangles_iff.mpr ⟨f, hf, hexcludes, hunknown⟩)
        ((hkey i f.key).mpr ⟨f, hf, rfl⟩) fun j hj l hdangles ↦ ?_
      obtain ⟨g, hg, -⟩ := hb.dangles_iff.mp hdangles
      exact (hb.resolves_iff hg).mp (hfirst j hj g hg) l hdangles
    · rw [hb.finite_at hs] at hx
      cases hx
  · rintro @⟨i, facetKey, k, hdangles, hat, hfirst⟩
    obtain ⟨f, hf, hexcludes, hunknown⟩ := hb.dangles_iff.mp hdangles
    obtain ⟨g, hg, hgkey⟩ := (hkey i facetKey).mp hat
    obtain rfl : f = g := Option.some.inj (hf.symm.trans hg)
    obtain rfl := Option.some.inj hgkey
    exact .exclusion hf hexcludes hunknown fun j hj g hg ↦ (hb.resolves_iff hg).mpr (hfirst j hj)

theorem build_eq_ok_iff (hb : b.IsReadFrom o) {q : Query} :
    b.build = .ok q ↔ (∀ i k, ¬ Dangles (object o) i k) ∧ q = b.draft := by
  rw [build_eq_ok_iff_sound hb.inStep, hb.sound_iff]

theorem build_eq_error_iff (hb : b.IsReadFrom o) {e : Violation} :
    b.build = .error e ↔ FirstDangling (object o) e := by
  rw [Query.Builder.build_eq_error_iff hb.inStep, hb.refused_iff]

end Query.Builder.IsReadFrom

namespace SelectQuery.Builder

variable {d : Query.Defaults} {v : Json} {s : Builder}

/-- A query of a named index is read from the same object, with the index beside it. -/
theorem exists_object_of_ofPayload (h : ofPayload d v = .ok s) :
    ∃ o : Object, v = .object o ∧ o.Gives "index" TextOf s.index ∧ s.query.IsReadFrom o := by
  cases v with
  | object o =>
    simp only [ofPayload, readObject, bind_eq_ok_iff, pure_eq_ok_iff, optional_text_eq_ok_iff] at h
    obtain ⟨index, hindex, query, hquery, rfl⟩ := h
    exact ⟨o, rfl, hindex, Query.Builder.isReadFrom_of_readEdits hquery⟩
  | _ => cases h

theorem unindexed_iff {o : Object} (h : o.Gives "index" TextOf s.index) :
    Unindexed (object o) ↔ s.Unnamed := by
  rw [Unindexed, at?_key, h.lookup_eq_iff, Unnamed]
  cases hindex : s.index with
  | none =>
    rw [hindex] at h
    exact iff_of_true (or_assoc.mp (.inl h)) (by simp)
  | some name =>
    rw [hindex] at h
    obtain ⟨w, hw, rfl⟩ := h
    simp [hw]

end SelectQuery.Builder

/-- **What was read fails to build only for an exclusion.** A query that was read from a payload is
built unless one of the payload's facets excludes a filter by a key that none of the entries of its
list of filters has, and it is refused for the first such facet. It is never refused for a number.
A query of a named index is refused for want of an index exactly if the payload names none;
otherwise it is built, or refused, as the query without the index is. -/
theorem built_unless_dangling (d : Query.Defaults) (v : Json) :
    (∀ b, Query.Builder.ofPayload d v = .ok b →
      (∀ q, b.build = .ok q ↔ (∀ i k, ¬ Dangles v i k) ∧ q = b.draft) ∧
      (∀ e, b.build = .error e ↔ FirstDangling v e) ∧
      ∀ name, b.build ≠ .error (.nonFiniteNumber name)) ∧
    ∀ s, SelectQuery.Builder.ofPayload d v = .ok s →
      (s.build = .error .missingIndex ↔ Unindexed v) ∧
      (∀ q, s.build = .ok q ↔ ¬ Unindexed v ∧ s.index = some q.index ∧
        (∀ i k, ¬ Dangles v i k) ∧ q.query = s.query.draft) ∧
      (∀ e, s.build = .error e ↔
        Unindexed v ∧ e = .missingIndex ∨ ¬ Unindexed v ∧ FirstDangling v e) ∧
      ∀ name, s.build ≠ .error (.nonFiniteNumber name) := by
  constructor
  · intro b h
    cases v with
    | object o =>
      have hb : b.IsReadFrom o := Query.Builder.isReadFrom_of_readEdits h
      refine ⟨fun q ↦ hb.build_eq_ok_iff, fun e ↦ hb.build_eq_error_iff, fun name hname ↦ ?_⟩
      have hdangling := hb.build_eq_error_iff.mp hname
      cases hdangling
    | _ => cases h
  · intro s h
    obtain ⟨o, rfl, hindex, hquery⟩ := SelectQuery.Builder.exists_object_of_ofPayload h
    obtain ⟨hmissing, herror, hok⟩ := SelectQuery.Builder.build_outcome hquery.inStep
    simp only [hquery.build_eq_error_iff, hquery.build_eq_ok_iff] at herror hok
    rw [SelectQuery.Builder.unindexed_iff hindex]
    refine ⟨hmissing, hok, herror, fun name hname ↦ ?_⟩
    rcases (herror _).mp hname with ⟨-, hname⟩ | ⟨-, hdangling⟩
    · cases hname
    · cases hdangling

/-- The key of an operand resolves nothing, and an index without a name is missed before that. -/
theorem built_unless_dangling_operand :
    let entries : Object :=
      [("filter", .array [.object [("type", .string "not"),
        ("filter", .object [("type", .string "archive"), ("key", .string "shown")])]]),
        ("facets", .array [.object [("type", .string "query"), ("key", .string "cats"),
          ("query", .string "a:b"), ("excludeFilter", .string "shown")]]),
        ("boosting", .object [("tie", .string " 1e-1 ")])]
    (∃ b, Query.Builder.ofPayload {} (.object entries) = .ok b ∧
      b.build = .error (.unknownExcludeFilter "cats" "shown") ∧
      FirstDangling (.object entries) (.unknownExcludeFilter "cats" "shown")) ∧
    ∃ s, SelectQuery.Builder.ofPayload {} (.object (("index", .string "") :: entries)) = .ok s ∧
      s.build = .error .missingIndex := by
  intro entries
  constructor
  · obtain ⟨b, hb, hbuild⟩ : ∃ b, Query.Builder.ofPayload {} (.object entries) = .ok b ∧
        b.build = .error (.unknownExcludeFilter "cats" "shown") := ⟨_, rfl, rfl⟩
    exact ⟨b, hb, hbuild, (((built_unless_dangling {} _).1 b hb).2.1 _).mp hbuild⟩
  · obtain ⟨s, hs⟩ : ∃ s, SelectQuery.Builder.ofPayload {}
        (.object (("index", .string "") :: entries)) = .ok s := ⟨_, rfl⟩
    exact ⟨s, hs, ((built_unless_dangling {} _).2 s hs).1.mpr (.inr (.inr rfl))⟩

end FacetedSearch

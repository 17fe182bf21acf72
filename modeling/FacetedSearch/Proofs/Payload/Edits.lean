import FacetedSearch.Proofs.Json.Numbers
import FacetedSearch.Proofs.Payload.Acceptance
import FacetedSearch.Proofs.Payload.Query
import FacetedSearch.Proofs.Query.Verdict

/-!
# Reading as a run of edits

A payload is read by editing a fresh builder, and the reader goes on only while its edits are
accepted. What is read is therefore what a run of edits leads to, all of which are accepted: one for
each of the three lists of a payload, and settings before and behind them
(`Query.Builder.exists_reaches_of_readEdits`). Whatever is true of all runs is true of what was
read, and what is special about a payload is special about its edits.

What is special is that their numbers are finite. A number of a document is finite already, an
integer stays finite when it is rounded to a float, and a text that holds a number is refused if the
number is too large or none at all. There is no other way for a number to come in. Nor is there a
way for an instant to come in that no timestamp denotes, so that leap seconds are at the ends of
minutes.
-/

namespace FacetedSearch

open Json
open Payload

/-! ## Numbers and instants -/

namespace Payload

variable {o : Object} {key : String} {v : Json}

theorem isFinite_of_readFloat {x : Float} (h : readFloat v = .ok x) : x.isFinite = true := by
  cases v with
  | number n =>
    cases h
    exact n.isFinite_toFloat
  | string s =>
    rw [readFloat] at h
    split at h
    · next y hy =>
      cases h
      exact (Option.filter_eq_some_iff.mp hy).2
    · cases h
  | _ => cases h

theorem isFinite_of_required {x : Float} (h : required o key readFloat = .ok x) :
    x.isFinite = true := by
  rw [required_eq_ok_iff (fun _ _ ↦ Iff.rfl) (by rintro _ ⟨⟩)] at h
  obtain ⟨v, -, hv⟩ := h
  exact isFinite_of_readFloat hv

theorem isFinite_of_readPoint {p : GeoPoint} (h : readPoint v = .ok p) :
    p.longitude.isFinite = true ∧ p.latitude.isFinite = true := by
  cases v with
  | object o =>
    simp only [readPoint, readObject, bind_eq_ok_iff, pure_eq_ok_iff] at h
    obtain ⟨longitude, hlng, latitude, hlat, rfl⟩ := h
    exact ⟨isFinite_of_required hlng, isFinite_of_required hlat⟩
  | _ => cases h

theorem isFinite_of_readBoosting {w : Boosting} (h : readBoosting v = .ok w) :
    w.tie.isFinite = true := by
  cases v with
  | object o =>
    simp only [readBoosting, readObject, bind_eq_ok_iff, pure_eq_ok_iff] at h
    obtain ⟨_, -, _, -, _, -, _, -, tie, htie, rfl⟩ := h
    rw [optionalD_eq_ok_iff (fun _ _ ↦ Iff.rfl) (by rintro _ ⟨⟩)] at htie
    have hzero : (0 : Float).isFinite = true := by decide
    obtain ⟨_ | x, hx, rfl⟩ := htie
    · exact hzero
    · obtain ⟨v, -, hv⟩ := hx
      exact isFinite_of_readFloat hv
  | _ => cases h

theorem leapsAtMinuteEnd_of_gives {x : Option Instant} (h : o.Gives key InstantOf x) :
    ∀ t ∈ x, t.LeapsAtMinuteEnd := by
  rintro t ⟨⟩
  obtain ⟨_, -, _, -, hread⟩ := h
  exact Rfc3339.leapsAtMinuteEnd_of_read hread

end Payload

namespace Facet

variable {o : Object} {f : Facet}

/-- A facet that is no group has its key from the object, and nothing in it comes from elsewhere. -/
theorem of_readSingle {t : Measure.Tag} (h : readSingle o t = .ok f) :
    o.lookup "key" = some (.string f.key) ∧ f.IsFinite ∧
      ∀ i ∈ f.measure.instants, i.LeapsAtMinuteEnd := by
  -- only a point has numbers, and only a range between instants has instants
  cases t with
  | distance =>
    simp only [readSingle, bind_eq_ok_iff, pure_eq_ok_iff, required_text_eq_ok_iff] at h
    obtain ⟨p, hp, key, hkey, nearest, hnearest, farthest, hfarthest, rfl⟩ := h
    rw [required_eq_ok_iff (fun _ _ ↦ Iff.rfl) (by rintro _ ⟨⟩)] at hp
    obtain ⟨v, -, hv⟩ := hp
    obtain ⟨hlng, hlat⟩ := isFinite_of_readPoint hv
    refine ⟨hkey, ?_, List.forall_mem_nil _⟩
    simp [IsFinite, Query.facetNumbers, hlng, hlat, isFinite_of_required hnearest,
      isFinite_of_required hfarthest]
  | specialized s =>
    simp only [readSingle, readFieldCount, bind_eq_ok_iff, pure_eq_ok_iff,
      required_text_eq_ok_iff] at h
    obtain ⟨key, hkey, _, -, rfl⟩ := h
    exact ⟨hkey, List.forall_mem_nil _, List.forall_mem_nil _⟩
  | field =>
    simp only [readSingle, readFieldCount, bind_eq_ok_iff, pure_eq_ok_iff,
      required_text_eq_ok_iff] at h
    obtain ⟨_, -, key, hkey, _, -, rfl⟩ := h
    exact ⟨hkey, List.forall_mem_nil _, List.forall_mem_nil _⟩
  | query =>
    simp only [readSingle, bind_eq_ok_iff, pure_eq_ok_iff, required_text_eq_ok_iff] at h
    obtain ⟨key, hkey, _, -, rfl⟩ := h
    exact ⟨hkey, List.forall_mem_nil _, List.forall_mem_nil _⟩
  | dateRange =>
    simp only [readSingle, bind_eq_ok_iff, pure_eq_ok_iff, required_text_eq_ok_iff,
      optional_instant_eq_ok_iff] at h
    obtain ⟨key, hkey, lower, hlower, upper, hupper, _, -, _, -, rfl⟩ := h
    refine ⟨hkey, List.forall_mem_nil _, ?_⟩
    simp only [Measure.instants, List.mem_append, Option.mem_toList, or_imp, forall_and]
    exact ⟨leapsAtMinuteEnd_of_gives hlower, leapsAtMinuteEnd_of_gives hupper⟩
  | relativeRange =>
    simp only [readSingle, bind_eq_ok_iff, pure_eq_ok_iff, required_text_eq_ok_iff] at h
    obtain ⟨key, hkey, _, -, _, -, _, -, _, -, _, -, _, -, rfl⟩ := h
    exact ⟨hkey, List.forall_mem_nil _, List.forall_mem_nil _⟩

theorem of_readNode {t : Tag} (h : readNode o t = .ok f) :
    o.lookup "key" = some (.string f.key) ∧ f.IsFinite ∧
      ∀ i ∈ f.measure.instants, i.LeapsAtMinuteEnd := by
  cases t with
  | single t => exact of_readSingle h
  | queryGroup =>
    simp only [readNode, bind_eq_ok_iff, checked_eq_ok_iff, required_text_eq_ok_iff] at h
    obtain ⟨queries, -, key, hkey, hgroup⟩ := h
    rw [queryGroup] at hgroup
    split at hgroup
    · cases hgroup
    · cases hgroup
      exact ⟨hkey, List.forall_mem_nil _, List.forall_mem_nil _⟩

/-- What is known of a facet that was read: where its key and its exclusion come from, that its
numbers are finite, and that its instants are those of timestamps. -/
theorem of_ofPayload {v : Json} (h : ofPayload v = .ok f) :
    ∃ o : Object, v = .object o ∧ o.lookup "key" = some (.string f.key) ∧
      o.Gives "excludeFilter" TextOf f.excludeFilter ∧ f.IsFinite ∧
      ∀ i ∈ f.measure.instants, i.LeapsAtMinuteEnd := by
  cases v with
  | object o =>
    simp only [ofPayload_eq_readNode, bind_eq_ok_iff, pure_eq_ok_iff, optional_text_eq_ok_iff] at h
    obtain ⟨tag, -, g, hg, k, hk, rfl⟩ := h
    obtain ⟨hkey, hfinite, hleaps⟩ := of_readNode hg
    exact ⟨o, rfl, hkey, hk, hfinite, hleaps⟩
  | _ => cases h

end Facet

/-! ## Items of lists -/

theorem mem_of_listOf {α : Type} {o : Object} {key : String} {read : Json → Reading α}
    {as : List α} (h : listOf o key read = .ok as) {a : α} (ha : a ∈ as) :
    ∃ v, read v = .ok a := by
  rw [listOf, bind_eq_ok_iff] at h
  obtain ⟨x, hx, has⟩ := h
  obtain rfl := pure_eq_ok_iff.mp has
  rw [optional_eq_ok_iff (fun _ _ ↦ readList_eq_ok_iff fun _ _ ↦ Iff.rfl) (by simp)] at hx
  cases x with
  | none => cases ha
  | some as =>
    obtain ⟨_, _, items, rfl, hitems⟩ := hx
    exact exists_forall₂_iff.mp ⟨items, hitems.flip⟩ a ha

namespace Query

/-! ## Edits -/

namespace Edit

/-- The numbers that an edit brings, with their names. -/
def numbers : Edit → List (String × Float)
  | facet fs => fs.flatMap facetNumbers
  | boosting w => [("boosting.tie", w.tie)]
  | referencePoint p =>
    [("distanceReferencePoint.lng", p.longitude), ("distanceReferencePoint.lat", p.latitude)]
  | _ => []

/-- An edit of a single value, whose numbers are finite. -/
structure IsSetting (e : Edit) : Prop where
  criteria : e.criteria = []
  filters : e.filters = []
  facets : e.facets = []
  finite : ∀ n ∈ e.numbers, n.2.isFinite = true

end Edit

namespace Builder

variable {b b' b'' : Builder} {e : Edit} {es : List Edit}

theorem numbers_apply (h : b.apply e = .ok b') :
    ∀ n ∈ b'.draft.numbers, n ∈ b.draft.numbers ∨ n ∈ e.numbers := by
  intro n hn
  cases e with
  | offset k =>
    obtain ⟨-, rfl⟩ := setOffset_eq_ok_iff.mp h
    exact .inl hn
  | limit k =>
    obtain ⟨-, rfl⟩ := setLimit_eq_ok_iff.mp h
    exact .inl hn
  | filter fs =>
    obtain ⟨-, rfl⟩ := addFilters_eq_ok_iff.mp h
    exact .inl hn
  | facet fs =>
    obtain ⟨-, rfl⟩ := addFacets_eq_ok_iff.mp h
    rw [numbers, List.flatMap_append, ← List.append_assoc] at hn
    exact List.mem_append.mp hn
  | boosting w =>
    cases h
    simp only [numbers, Option.map_some, Option.toList_some, List.append_assoc,
      List.mem_append] at hn ⊢
    exact hn.elim .inr fun hn ↦ .inl (.inr hn)
  | referencePoint p =>
    cases h
    simp only [numbers, List.mem_append] at hn ⊢
    rcases hn with (hn | hn) | hn
    · exact .inl (.inl (.inl hn))
    · exact .inr hn
    · exact .inl (.inr hn)
  | _ =>
    -- every other edit sets a field without a number
    cases h
    exact .inl hn

theorem numbers_run (b : Builder) (es : List Edit) :
    ∀ n ∈ (b.run es).draft.numbers, n ∈ b.draft.numbers ∨ ∃ e ∈ es, n ∈ e.numbers := by
  induction es generalizing b with
  | nil => exact fun n hn ↦ .inl hn
  | cons e es ih =>
    intro n hn
    rcases ih (b.attempt e) n hn with hn | ⟨e', he', hn⟩
    · rw [attempt] at hn
      cases h : b.apply e with
      | ok b' =>
        rw [h] at hn
        exact (numbers_apply h n hn).imp_right fun hn ↦ ⟨e, List.mem_cons_self, hn⟩
      | error v =>
        rw [h] at hn
        exact .inl hn
    · exact .inr ⟨e', List.mem_cons_of_mem e he', hn⟩

/-! ## Runs without a refusal -/

/-- The edits are all accepted, one after the other, and lead from one builder to the other. -/
def Reaches (b : Builder) (es : List Edit) (b' : Builder) : Prop := es.foldlM apply b = .ok b'

theorem reaches_nil (b : Builder) : b.Reaches [] b := rfl

theorem reaches_cons : b.Reaches (e :: es) b'' ↔ ∃ b', b.apply e = .ok b' ∧ b'.Reaches es b'' := by
  rw [Reaches, List.foldlM_cons, bind_eq_ok_iff]
  rfl

theorem reaches_singleton : b.Reaches [e] b' ↔ b.apply e = .ok b' := by
  rw [reaches_cons]
  constructor
  · rintro ⟨b₁, he, ⟨⟩⟩
    exact he
  · intro he
    exact ⟨b', he, reaches_nil b'⟩

theorem Reaches.append {es' : List Edit} (h : b.Reaches es b') (h' : b'.Reaches es' b'') :
    b.Reaches (es ++ es') b'' := by
  rw [Reaches, List.foldlM_append, bind_eq_ok_iff]
  exact ⟨b', h, h'⟩

/-- Such edits are a run, and all of the run is accepted. -/
theorem Reaches.run_eq (h : b.Reaches es b') : b.run es = b' ∧ b.accepted es = es := by
  induction es generalizing b with
  | nil =>
    cases h
    exact ⟨rfl, rfl⟩
  | cons e es ih =>
    obtain ⟨b₁, he, hes⟩ := reaches_cons.mp h
    obtain ⟨hrun, haccepted⟩ := ih hes
    have hattempt : b.attempt e = b₁ := by
      rw [attempt, he]
      rfl
    have hcons : b.run (e :: es) = (b.attempt e).run es := rfl
    rw [hcons, hattempt, accepted, he]
    exact ⟨hrun, congrArg (e :: ·) haccepted⟩

/-- Settings lead from one builder to the other. -/
def Settles (b b' : Builder) : Prop := ∃ es, (∀ e ∈ es, e.IsSetting) ∧ b.Reaches es b'

theorem Settles.trans (h : b.Settles b') (h' : b'.Settles b'') : b.Settles b'' := by
  obtain ⟨es, hes, hreaches⟩ := h
  obtain ⟨es', hes', hreaches'⟩ := h'
  refine ⟨es ++ es', fun e he ↦ ?_, hreaches.append hreaches'⟩
  exact (List.mem_append.mp he).elim (hes e) (hes' e)

variable {o : Object}

theorem settles_of_editOf {α : Type} {key : String} {read : Json → Reading α} {edit : α → Edit}
    (hedit : ∀ v a, read v = .ok a → (edit a).IsSetting)
    (h : editOf o key read edit b = .ok b') : b.Settles b' := by
  rw [editOf, bind_eq_ok_iff] at h
  obtain ⟨x, hx, h⟩ := h
  cases x with
  | none =>
    obtain rfl := pure_eq_ok_iff.mp h
    exact ⟨[], List.forall_mem_nil _, reaches_nil b⟩
  | some a =>
    refine ⟨[edit a], ?_, reaches_singleton.mpr (checked_eq_ok_iff.mp h)⟩
    rw [Payload.optional] at hx
    split at hx
    · cases hx
    · next v _ =>
      obtain ⟨a', ha', haa'⟩ := map_eq_ok_iff.mp hx
      cases haa'
      rw [List.forall_mem_singleton]
      exact hedit v a (within_eq_ok_iff.mp ha')

private theorem isSetting_of_nil
    (h : e.criteria = [] ∧ e.filters = [] ∧ e.facets = [] ∧ e.numbers = []) : e.IsSetting :=
  ⟨h.1, h.2.1, h.2.2.1, h.2.2.2 ▸ List.forall_mem_nil _⟩

theorem settles_of_readPage (h : readPage o b = .ok b') : b.Settles b' := by
  simp only [readPage, bind_eq_ok_iff] at h
  obtain ⟨_, htext, _, hlanguage, _, hoffset, hlimit⟩ := h
  have htext := settles_of_editOf (fun _ _ _ ↦ isSetting_of_nil ⟨rfl, rfl, rfl, rfl⟩) htext
  have hlanguage := settles_of_editOf (fun _ _ _ ↦ isSetting_of_nil ⟨rfl, rfl, rfl, rfl⟩) hlanguage
  have hoffset := settles_of_editOf (fun _ _ _ ↦ isSetting_of_nil ⟨rfl, rfl, rfl, rfl⟩) hoffset
  have hlimit := settles_of_editOf (fun _ _ _ ↦ isSetting_of_nil ⟨rfl, rfl, rfl, rfl⟩) hlimit
  exact ((htext.trans hlanguage).trans hoffset).trans hlimit

theorem settles_of_readSettings (h : readSettings o b = .ok b') : b.Settles b' := by
  simp only [readSettings, bind_eq_ok_iff] at h
  obtain ⟨_, harchive, _, hoperator, _, hzone, _, hboosting, _, hpoint, hexplain⟩ := h
  have harchive := settles_of_editOf (fun _ _ _ ↦ isSetting_of_nil ⟨rfl, rfl, rfl, rfl⟩) harchive
  have hoperator := settles_of_editOf (fun _ _ _ ↦ isSetting_of_nil ⟨rfl, rfl, rfl, rfl⟩) hoperator
  have hzone := settles_of_editOf (fun _ _ _ ↦ isSetting_of_nil ⟨rfl, rfl, rfl, rfl⟩) hzone
  have hboosting := settles_of_editOf (fun v w hw ↦ ⟨rfl, rfl, rfl, by
    simpa [Edit.numbers] using isFinite_of_readBoosting hw⟩) hboosting
  have hpoint := settles_of_editOf (fun v p hp ↦ ⟨rfl, rfl, rfl, by
    simpa [Edit.numbers] using isFinite_of_readPoint hp⟩) hpoint
  have hexplain := settles_of_editOf (fun _ _ _ ↦ isSetting_of_nil ⟨rfl, rfl, rfl, rfl⟩) hexplain
  exact ((((harchive.trans hoperator).trans hzone).trans hboosting).trans hpoint).trans hexplain

/-- Edits that bring the lists of a payload, and no number that is not finite. -/
structure IsReading (o : Object) (es : List Edit) : Prop where
  criteria : listOf o "sort" SortCriterion.ofPayload = .ok (es.flatMap Edit.criteria)
  filters : listOf o "filter" Filter.ofPayload = .ok (es.flatMap Edit.filters)
  facets : listOf o "facets" Facet.ofPayload = .ok (es.flatMap Edit.facets)
  finite : ∀ e ∈ es, ∀ n ∈ e.numbers, n.2.isFinite = true

/-- **Reading is a run of edits**, and none of them is refused. -/
theorem exists_reaches_of_readEdits (h : readEdits o b = .ok b') :
    ∃ es, IsReading o es ∧ b.Reaches es b' := by
  simp only [readEdits_eq, readLists, bind_eq_ok_iff, checked_eq_ok_iff] at h
  obtain ⟨b₁, hpage, b₄, ⟨sort, hsort, filters, hfilters, facets, hfacets, b₂, hsorted, b₃,
    hfiltered, hfaceted⟩, hsettings⟩ := h
  obtain ⟨page, hpage, hreachesPage⟩ := settles_of_readPage hpage
  obtain ⟨settings, hsettings, hreachesSettings⟩ := settles_of_readSettings hsettings
  let lists : List Edit := [.sort sort, .filter filters, .facet facets]
  have hreachesLists : b₁.Reaches lists b₄ :=
    reaches_cons.mpr ⟨b₂, hsorted, reaches_cons.mpr ⟨b₃, hfiltered, reaches_singleton.mpr hfaceted⟩⟩
  -- settings bring no lists, so those of the three edits in the middle are all there are
  have hbrings {α : Type} {bring : Edit → List α} (hnil : ∀ e : Edit, e.IsSetting → bring e = []) :
      (page ++ lists ++ settings).flatMap bring = lists.flatMap bring := by
    have hpageNil := List.flatMap_eq_nil_iff.mpr fun e he ↦ hnil e (hpage e he)
    have hsettingsNil := List.flatMap_eq_nil_iff.mpr fun e he ↦ hnil e (hsettings e he)
    rw [List.flatMap_append, List.flatMap_append, hpageNil, hsettingsNil, List.nil_append,
      List.append_nil]
  refine ⟨page ++ lists ++ settings, ⟨?_, ?_, ?_, ?_⟩,
    (hreachesPage.append hreachesLists).append hreachesSettings⟩
  · rw [hbrings fun e he ↦ he.criteria, hsort]
    simp [lists]
  · rw [hbrings fun e he ↦ he.filters, hfilters]
    simp [lists]
  · rw [hbrings fun e he ↦ he.facets, hfacets]
    simp [lists]
  · intro e he n hn
    rcases List.mem_append.mp he with he | he
    · rcases List.mem_append.mp he with he | he
      · exact (hpage e he).finite n hn
      · have hfacet : n ∈ facets.flatMap facetNumbers := by
          simp only [lists, List.mem_cons, List.not_mem_nil, or_false] at he
          rcases he with rfl | rfl | rfl
          · exact absurd hn List.not_mem_nil
          · exact absurd hn List.not_mem_nil
          · exact hn
        obtain ⟨f, hf, hn⟩ := List.mem_flatMap.mp hfacet
        obtain ⟨v, hv⟩ := mem_of_listOf hfacets hf
        obtain ⟨-, -, -, -, hfinite, -⟩ := Facet.of_ofPayload hv
        exact hfinite n hn
    · exact (hsettings e he).finite n hn

/-- What is true of the builder that an object is read into: it has the filters and facets of the
object, and its numbers are finite. -/
structure IsReadFrom (b : Builder) (o : Object) : Prop where
  inStep : b.InStep
  filters : listOf o "filter" Filter.ofPayload = .ok b.draft.filters
  facets : listOf o "facets" Facet.ofPayload = .ok b.draft.facets
  finite : ∀ n ∈ b.draft.numbers, n.2.isFinite = true

theorem isReadFrom_of_readEdits {d : Defaults} (h : readEdits o (new d) = .ok b) :
    b.IsReadFrom o := by
  obtain ⟨es, hes, hreaches⟩ := exists_reaches_of_readEdits h
  obtain ⟨rfl, haccepted⟩ := hreaches.run_eq
  have hlists := extends_run (new d) es
  rw [haccepted] at hlists
  constructor
  · exact ((consistent_new d).run es).inStep
  · rw [hlists.filters]
    exact hes.filters
  · rw [hlists.facets]
    exact hes.facets
  · intro n hn
    rcases numbers_run (new d) es n hn with hn | ⟨e, he, hn⟩
    · exact absurd hn List.not_mem_nil
    · exact hes.finite e he n hn

end Builder

end Query

end FacetedSearch

import FacetedSearch.Proofs.Payload.Blame
import FacetedSearch.Proofs.Payload.Query
import FacetedSearch.Proofs.Text.Runs

/-!
# Errors point at what is wrong

Every reader of the library blames a value only for what the value gives reason for. For single
objects this is a walk through their keys. Filters and the queries of a group are read by the reader
that they are a part of, so for them it is an induction along the steps into a document, which has
to speak of lists of such values at the same time.

## Messages

A message shows place and reason as texts. The text of a place is followed by `Json.Path.ofText?`,
and a reason is known by how its message begins, so that what holds of the errors can be said of
their messages, too (`Payload.Pinpoints`).
-/

namespace FacetedSearch.Payload

open Json

/-! ## Tagged objects -/

section Objects

variable (o : Object)

private theorem blames_text (key : String) (hkey : Path.IsPlainKey key) :
    Blames (.object o) (required o key readText) :=
  blames_required hkey fun w _ ↦ blames_readText w

private theorem blames_optionalText (key : String) (hkey : Path.IsPlainKey key) :
    Blames (.object o) (optional o key readText) :=
  blames_optional hkey fun w _ ↦ blames_readText w

private theorem blames_optionalPeriod (key : String) (hkey : Path.IsPlainKey key) :
    Blames (.object o) (optional o key readPeriod) :=
  blames_optional hkey fun w _ ↦ blames_readPeriod w

private theorem blames_optionalInstant (key : String) (hkey : Path.IsPlainKey key) :
    Blames (.object o) (optional o key readInstant) :=
  blames_optional hkey fun w _ ↦ blames_readInstant w

private theorem blames_float (key : String) (hkey : Path.IsPlainKey key) :
    Blames (.object o) (required o key readFloat) :=
  blames_required hkey fun w _ ↦ blames_readFloat w

theorem blames_readRangeField : Blames (.object o) (readRangeField o) :=
  blames_optionalD (by decide) blames_readText _

theorem blames_readFieldTest (field : String) : Blames (.object o) (readFieldTest o field) := by
  have hterms : Blames (.object o) (required o "terms" (readList readTerm)) :=
    blames_required (by decide) fun _ _ ↦ blames_readList fun _ w _ ↦ blames_readTerm w
  refine hterms.bind fun terms ↦ (blames_checked _).bind fun test ↦ ?_
  exact (blames_optionalD (by decide) blames_readBool false).bind fun excluded ↦ blames_ok _

theorem blames_readCondition (t : Condition.Tag) : Blames (.object o) (readCondition o t) := by
  cases t with
  | specialized s => exact (blames_readFieldTest o s.field).map _
  | field =>
    exact (blames_text o "field" (by decide)).bind fun field ↦
      (blames_readFieldTest o field).bind fun test ↦ blames_ok _
  | raw => exact (blames_text o "query" (by decide)).map _
  | unarchived => exact blames_ok _
  | dateRange =>
    exact (blames_optionalInstant o "from" (by decide)).bind fun lower ↦
      (blames_optionalInstant o "to" (by decide)).bind fun upper ↦
        (blames_readRangeField o).bind fun field ↦ blames_ok _
  | relativeRange =>
    exact (blames_optionalPeriod o "before" (by decide)).bind fun before ↦
      (blames_optionalPeriod o "after" (by decide)).bind fun after ↦
        (blames_readRangeField o).bind fun field ↦ blames_ok _

theorem blames_readFieldCount (field : String) : Blames (.object o) (readFieldCount o field) :=
  (blames_text o "key" (by decide)).bind fun key ↦
    (blames_listOf (by decide) blames_readTerm).bind fun terms ↦ blames_ok _

theorem blames_readPoint (v : Json) : Blames v (readPoint v) :=
  blames_readObject (fun o ↦ (blames_float o "lng" (by decide)).bind fun longitude ↦
    (blames_float o "lat" (by decide)).bind fun latitude ↦ blames_ok _) v

theorem blames_readSingle (t : Measure.Tag) : Blames (.object o) (readSingle o t) := by
  cases t with
  | specialized s => exact blames_readFieldCount o s.field
  | field => exact (blames_text o "field" (by decide)).bind (blames_readFieldCount o)
  | query =>
    exact (blames_text o "key" (by decide)).bind fun key ↦
      (blames_text o "query" (by decide)).bind fun query ↦ blames_ok _
  | dateRange =>
    refine (blames_text o "key" (by decide)).bind fun key ↦ ?_
    refine (blames_optionalInstant o "from" (by decide)).bind fun lower ↦ ?_
    refine (blames_optionalInstant o "to" (by decide)).bind fun upper ↦ ?_
    refine (blames_optionalPeriod o "gap" (by decide)).bind fun gap ↦ ?_
    exact (blames_readRangeField o).bind fun field ↦ blames_ok _
  | relativeRange =>
    refine (blames_text o "key" (by decide)).bind fun key ↦ ?_
    refine (blames_optionalPeriod o "before" (by decide)).bind fun before ↦ ?_
    refine (blames_optionalPeriod o "after" (by decide)).bind fun after ↦ ?_
    refine (blames_optionalPeriod o "gap" (by decide)).bind fun gap ↦ ?_
    refine (blames_optionalD (by decide) blames_readWord _).bind fun roundStart ↦ ?_
    refine (blames_optionalD (by decide) blames_readWord _).bind fun roundEnd ↦ ?_
    exact (blames_readRangeField o).bind fun field ↦ blames_ok _
  | distance =>
    -- the point is read first, so a fault in it is reported before a missing key
    refine (blames_required (by decide) fun w _ ↦ blames_readPoint w).bind fun point ↦ ?_
    refine (blames_text o "key" (by decide)).bind fun key ↦ ?_
    refine (blames_float o "from" (by decide)).bind fun nearest ↦ ?_
    exact (blames_float o "to" (by decide)).bind fun farthest ↦ blames_ok _

theorem blames_readSortKey (t : SortKey.Tag) : Blames (.object o) (readSortKey o t) := by
  cases t with
  | field => exact (blames_text o "field" (by decide)).map _
  | _ => exact blames_ok _

end Objects

theorem blames_sort (v : Json) : Blames v (SortCriterion.ofPayload v) :=
  blames_readObject (fun o ↦ (blames_readTag (by decide)).bind fun tag ↦
    (blames_readSortKey o tag).bind fun key ↦
      (blames_optionalD (by decide) blames_readWord _).bind fun direction ↦ blames_ok _) v

/-! ## Trees -/

private theorem blames_filters (v : Json) :
    Blames v (Filter.ofPayload v) ∧ Blames v (readList Filter.ofPayload v) := by
  -- both readers in one induction, since the operands of a group are read as a list
  induction v using Json.induction with
  | step v ih =>
    refine ⟨?_, blames_readList fun i w hw ↦ (ih _ w hw).1⟩
    cases v with
    | object o =>
      rw [Filter.ofPayload_eq_readNode]
      refine (blames_readTag (by decide)).bind fun tag ↦ ?_
      refine Blames.bind ?_ fun filter ↦
        (blames_optionalText o "key" (by decide)).bind fun key ↦ blames_ok _
      cases tag with
      | test t => exact (blames_readCondition o t).map _
      | group op =>
        have hoperands : Blames (.object o) (required o "filters" (readList Filter.ofPayload)) :=
          blames_required (by decide) fun w hw ↦ (ih _ w hw).2
        exact hoperands.bind fun operands ↦ blames_checked _
      | negation =>
        have hoperand : Blames (.object o) (required o "filter" Filter.ofPayload) :=
          blames_required (by decide) fun w hw ↦ (ih _ w hw).1
        exact hoperand.map _
    | _ => exact blames_unexpected .object

theorem blames_filter (v : Json) : Blames v (Filter.ofPayload v) := (blames_filters v).1

/-- What is no query within a group is a fault of the item itself. -/
private theorem blames_asQuery (v : Json) (f : Facet) : Blames v (asQuery f) := by
  rw [asQuery]
  split
  · exact blames_ok _
  · exact blames_here (by simp) (by simp)

private theorem blames_facets (v : Json) :
    Blames v (Facet.ofPayload v) ∧ Blames v (readList Facet.readQuery v) := by
  induction v using Json.induction with
  | step v ih =>
    refine ⟨?_, blames_readList fun i w hw ↦ (ih _ w hw).1.bind (blames_asQuery w)⟩
    cases v with
    | object o =>
      rw [Facet.ofPayload_eq_readNode]
      refine (blames_readTag (by decide)).bind fun tag ↦ ?_
      refine Blames.bind ?_ fun facet ↦
        (blames_optionalText o "excludeFilter" (by decide)).bind fun key ↦ blames_ok _
      cases tag with
      | single t => exact blames_readSingle o t
      | queryGroup =>
        have hqueries : Blames (.object o) (required o "queries" (readList Facet.readQuery)) :=
          blames_required (by decide) fun w hw ↦ (ih _ w hw).2
        exact hqueries.bind fun queries ↦
          (blames_text o "key" (by decide)).bind fun key ↦ blames_checked _
    | _ => exact blames_unexpected .object

theorem blames_facet (v : Json) : Blames v (Facet.ofPayload v) := (blames_facets v).1

/-! ## Queries -/

section Queries

variable (o : Object) (b : Query.Builder)

theorem blames_editOf {α : Type} {key : String} {read : Json → Reading α} {edit : α → Query.Edit}
    (hkey : Path.IsPlainKey key) (h : ∀ w, Blames w (read w)) :
    Blames (.object o) (editOf o key read edit b) := by
  refine (blames_optional hkey fun w _ ↦ h w).bind fun x ↦ ?_
  cases x with
  | none => exact blames_ok b
  | some a => exact blames_checked _

theorem blames_readBoosting (v : Json) : Blames v (readBoosting v) := by
  refine blames_readObject (fun o ↦ ?_) v
  refine (blames_listOf (by decide) blames_readTerm).bind fun queryFields ↦ ?_
  refine (blames_listOf (by decide) blames_readTerm).bind fun phraseFields ↦ ?_
  refine (blames_listOf (by decide) blames_readTerm).bind fun boostQueries ↦ ?_
  refine (blames_listOf (by decide) blames_readTerm).bind fun boostFunctions ↦ ?_
  exact (blames_optionalD (by decide) blames_readFloat _).bind fun tie ↦ blames_ok _

theorem blames_readPage : Blames (.object o) (readPage o b) := by
  refine (blames_editOf o b (by decide) blames_readText).bind fun b ↦ ?_
  refine (blames_editOf o b (by decide) blames_readLanguage).bind fun b ↦ ?_
  refine (blames_editOf o b (by decide) blames_readInteger).bind fun b ↦ ?_
  exact blames_editOf o b (by decide) blames_readInteger

theorem blames_readLists : Blames (.object o) (readLists o b) := by
  refine (blames_listOf (by decide) blames_sort).bind fun sort ↦ ?_
  refine (blames_listOf (by decide) blames_filter).bind fun filters ↦ ?_
  refine (blames_listOf (by decide) blames_facet).bind fun facets ↦ ?_
  refine (blames_checked _).bind fun b ↦ (blames_checked _).bind fun b ↦ ?_
  exact blames_checked _

theorem blames_readSettings : Blames (.object o) (readSettings o b) := by
  refine (blames_editOf o b (by decide) blames_readBool).bind fun b ↦ ?_
  refine (blames_editOf o b (by decide) blames_readWord).bind fun b ↦ ?_
  refine (blames_editOf o b (by decide) blames_readText).bind fun b ↦ ?_
  refine (blames_editOf o b (by decide) blames_readBoosting).bind fun b ↦ ?_
  refine (blames_editOf o b (by decide) blames_readPoint).bind fun b ↦ ?_
  exact blames_editOf o b (by decide) blames_readBool

theorem blames_readEdits : Blames (.object o) (readEdits o b) := by
  rw [readEdits_eq]
  exact (blames_readPage o b).bind fun b ↦
    (blames_readLists o b).bind fun b ↦ blames_readSettings o b

end Queries

theorem blames_query (d : Query.Defaults) (v : Json) : Blames v (Query.Builder.ofPayload d v) :=
  blames_readObject (fun o ↦ blames_readEdits o (.new d)) v

theorem blames_selectQuery (d : Query.Defaults) (v : Json) :
    Blames v (SelectQuery.Builder.ofPayload d v) :=
  blames_readObject (fun o ↦ (blames_optionalText o "index" (by decide)).bind fun index ↦
    (blames_readEdits o (.new d)).bind fun query ↦ blames_ok _) v

/-! ## Messages -/

/-- The first letter of the message of a reason. -/
def Reason.initial : Reason → Char
  | .missing => 'm'
  | .unexpected .. | .notAQuery => 'e'
  | .timestamp .tooShort => 'p'
  | .timestamp .badCharacter | .timestamp .outOfRange => 'i'
  | .timestamp .tooLong => 't'
  | .period _ => 'I'
  | .undecodable (.unknownWord ..) => 'u'
  | .undecodable (.noForm _) => 'd'
  | .undecodable _ => 'i'

private theorem head?_append {s : String} {c : Char} (h : s.toList.head? = some c) (t : String) :
    (s ++ t).toList.head? = some c := by
  rw [String.toList_append, List.head?_append, h]
  rfl

theorem Reason.head?_message (r : Reason) : r.message.toList.head? = some r.initial := by
  cases r with
  | missing => rfl
  | unexpected e k => exact head?_append (head?_append (head?_append rfl _) _) _
  | notAQuery => rfl
  | timestamp fault => cases fault <;> rfl
  | period e => exact head?_append (head?_append (head?_append rfl _) _) _
  | undecodable e =>
    cases e with
    | noForm t => exact head?_append rfl _
    | tooLong n => exact head?_append (head?_append rfl _) _
    | _ => exact head?_append (head?_append (head?_append rfl _) _) _

theorem Reason.message_eq_missing_iff {r : Reason} :
    r.message = "missing value" ↔ r = .missing := by
  constructor
  · intro h
    have hinitial := r.head?_message
    rw [h] at hinitial
    have hm : r.initial = 'm' := (Option.some.inj hinitial).symm
    cases r with
    | missing => rfl
    | timestamp fault => cases fault <;> cases hm
    | undecodable e => cases e <;> cases hm
    | _ => cases hm
  · rintro rfl
    rfl

/-- Around the only comma of a text there is one way to take it apart. -/
private theorem append_comma_inj {cs ds rest rest' : List Char} (hds : ',' ∉ ds)
    (hrest' : ',' ∉ rest') (h : cs ++ ',' :: rest = ds ++ ',' :: rest') : rest = rest' := by
  have hcount := congrArg (List.count ',') h
  rw [List.count_append, List.count_append, List.count_cons_self, List.count_cons_self,
    List.count_eq_zero_of_not_mem hds, List.count_eq_zero_of_not_mem hrest'] at hcount
  have hcs : ',' ∉ cs := List.count_eq_zero.mp (by omega)
  exact (Text.append_cons_inj hcs hds h).2

theorem Reason.found_of_message {r : Reason} {expected found : String}
    (h : r.message = "expected " ++ expected ++ ", got " ++ found) :
    ∃ e k, r = .unexpected e k ∧ found = k.phrase := by
  have hinitial : some 'e' = some r.initial := by
    rw [← r.head?_message, h]
    exact (head?_append (head?_append (head?_append rfl _) _) _).symm
  have hchars : r.message.toList =
      ("expected ".toList ++ expected.toList) ++ ',' :: (" got ".toList ++ found.toList) := by
    rw [h, String.toList_append, String.toList_append, String.toList_append, List.append_assoc]
    rfl
  -- the comma tells this message from the one about groups, and what was found begins behind it
  cases r with
  | unexpected e k =>
    refine ⟨e, k, rfl, ?_⟩
    have hmessage : (Reason.unexpected e k).message.toList =
        ("expected ".toList ++ e.phrase.toList) ++ ',' :: (" got ".toList ++ k.phrase.toList) := by
      rw [message, String.toList_append, String.toList_append, String.toList_append,
        List.append_assoc]
      rfl
    have he : ',' ∉ "expected ".toList ++ e.phrase.toList := by cases e <;> decide
    have hk : ',' ∉ " got ".toList ++ k.phrase.toList := by cases k <;> decide
    have hgot := append_comma_inj he hk (hchars.symm.trans hmessage)
    exact String.toList_injective (List.append_cancel_left hgot)
  | notAQuery =>
    have hcomma : ',' ∈ Reason.notAQuery.message.toList :=
      hchars ▸ List.mem_append_right _ List.mem_cons_self
    exact absurd hcomma (by decide)
  | timestamp fault => cases fault <;> cases hinitial
  | undecodable e => cases e <;> cases hinitial
  | _ => cases hinitial

/-- What a message says of a value is so. The place in it is a text that leads into the value. If a
value is missing there, the object around the place is there and has nothing under the last key.
Otherwise the place is there, and what the message found is the kind of the value at that place. An
object of an unknown variant is there, and its tag is missing or none of the family. -/
def Pinpoints (v : Json) : ReadError → Prop
  | .malformed p r =>
    ∃ q, Path.ofText? p.text = some q ∧
      (r.message = "missing value" → ∃ front key, ∃ o : Object, q = front ++ [.key key] ∧
        v.at? front = some (.object o) ∧ o.Lacks key) ∧
      (r.message ≠ "missing value" → ∃ w, v.at? q = some w ∧ ∀ expected found,
        r.message = "expected " ++ expected ++ ", got " ++ found → found = w.kind.phrase)
  | .unknownVariant family tag p =>
    ∃ q, ∃ o : Object, Path.ofText? p.text = some q ∧ v.at? q = some (.object o) ∧
      match tag with
      | none => o.Lacks "type"
      | some t => o.lookup "type" = some (.string t) ∧ t ∉ family.tags
  | .violation _ => True

theorem Locates.pinpoints {v : Json} {e : ReadError} (h : Locates v e) : Pinpoints v e := by
  cases h with
  | @missing p key o hplain hat hlacks =>
    exact ⟨_, Path.ofText?_text hplain, fun _ ↦ ⟨p, key, o, rfl, hat, hlacks⟩,
      fun hr ↦ absurd rfl hr⟩
  | @unfit p r w hplain hat hr hkind =>
    refine ⟨p, Path.ofText?_text hplain, fun h ↦ absurd (Reason.message_eq_missing_iff.mp h) hr,
      fun _ ↦ ⟨w, hat, fun expected found hfound ↦ ?_⟩⟩
    obtain ⟨e, k, he, hk⟩ := Reason.found_of_message hfound
    rw [hk, hkind e k he]
  | @untagged p family o hplain hat hlacks => exact ⟨p, o, Path.ofText?_text hplain, hat, hlacks⟩
  | @unknownTag p family tag o hplain hat htype htag =>
    exact ⟨p, o, Path.ofText?_text hplain, hat, htype, htag⟩
  | violation cause => trivial

/-- **Errors point at what is wrong.** Whatever document is read, as a filter, a facet, a criterion,
a query or a query of a named index, and whatever the defaults: if it is refused, the message
pinpoints the fault in the document. -/
theorem errors_pinpoint (v : Json) :
    (∀ e, Filter.ofPayload v = .error e → Pinpoints v e) ∧
      (∀ e, Facet.ofPayload v = .error e → Pinpoints v e) ∧
      (∀ e, SortCriterion.ofPayload v = .error e → Pinpoints v e) ∧
      (∀ d e, Query.Builder.ofPayload d v = .error e → Pinpoints v e) ∧
      ∀ d e, SelectQuery.Builder.ofPayload d v = .error e → Pinpoints v e :=
  ⟨fun e he ↦ (blames_filter v e he).pinpoints, fun e he ↦ (blames_facet v e he).pinpoints,
    fun e he ↦ (blames_sort v e he).pinpoints, fun d e he ↦ (blames_query d v e he).pinpoints,
    fun d e he ↦ (blames_selectQuery d v e he).pinpoints⟩

/-- A query whose first filter has an operand of an unknown kind. -/
theorem errors_pinpoint_operand :
    let v : Json := .object [("filter", .array [.object [("type", .string "and"),
      ("filters", .array [.object [("type", .string "unknown")]])]])]
    let e : ReadError := .unknownVariant .filter (some "unknown")
      [.key "filter", .index 0, .key "filters", .index 0]
    Query.Builder.ofPayload {} v = .error e ∧
      e.message = "Unknown filter type 'unknown' at 'filter[0].filters[0]'" ∧ Pinpoints v e := by
  intro v e
  have hread : Query.Builder.ofPayload {} v = .error e := rfl
  exact ⟨hread, by decide, (errors_pinpoint v).2.2.2.1 {} e hread⟩

end FacetedSearch.Payload

import FacetedSearch.Proofs.Payload.Compositional
import FacetedSearch.Proofs.Query.Batches
import FacetedSearch.Proofs.Request.Shape
import FacetedSearch.Proofs.Text.Integers

/-!
# The numbers of a page

A page is given by the number of results to skip and the number of results to return. Both are
numbers of JSON or texts in a payload, signed words in the edits of a builder, unsigned words in a
query and digits in a request. `PageNumber.Arrives` follows one of them all the way, for every JSON
value: what is not an integer of 64 bits is malformed, what is negative is refused, and everything
else arrives as it is.

Both numbers are treated alike, so `PageNumber` lists what differs between them, and the rest is
said once.
-/

namespace FacetedSearch

open Json

/-- The integers that a value stands for: a number without fraction, or a text that spells one. -/
inductive Json.IntegerOf : Json → Int → Prop
  | number {n : Int} (fits : FitsWord n) : IntegerOf (.number (.int n fits)) n
  | text {s : String} {n : Int} (h : Text.SpellsPadded s.toList n) : IntegerOf (.string s) n

namespace Payload

variable {v : Json} {n : Int} {i : Int64}

/-! ## Signed words -/

theorem int64?_eq_some_iff : int64? n = some i ↔ i.toInt = n := by
  rw [int64?]
  constructor
  · intro h
    split at h
    · next hn =>
      cases h
      exact Int64.toInt_ofInt_of_le hn.1 (Int.lt_add_one_of_le hn.2)
    · cases h
  · rintro rfl
    rw [if_pos ⟨i.minValue_le_toInt, i.toInt_le⟩, Int64.ofInt_toInt]

theorem readInteger_eq_ok_iff : readInteger v = .ok i ↔ IntegerOf v i.toInt := by
  constructor
  · intro h
    rw [readInteger.eq_def] at h
    split at h
    · next n fits =>
      split at h
      · next hi =>
        cases h
        exact int64?_eq_some_iff.mp hi ▸ .number fits
      · cases h
    · next s =>
      split at h
      · next hi =>
        cases h
        obtain ⟨n, hn, hi⟩ := Option.bind_eq_some_iff.mp hi
        exact int64?_eq_some_iff.mp hi ▸ .text (Text.readInt?_trimChars_eq_some_iff.mp hn)
      · cases h
    · cases h
  · intro h
    -- `IntegerOf` is inverted at a variable, for its index is a term
    generalize hn : i.toInt = n at h
    have hi := int64?_eq_some_iff.mpr hn
    cases h with
    | number fits => rw [readInteger, hi]
    | text h => rw [readInteger, Text.readInt?_trimChars_eq_some_iff.mpr h, Option.bind_some, hi]

theorem readInteger_eq_error (h : ∀ i : Int64, ¬ IntegerOf v i.toInt) :
    readInteger v = .error (unexpected .integer v) := by
  cases hread : readInteger v with
  | ok i => exact absurd (readInteger_eq_ok_iff.mp hread) (h i)
  | error e =>
    rw [readInteger.eq_def] at hread
    split at hread
    · split at hread
      · cases hread
      · exact hread.symm
    · split at hread
      · cases hread
      · exact hread.symm
    · exact hread.symm

end Payload

open Payload

/-- One of the two numbers of a page. -/
inductive PageNumber where
  | offset
  | limit
deriving DecidableEq

namespace PageNumber

/-- The key of the number in payloads. -/
def key : PageNumber → String
  | offset => "offset"
  | limit => "limit"

/-- The parameter of requests that has the number. -/
def param : PageNumber → String
  | offset => "start"
  | limit => "rows"

/-- The edit that sets the number. -/
def edit : PageNumber → Int64 → Query.Edit
  | offset => .offset
  | limit => .limit

/-- Why a negative number is refused. -/
def refusal : PageNumber → Int → Violation
  | offset => .negativeOffset
  | limit => .negativeLimit

/-- The number of a query. -/
def get : PageNumber → Query → UInt64
  | offset, q => q.offset
  | limit, q => q.limit

/-- The query with another number. -/
def put : PageNumber → UInt64 → Query → Query
  | offset, n, q => { q with offset := n }
  | limit, n, q => { q with limit := n }

@[simp] theorem get_put (p : PageNumber) (n : UInt64) (q : Query) : p.get (p.put n q) = n := by
  cases p <;> rfl

variable {p : PageNumber} {b : Query.Builder} {i : Int64} {x : Json}

/-! ## From the payload to the builder -/

theorem apply_edit_of_nonneg (h : ¬ i < 0) :
    b.apply (p.edit i) = .ok { b with draft := p.put i.toUInt64 b.draft } := by
  cases p with
  | offset => exact Query.Builder.setOffset_eq_ok_iff.mpr ⟨h, rfl⟩
  | limit => exact Query.Builder.setLimit_eq_ok_iff.mpr ⟨h, rfl⟩

theorem apply_edit_of_neg (h : i < 0) : b.apply (p.edit i) = .error (p.refusal i.toInt) := by
  cases p with
  | offset => exact if_pos h
  | limit => exact if_pos h

section Alone

variable (p : PageNumber) (x : Json)

theorem value?_of_ne {key : String} (h : key ≠ p.key) : Object.value? [(p.key, x)] key = none :=
  Object.value?_cons_of_ne x [] h

theorem readPage_alone (b : Query.Builder) : readPage [(p.key, x)] b =
    editOf [(p.key, x)] p.key readInteger p.edit b := by
  rw [readPage, editOf_eq_self (value?_of_ne p x (by cases p <;> decide)), ok_bind,
    editOf_eq_self (value?_of_ne p x (by cases p <;> decide)), ok_bind]
  cases p with
  | offset =>
    simp only [editOf_eq_self (value?_of_ne offset x (by decide : "limit" ≠ offset.key))]
    exact bind_pure _
  | limit => rw [editOf_eq_self (value?_of_ne limit x (by decide)), ok_bind, key, edit]

/-- Absent lists are empty, and empty ones change nothing. -/
theorem readLists_alone (b : Query.Builder) : readLists [(p.key, x)] b = .ok b := by
  rw [readLists, listOf_eq_nil (value?_of_ne p x (by cases p <;> decide)),
    listOf_eq_nil (value?_of_ne p x (by cases p <;> decide)),
    listOf_eq_nil (value?_of_ne p x (by cases p <;> decide))]
  simp only [ok_bind, Query.Builder.divides_sort.apply_nil,
    Query.Builder.divides_filter.apply_nil, Query.Builder.divides_facet.apply_nil, checked_ok]

theorem readSettings_alone (b : Query.Builder) : readSettings [(p.key, x)] b = .ok b := by
  have hother : ∀ key ∈ settingKeys, key ≠ p.key := by cases p <;> decide
  exact readSettings_eq_self (fun key hkey ↦ value?_of_ne p x (hother key hkey)) b

theorem ofPayload_eq_editOf (d : Query.Defaults) :
    Query.Builder.ofPayload d (.object [(p.key, x)]) =
      editOf [(p.key, x)] p.key readInteger p.edit (.new d) := by
  rw [Query.Builder.ofPayload, readObject, readEdits_eq, readPage_alone]
  simp only [readLists_alone, readSettings_alone, ok_bind]
  exact bind_pure _

end Alone

theorem editOf_eq_bind {α : Type} {o : Object} {key : String} {v : Json}
    (hv : o.value? key = some v) (read : Json → Reading α) (edit : α → Query.Edit)
    (b : Query.Builder) :
    editOf o key read edit b =
      within (.key key) (read v) >>= fun a ↦ checked (b.apply (edit a)) := by
  rw [editOf, Payload.optional, hv]
  dsimp only
  cases read v <;> rfl

/-! ## From the query to the request -/

theorem values_eq_singleton {r : Request} {name value : String} (hcount : r.names.count name = 1)
    (hmem : (name, value) ∈ r.params) : r.values name = [value] := by
  have hlength : (r.params.filter fun e ↦ e.1 == name).length = 1 := by
    rw [← List.countP_eq_length_filter, ← hcount, Request.names, List.count, List.countP_map]
    rfl
  obtain ⟨e, he⟩ := List.length_eq_one_iff.mp hlength
  have hvalue : (name, value) ∈ r.params.filter fun e ↦ e.1 == name :=
    List.mem_filter.mpr ⟨hmem, beq_self_eq_true name⟩
  rw [he, List.mem_singleton] at hvalue
  rw [Request.values, he, ← hvalue, List.map_singleton]

/-- Every request has the number once, in decimal. -/
theorem values_param {q : Query} {index : String} {backend : Backend} {r : Request}
    (h : q.requestFor index backend = .ok r) (p : PageNumber) :
    r.values p.param = [toString (p.get q)] := by
  refine values_eq_singleton (Query.count_names_eq_one h (by cases p <;> decide)) ?_
  obtain ⟨filters, sort, facets, -, -, -, rfl⟩ := Query.requestFor_eq_ok_iff.mp h
  have hbasic : (p.param, toString (p.get q)) ∈ q.basicParams backend := by
    cases p <;> simp [param, get, Query.basicParams]
  simp only [List.mem_append]
  simp [hbasic]

theorem exists_request (p : PageNumber) (n : UInt64) (d : Query.Defaults) (backend : Backend) :
    ∃ r, (p.put n (Query.Builder.new d).draft).request backend = .ok r := by
  cases p <;>
  exact ⟨_, Query.requestFor_eq_ok_iff.mpr ⟨_, _, _, rfl, rfl, rfl, rfl⟩⟩

/-! ## All the way -/

theorem ofPayload_eq_bind (p : PageNumber) (d : Query.Defaults) (hx : x ≠ .null) :
    Query.Builder.ofPayload d (.object [(p.key, x)]) =
      within (.key p.key) (readInteger x) >>= fun i ↦
        checked ((Query.Builder.new d).apply (p.edit i)) := by
  have hvalue : Object.value? [(p.key, x)] p.key = some x :=
    Object.value?_eq_some_iff.mpr ⟨List.lookup_cons_self, hx⟩
  rw [ofPayload_eq_editOf, editOf_eq_bind hvalue]

theorem ne_null_of_integerOf {n : Int} (h : IntegerOf x n) : x ≠ .null := by
  rintro rfl
  cases h

theorem ofPayload_of_nonneg (p : PageNumber) (d : Query.Defaults) (hx : IntegerOf x i.toInt)
    (hi : ¬ i < 0) : Query.Builder.ofPayload d (.object [(p.key, x)]) =
      .ok { Query.Builder.new d with draft := p.put i.toUInt64 (Query.Builder.new d).draft } := by
  rw [ofPayload_eq_bind p d (ne_null_of_integerOf hx), readInteger_eq_ok_iff.mpr hx, within_ok,
    ok_bind, apply_edit_of_nonneg hi, checked_ok]

theorem ofPayload_of_neg (p : PageNumber) (d : Query.Defaults) (hx : IntegerOf x i.toInt)
    (hi : i < 0) : Query.Builder.ofPayload d (.object [(p.key, x)]) =
      .error (.violation (p.refusal i.toInt)) := by
  rw [ofPayload_eq_bind p d (ne_null_of_integerOf hx), readInteger_eq_ok_iff.mpr hx, within_ok,
    ok_bind, apply_edit_of_neg hi, checked_error]

theorem exists_toInt_eq {n : Int} (hlow : -9223372036854775808 ≤ n)
    (hhigh : n ≤ 9223372036854775807) : ∃ i : Int64, i.toInt = n :=
  ⟨.ofInt n, Int64.toInt_ofInt_of_le hlow (Int.lt_add_one_of_le hhigh)⟩

/-- A number that is not negative is the same as a signed word, as an unsigned one and as digits. -/
theorem exists_word_eq {n : Nat} (hn : n ≤ 9223372036854775807) :
    ∃ i : Int64, i.toInt = n ∧ ¬ i < 0 ∧ i.toUInt64.toNat = n ∧
      toString i.toUInt64 = toString n := by
  obtain ⟨i, hi⟩ := exists_toInt_eq (n := n) (by omega) (by omega)
  have hnonneg : ¬ i < 0 := by
    rw [Int64.lt_iff_toInt_lt, hi]
    exact not_lt.mpr (Int.natCast_nonneg n)
  have hnat : i.toUInt64.toNat = n := by
    rw [Int64.toNat_toUInt64_of_le (Int64.not_lt.mp hnonneg), Int64.toNatClampNeg, hi,
      Int.toNat_natCast]
  exact ⟨i, hi, hnonneg, hnat, congrArg toString hnat⟩

/-- What becomes of a number of a page, for a payload that has nothing else. -/
structure Arrives (p : PageNumber) (d : Query.Defaults) (x : Json) : Prop where
  /-- Without a value the default stays. -/
  absent : x = .null → Query.Builder.ofPayload d (.object [(p.key, x)]) = .ok (.new d)
  /-- A signed word that is not negative is the number of the query, of which nothing else is
  changed, and its digits are sent. -/
  accepted : ∀ n : Nat, IntegerOf x n → n ≤ 9223372036854775807 → ∃ b q,
    Query.Builder.ofPayload d (.object [(p.key, x)]) = .ok b ∧ b.build = .ok q ∧
      (p.get q).toNat = n ∧ q = p.put (p.get q) (Query.Builder.new d).draft ∧
      ∀ backend, ∃ r, q.request backend = .ok r ∧ r.values p.param = [toString n] ∧
        Text.IsDecimal (toString n).toList n
  /-- A negative one is refused with its value. -/
  negative : ∀ n : Int, IntegerOf x n → -9223372036854775808 ≤ n → n < 0 →
    Query.Builder.ofPayload d (.object [(p.key, x)]) = .error (.violation (p.refusal n))
  /-- Anything that is no signed word is malformed, and its key is the place. -/
  refused : x ≠ .null →
    (∀ n, IntegerOf x n → n < -9223372036854775808 ∨ 9223372036854775807 < n) →
    Query.Builder.ofPayload d (.object [(p.key, x)]) =
      .error (.malformed [.key p.key] (.unexpected .integer x.kind))

/-- **Numbers of pages at their limits.** Offset and limit arrive as they are given if they are
signed words and not negative, in whatever way a payload spells them. -/
theorem arrives (d : Query.Defaults) (x : Json) : offset.Arrives d x ∧ limit.Arrives d x := by
  have hboth (p : PageNumber) : p.Arrives d x := by
    constructor
    case absent =>
      rintro rfl
      rw [ofPayload_eq_editOf, editOf_eq_self (Object.value?_cons_self p.key [])]
    case accepted =>
      intro n hx hn
      -- a signed word that is not negative has the same numeral as the word that is stored
      obtain ⟨i, hi, hnonneg, hnat, htext⟩ := exists_word_eq hn
      refine ⟨_, p.put i.toUInt64 (Query.Builder.new d).draft,
        p.ofPayload_of_nonneg d (hi ▸ hx) hnonneg, ?_, ?_, ?_, fun backend ↦ ?_⟩
      · cases p <;> rfl
      · rw [get_put, hnat]
      · rw [get_put]
      · obtain ⟨r, hr⟩ := p.exists_request i.toUInt64 d backend
        refine ⟨r, hr, ?_, Text.toList_toString n ▸ Text.isDecimal_numeral n⟩
        rw [values_param hr p, get_put, htext]
    case negative =>
      intro n hx hlow hneg
      obtain ⟨i, rfl⟩ := exists_toInt_eq hlow (by omega)
      exact p.ofPayload_of_neg d hx (Int64.lt_iff_toInt_lt.mpr hneg)
    case refused =>
      intro hx hbounds
      have herror := readInteger_eq_error fun i hi ↦ by
        have hlow := i.le_toInt
        have hhigh := i.toInt_lt
        have hi := hbounds _ hi
        omega
      rw [ofPayload_eq_bind p d hx, herror]
      rfl
  exact ⟨hboth offset, hboth limit⟩

/-- The greatest signed word is let through, without its padding, and the next integer is not. -/
theorem arrives_at_bounds :
    let payload (key : String) (x : Json) : Json := .object [(key, x)]
    (∃ b q, Query.Builder.ofPayload {} (payload "limit" (.string " +09223372036854775807\n")) =
        .ok b ∧ b.build = .ok q ∧ q.limit.toNat = 9223372036854775807 ∧
      ∃ r, q.request {} = .ok r ∧ r.values "rows" = ["9223372036854775807"]) ∧
    Query.Builder.ofPayload {} (payload "offset" (.string "-01")) =
      .error (.violation (.negativeOffset (-1))) ∧
    Query.Builder.ofPayload {}
        (payload "offset" (.number (.int 9223372036854775808 (by decide)))) =
      .error (.malformed [.key "offset"] (.unexpected .integer .number)) := by
  intro payload
  have hgreatest : IntegerOf (.string " +09223372036854775807\n") (9223372036854775807 : Nat) :=
    .text (Text.readInt?_trimChars_eq_some_iff.mp (by decide))
  have hnegative : IntegerOf (.string "-01") (-1) :=
    .text (Text.readInt?_trimChars_eq_some_iff.mp (by decide))
  obtain ⟨b, q, hb, hq, hlimit, -, hsent⟩ := (arrives {} _).2.accepted _ hgreatest (by decide)
  obtain ⟨r, hr, hrows, -⟩ := hsent {}
  refine ⟨⟨b, q, hb, hq, hlimit, r, hr, hrows⟩,
    (arrives {} _).1.negative _ hnegative (by decide) (by decide),
    (arrives {} _).1.refused (by simp) ?_⟩
  rintro n ⟨⟩
  exact .inr (by decide)

end PageNumber

end FacetedSearch

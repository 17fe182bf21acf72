import FacetedSearch.Proofs.Payload.Blame
import FacetedSearch.Proofs.Steps

/-!
# What readers accept

A reader that succeeds has found what it asks for, and one that finds it succeeds. Here both
directions are said at once, for single values and for the ways in which an object is asked for its
keys. The values are described by relations between JSON values and what they stand for, such as
`TermOf`; the rules for lists and keys turn a description of the values into one of the whole.

None of this depends on whether a payload was written by the library. A payload by another hand may
say the same in several ways: a truth value as a word, a term as a number, a missing key as `null`.
-/

namespace FacetedSearch

namespace Json

/-! ## What values stand for -/

/-- A text stands for itself. -/
def TextOf (v : Json) (s : String) : Prop := v = .string s

/-- A term is a text, or a number, which stands for its numeral. -/
def TermOf (v : Json) (s : String) : Prop :=
  v = .string s ∨ ∃ n : Number, v = .number n ∧ n.text = s

/-- A truth value, or its name. -/
def TruthOf (v : Json) (b : Bool) : Prop :=
  v = .bool b ∨ v = .string (if b = true then "true" else "false")

/-- A text that is a timestamp. -/
def InstantOf (v : Json) (t : Instant) : Prop := ∃ s, v = .string s ∧ Rfc3339.read s = .ok t

/-- A text that is a period. -/
def PeriodOf (v : Json) (p : Period) : Prop := ∃ s, v = .string s ∧ Period.parse s = .ok p

namespace Object

/-- What an object gives for a key that may be left out. -/
def Gives {α : Type} (o : Object) (key : String) (R : Json → α → Prop) : Option α → Prop
  | none => o.Lacks key
  | some a => ∃ v, o.lookup key = some v ∧ R v a

end Object

end Json

namespace Payload

open Json

variable {α β : Type}

/-! ## Results -/

theorem within_eq_ok_iff {s : Step} {r : Reading α} {a : α} : within s r = .ok a ↔ r = .ok a :=
  mapError_eq_ok_iff

theorem checked_eq_ok_iff {r : Except Violation α} {a : α} : checked r = .ok a ↔ r = .ok a :=
  mapError_eq_ok_iff

theorem map_eq_ok_iff {f : α → β} {r : Reading α} {b : β} :
    f <$> r = .ok b ↔ ∃ a, r = .ok a ∧ f a = b := by
  cases r <;> simp [Functor.map, Except.map]

theorem pure_eq_ok_iff {a b : α} : (pure a : Reading α) = .ok b ↔ a = b := by
  simp [pure, Except.pure]

/-! ## Values -/

section Values

variable {v : Json}

theorem readText_eq_ok_iff {s : String} : readText v = .ok s ↔ TextOf v s := by
  cases v <;> simp [readText, TextOf]

theorem readTerm_eq_ok_iff {s : String} : readTerm v = .ok s ↔ TermOf v s := by
  cases v <;> simp [readTerm, TermOf]

theorem readBool_eq_ok_iff {b : Bool} : readBool v = .ok b ↔ TruthOf v b := by
  cases v with
  | string s =>
    have hwords : "true" ≠ "false" := by decide
    rw [readBool, TruthOf]
    split
    · next hs => cases b <;> simp [hs, hwords]
    · split
      · next hs => cases b <;> simp [hs, hwords.symm]
      · next htrue hfalse => cases b <;> simp [htrue, hfalse]
  | bool c => simp [readBool, TruthOf]
  | _ => simp [readBool, TruthOf]

theorem readInstant_eq_ok_iff {t : Instant} : readInstant v = .ok t ↔ InstantOf v t := by
  rw [readInstant, bind_eq_ok_iff]
  simp only [readText_eq_ok_iff, mapError_eq_ok_iff]
  rfl

theorem readPeriod_eq_ok_iff {p : Period} : readPeriod v = .ok p ↔ PeriodOf v p := by
  rw [readPeriod, bind_eq_ok_iff]
  simp only [readText_eq_ok_iff, mapError_eq_ok_iff]
  rfl

end Values

/-! ## Lists -/

section Lists

variable {read : Json → Reading α} {R : Json → α → Prop}

theorem readItems_eq_ok_iff (h : ∀ v a, read v = .ok a ↔ R v a) {i : Nat} {vs : List Json}
    {as : List α} : readItems read i vs = .ok as ↔ List.Forall₂ R vs as := by
  induction vs generalizing i as with
  | nil => simp [readItems, eq_comm]
  | cons v vs ih =>
    rw [readItems, bind_eq_ok_iff, List.forall₂_cons_left_iff]
    simp only [within_eq_ok_iff, bind_eq_ok_iff, pure_eq_ok_iff, ih, h]
    refine exists_congr fun a ↦ ?_
    constructor
    · rintro ⟨ha, as', has', rfl⟩
      exact ⟨as', ha, has', rfl⟩
    · rintro ⟨as', ha, has', rfl⟩
      exact ⟨ha, as', has', rfl⟩

theorem readList_eq_ok_iff (h : ∀ v a, read v = .ok a ↔ R v a) {v : Json} {as : List α} :
    readList read v = .ok as ↔ ∃ items, v = .array items ∧ List.Forall₂ R items as := by
  cases v with
  | array items => simp [readList, readItems_eq_ok_iff h]
  | _ => simp [readList]

end Lists

/-! ## Keys -/

section Keys

variable {o : Object} {key : String} {read : Json → Reading α} {R : Json → α → Prop}

theorem required_eq_ok_iff (h : ∀ v a, read v = .ok a ↔ R v a) (hnull : ∀ a, ¬ R .null a) {a : α} :
    required o key read = .ok a ↔ ∃ v, o.lookup key = some v ∧ R v a := by
  rw [required]
  cases hv : o.value? key with
  | none =>
    constructor
    · rintro ⟨⟩
    · rintro ⟨v, hlookup, hva⟩
      have hne : v ≠ .null := by
        rintro rfl
        exact hnull a hva
      rw [Object.value?_eq_some_iff.mpr ⟨hlookup, hne⟩] at hv
      cases hv
  | some w =>
    simp only [within_eq_ok_iff, h, Object.lookup_of_value? hv, Option.some.injEq, exists_eq_left']

theorem required_list_eq_ok_iff (h : ∀ v a, read v = .ok a ↔ R v a) {as : List α} :
    required o key (readList read) = .ok as ↔
      ∃ items, o.lookup key = some (.array items) ∧ List.Forall₂ R items as := by
  rw [required_eq_ok_iff (fun _ _ ↦ readList_eq_ok_iff h) (by simp)]
  constructor
  · rintro ⟨_, hlookup, items, rfl, hitems⟩
    exact ⟨items, hlookup, hitems⟩
  · rintro ⟨items, hlookup, hitems⟩
    exact ⟨_, hlookup, items, rfl, hitems⟩

theorem optional_eq_ok_iff (h : ∀ v a, read v = .ok a ↔ R v a) (hnull : ∀ a, ¬ R .null a)
    {x : Option α} : optional o key read = .ok x ↔ o.Gives key R x := by
  rw [optional]
  cases hv : o.value? key with
  | none =>
    have hlacks := Object.value?_eq_none_iff.mp hv
    cases x with
    | none => simpa [Object.Gives] using hlacks
    | some a =>
      -- the key is absent or has a `null`, from which nothing is read
      constructor
      · rintro ⟨⟩
      · rintro ⟨v, hlookup, hva⟩
        rcases hlacks with hnone | hsome
        · rw [hnone] at hlookup
          cases hlookup
        · rw [hsome, Option.some.injEq] at hlookup
          exact absurd (hlookup ▸ hva) (hnull a)
  | some w =>
    obtain ⟨hlookup, hne⟩ := Object.value?_eq_some_iff.mp hv
    simp only [map_eq_ok_iff, within_eq_ok_iff, h]
    cases x with
    | none => simp [Object.Gives, Object.Lacks, hlookup, hne]
    | some a => simp [Object.Gives, hlookup]

theorem optionalD_eq_ok_iff (h : ∀ v a, read v = .ok a ↔ R v a) (hnull : ∀ a, ¬ R .null a)
    {d a : α} : optionalD o key read d = .ok a ↔ ∃ x, o.Gives key R x ∧ x.getD d = a := by
  rw [optionalD, bind_eq_ok_iff]
  simp only [optional_eq_ok_iff h hnull, pure_eq_ok_iff]

theorem required_text_eq_ok_iff {s : String} :
    required o key readText = .ok s ↔ o.lookup key = some (.string s) := by
  rw [required_eq_ok_iff (fun _ _ ↦ readText_eq_ok_iff) (by simp [TextOf])]
  simp [TextOf]

theorem optional_text_eq_ok_iff {x : Option String} :
    optional o key readText = .ok x ↔ o.Gives key TextOf x :=
  optional_eq_ok_iff (fun _ _ ↦ readText_eq_ok_iff) (by simp [TextOf])

theorem optional_instant_eq_ok_iff {x : Option Instant} :
    optional o key readInstant = .ok x ↔ o.Gives key InstantOf x :=
  optional_eq_ok_iff (fun _ _ ↦ readInstant_eq_ok_iff) (by simp [InstantOf])

theorem optional_period_eq_ok_iff {x : Option Period} :
    optional o key readPeriod = .ok x ↔ o.Gives key PeriodOf x :=
  optional_eq_ok_iff (fun _ _ ↦ readPeriod_eq_ok_iff) (by simp [PeriodOf])

theorem readTag_eq_ok_iff [Vocabulary α] {family : Family} {a : α} :
    readTag family o = .ok a ↔ o.lookup "type" = some (.string (Vocabulary.word a)) := by
  rw [readTag]
  split
  · next hv => rcases Object.value?_eq_none_iff.mp hv with h | h <;> simp [h]
  · next w hv =>
    rw [Object.lookup_of_value? hv, Option.some.injEq, Json.string.injEq]
    constructor
    · intro h
      cases hw : (Vocabulary.ofWord? w : Option α) with
      | some b =>
        rw [hw] at h
        cases h
        exact (Vocabulary.word_of_ofWord? hw).symm
      | none =>
        rw [hw] at h
        cases h
    · rintro rfl
      rw [Vocabulary.ofWord?_word]
  · next v hne hv =>
    rw [Object.lookup_of_value? hv, Option.some.injEq]
    refine iff_of_false ?_ fun h ↦ hne _ h
    rintro ⟨⟩

end Keys

end Payload

end FacetedSearch

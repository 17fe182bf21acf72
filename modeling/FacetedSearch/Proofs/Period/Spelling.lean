import FacetedSearch.Period.Basic
import FacetedSearch.Proofs.Text.Runs

/-!
# Spellings of periods

A period can be spelled out in many ways. Each component that is written has a number in front of
its letter, zeros in front of the number add nothing, and a component that is not written is zero.
This module says which texts there are, without regard to how they are read. A `Spelling` holds the
components that are written, those of whole days and those behind the `T`, and the conditions under
which they make up the text of a period.

## One spelling for a text

A letter ends the digits in front of it, and on either side of the `T` no two components share a
letter. So the written components can be told from the text, and to speak of the components of a
text is justified (`Spelling.text_injective`).
-/

namespace FacetedSearch.Period

open scoped List

/-- A component as it is written: its digits, and the letter behind them. -/
structure Part where
  unit : Component
  digits : List Char
  isNumeral : Text.isNumeral digits = true
  fits : Text.numeralValue digits < UInt32.size
deriving DecidableEq

namespace Part

/-- The characters of a written component. -/
def chars (a : Part) : List Char := a.digits ++ [a.unit.designator]

/-- The number of a written component. -/
def value (a : Part) : UInt32 := .ofNat (Text.numeralValue a.digits)

/-- The number is not zero and has no zero in front. -/
def IsPlain (a : Part) : Prop :=
  Text.numeralValue a.digits ≠ 0 ∧ a.digits.head? ≠ some '0'

theorem toNat_value (a : Part) : a.value.toNat = Text.numeralValue a.digits :=
  UInt32.toNat_ofNat_of_lt' a.fits

theorem isDigit_of_mem {a : Part} : ∀ c ∈ a.digits, c.isDigit = true := by
  have h := a.isNumeral
  rw [Text.isNumeral, Bool.and_eq_true] at h
  exact List.all_eq_true.mp h.2

theorem digits_ne_nil (a : Part) : a.digits ≠ [] := by
  intro h
  have hnumeral := a.isNumeral
  rw [h] at hnumeral
  cases hnumeral

end Part

/-- How a period is spelled out: which components are written, and with which digits. -/
@[ext]
structure Spelling where
  /-- The written components of whole days. -/
  date : List Part
  /-- The written components of less than a day. They are announced by a `T`. -/
  time : List Part
  /-- The units come in their order, and none of them twice. -/
  date_sublist : date.map Part.unit <+ Component.ofDate
  time_sublist : time.map Part.unit <+ Component.ofTime
  ne_nil : date ++ time ≠ []

namespace Spelling

/-- All written components, in order. -/
def parts (w : Spelling) : List Part := w.date ++ w.time

/-- What is written for the components of less than a day. -/
def timeChars (time : List Part) : List Char :=
  if time.isEmpty then [] else 'T' :: time.flatMap Part.chars

/-- The characters of a spelling. -/
def chars (w : Spelling) : List Char := 'P' :: (w.date.flatMap Part.chars ++ timeChars w.time)

/-- The text of a spelling. -/
def text (w : Spelling) : String := String.ofList w.chars

end Spelling

/-! ## Values -/

/-- The period has the numbers of the written components, and otherwise zeros. -/
structure HasParts (p : Period) (parts : List Part) : Prop where
  get_unit : ∀ a ∈ parts, (p.get a.unit).toNat = Text.numeralValue a.digits
  get_absent : ∀ u, u ∉ parts.map Part.unit → p.get u = 0

namespace HasParts

variable {p q : Period} {parts : List Part} {a : Part}

theorem zero_nil : zero.HasParts [] := by
  refine ⟨fun a ha ↦ absurd ha List.not_mem_nil, fun u _ ↦ ?_⟩
  cases u <;> rfl

theorem get_eq_value (h : p.HasParts parts) (ha : a ∈ parts) : p.get a.unit = a.value := by
  rw [← UInt32.toNat_inj, a.toNat_value]
  exact h.get_unit a ha

theorem append_set (h : p.HasParts parts) (ha : a.unit ∉ parts.map Part.unit) :
    (p.set a.value a.unit).HasParts (parts ++ [a]) := by
  constructor
  · intro b hb
    rcases List.mem_append.mp hb with hb | hb
    · have hne : b.unit ≠ a.unit := by
        intro heq
        exact ha (heq ▸ List.mem_map_of_mem hb)
      rw [get_set_of_ne _ _ hne]
      exact h.get_unit b hb
    · rw [List.mem_singleton.mp hb, get_set_self, a.toNat_value]
  · intro u hu
    rw [List.map_append, List.mem_append, not_or, List.map_singleton, List.mem_singleton] at hu
    rw [get_set_of_ne _ _ hu.2]
    exact h.get_absent u hu.1

theorem eq (hp : p.HasParts parts) (hq : q.HasParts parts) : p = q := by
  refine ext_get fun u ↦ ?_
  by_cases hu : u ∈ parts.map Part.unit
  · obtain ⟨a, ha, rfl⟩ := List.mem_map.mp hu
    rw [hp.get_eq_value ha, hq.get_eq_value ha]
  · rw [hp.get_absent u hu, hq.get_absent u hu]

end HasParts

/-! ## Units in order -/

namespace Component

theorem designator_injective {u v : Component} (htime : u.isTime = v.isTime)
    (h : u.designator = v.designator) : u = v := by
  revert htime h
  cases u <;> cases v <;> decide

theorem isDigit_designator (u : Component) : u.designator.isDigit = false := by cases u <;> rfl

theorem designator_ne_T (u : Component) : u.designator ≠ 'T' := by cases u <;> decide

theorem mem_ofDate_iff {u : Component} : u ∈ ofDate ↔ u.isTime = false := by
  cases u <;> decide

theorem mem_ofTime_iff {u : Component} : u ∈ ofTime ↔ u.isTime = true := by
  cases u <;> decide

theorem rank_lt_of_isTime {u v : Component} (hu : u.isTime = false) (hv : v.isTime = true) :
    u.rank < v.rank := by
  revert hu hv
  cases u <;> cases v <;> decide

theorem pairwise_ofDate : ofDate.Pairwise fun u v ↦ u.rank < v.rank := by decide

theorem pairwise_ofTime : ofTime.Pairwise fun u v ↦ u.rank < v.rank := by decide

section Increasing

variable {us vs : List Component} (hus : us.Pairwise fun u v ↦ u.rank < v.rank)
  (hvs : vs.Pairwise fun u v ↦ u.rank < v.rank)

include hus hvs

/-- Units come in their order if their ranks increase. -/
theorem sublist_of_subset (h : us ⊆ vs) : us <+ vs := by
  have hnodup : us.Nodup := hus.imp fun hlt heq ↦ hlt.ne (congrArg rank heq)
  have : Std.Antisymm fun u v : Component ↦ u.rank < v.rank :=
    ⟨fun _ _ huv hvu ↦ absurd hvu huv.asymm⟩
  exact List.sublist_of_subperm_of_pairwise (List.subperm_of_subset hnodup h) hus hvs

theorem eq_of_mem_iff (h : ∀ u, u ∈ us ↔ u ∈ vs) : us = vs :=
  (sublist_of_subset hus hvs fun u hu ↦ (h u).mp hu).antisymm
    (sublist_of_subset hvs hus fun u hu ↦ (h u).mpr hu)

end Increasing

end Component

/-! ## Components read off the text -/

private theorem not_begins_T {a : Part} {cs rest : List Char}
    (hrest : ∀ c ∈ rest.head?, c = 'T') (h : rest = a.chars ++ cs) : False := by
  obtain ⟨d, ds, hds⟩ := List.exists_cons_of_ne_nil a.digits_ne_nil
  have hdigit : d.isDigit = true := Part.isDigit_of_mem d (hds ▸ List.mem_cons_self)
  rw [Part.chars, hds] at h
  rw [hrest d (by rw [h]; rfl)] at hdigit
  cases hdigit

/-- The written components of one side are told from each other and from what follows them. -/
theorem flatMap_chars_inj {as bs : List Part} {rest rest' : List Char}
    (htime : ∀ a ∈ as, ∀ b ∈ bs, a.unit.isTime = b.unit.isTime)
    (hrest : ∀ c ∈ rest.head?, c = 'T') (hrest' : ∀ c ∈ rest'.head?, c = 'T')
    (h : as.flatMap Part.chars ++ rest = bs.flatMap Part.chars ++ rest') :
    as = bs ∧ rest = rest' := by
  induction as generalizing bs with
  | nil =>
    rcases bs with _ | ⟨b, bs⟩
    · exact ⟨rfl, h⟩
    · rw [List.flatMap_cons, List.append_assoc] at h
      exact (not_begins_T hrest h).elim
  | cons a as ih =>
    rcases bs with _ | ⟨b, bs⟩
    · rw [List.flatMap_cons, List.append_assoc] at h
      exact (not_begins_T hrest' h.symm).elim
    · have hletter (u : Component) (cs : List Char) :
          ∀ c ∈ (u.designator :: cs).head?, c.isDigit = false := by
        rintro c ⟨⟩
        exact u.isDigit_designator
      -- the digits end at the letter, and the letter is that of one unit
      simp only [List.flatMap_cons, Part.chars, List.append_assoc, List.singleton_append] at h
      obtain ⟨hdigits, htail⟩ := Text.append_inj_of_run a.isDigit_of_mem b.isDigit_of_mem
        (hletter _ _) (hletter _ _) h
      obtain ⟨hunit, htail⟩ := List.cons.inj htail
      have hab : a = b := by
        have hunit := Component.designator_injective
          (htime a List.mem_cons_self b List.mem_cons_self) hunit
        obtain ⟨u, ds, _, _⟩ := a
        obtain ⟨v, es, _, _⟩ := b
        rw [Part.mk.injEq]
        exact ⟨hunit, hdigits⟩
      obtain ⟨rfl, hrest⟩ := ih
        (fun c hc d hd ↦ htime c (List.mem_cons_of_mem a hc) d (List.mem_cons_of_mem b hd)) htail
      exact ⟨congrArg (· :: as) hab, hrest⟩

namespace Spelling

theorem isTime_of_mem_date {w : Spelling} {a : Part} (ha : a ∈ w.date) : a.unit.isTime = false :=
  Component.mem_ofDate_iff.mp (w.date_sublist.subset (List.mem_map_of_mem ha))

theorem isTime_of_mem_time {w : Spelling} {a : Part} (ha : a ∈ w.time) : a.unit.isTime = true :=
  Component.mem_ofTime_iff.mp (w.time_sublist.subset (List.mem_map_of_mem ha))

/-- Those of whole days come first, so the ranks of all written units increase. -/
theorem increasing (w : Spelling) : (w.parts.map Part.unit).Pairwise fun u v ↦ u.rank < v.rank := by
  rw [parts, List.map_append, List.pairwise_append]
  refine ⟨Component.pairwise_ofDate.sublist w.date_sublist,
    Component.pairwise_ofTime.sublist w.time_sublist, fun u hu v hv ↦ ?_⟩
  exact Component.rank_lt_of_isTime (Component.mem_ofDate_iff.mp (w.date_sublist.subset hu))
    (Component.mem_ofTime_iff.mp (w.time_sublist.subset hv))

theorem timeChars_of_ne_nil {time : List Part} (h : time ≠ []) :
    timeChars time = 'T' :: time.flatMap Part.chars := by
  rw [timeChars, List.isEmpty_eq_false_iff.mpr h, if_neg Bool.false_ne_true]

theorem head?_timeChars (time : List Part) : ∀ c ∈ (timeChars time).head?, c = 'T' := by
  intro c hc
  rcases time with _ | ⟨a, time⟩
  · cases hc
  · exact (Option.some.inj hc).symm

theorem timeChars_inj {time time' : List Part}
    (htime : ∀ a ∈ time, ∀ b ∈ time', a.unit.isTime = b.unit.isTime)
    (h : timeChars time = timeChars time') : time = time' := by
  rcases time with _ | ⟨a, time⟩ <;> rcases time' with _ | ⟨b, time'⟩
  · rfl
  · cases h
  · cases h
  · have hnil : ∀ c ∈ ([] : List Char).head?, c = 'T' := fun c hc ↦ absurd hc (by simp)
    exact (flatMap_chars_inj htime hnil hnil (congrArg (· ++ []) (List.cons.inj h).2)).1

/-- **A text has one spelling.** -/
theorem text_injective : Function.Injective text := by
  intro w w' h
  have hchars : w.chars = w'.chars := String.ofList_injective h
  obtain ⟨hdate, htime⟩ := flatMap_chars_inj
    (fun a ha b hb ↦ (isTime_of_mem_date ha).trans (isTime_of_mem_date hb).symm)
    (head?_timeChars w.time) (head?_timeChars w'.time) (List.cons.inj hchars).2
  have htime := timeChars_inj
    (fun a ha b hb ↦ (isTime_of_mem_time ha).trans (isTime_of_mem_time hb).symm) htime
  exact Spelling.ext hdate htime

end Spelling

end FacetedSearch.Period

import Mathlib.Tactic

/-!
# Steps that succeed

Most functions of the library are sequences of steps of which each may fail. What follows from the
success of a sequence is found by taking it apart, and these are the rules for doing so: one for two
steps after each other, one for the same step on every member of a list. A sequence fails as its
first step that does; for a list this is the fault of the first member that has one, `FirstFault`.
-/

namespace FacetedSearch

variable {ε α β : Type}

theorem bind_eq_ok_iff {x : Except ε α} {k : α → Except ε β} {b : β} :
    (x >>= k) = .ok b ↔ ∃ a, x = .ok a ∧ k a = .ok b := by
  cases x with
  | error e => simp [bind, Except.bind]
  | ok a => simp [bind, Except.bind]

theorem bind_eq_error_iff {x : Except ε α} {k : α → Except ε β} {e : ε} :
    (x >>= k) = .error e ↔ x = .error e ∨ ∃ a, x = .ok a ∧ k a = .error e := by
  cases x with
  | error e' => simp [bind, Except.bind]
  | ok a => simp [bind, Except.bind]

/-- A traversal succeeds if every step does, and then has the results of the steps. -/
theorem mapM_eq_ok_iff {f : α → Except ε β} {as : List α} {bs : List β} :
    as.mapM f = .ok bs ↔ List.Forall₂ (fun a b ↦ f a = .ok b) as bs := by
  induction as generalizing bs with
  | nil => simp [pure, Except.pure, eq_comm]
  | cons a as ih =>
    rw [List.mapM_cons, bind_eq_ok_iff, List.forall₂_cons_left_iff]
    refine exists_congr fun b ↦ ?_
    rw [bind_eq_ok_iff]
    constructor
    · rintro ⟨ha, bs', hbs', h⟩
      cases h
      exact ⟨bs', ha, ih.mp hbs', rfl⟩
    · rintro ⟨bs', ha, hbs', rfl⟩
      exact ⟨ha, bs', ih.mpr hbs', rfl⟩

theorem exists_forall₂_iff {R : α → β → Prop} {as : List α} :
    (∃ bs, List.Forall₂ R as bs) ↔ ∀ a ∈ as, ∃ b, R a b := by
  induction as with
  | nil => simp
  | cons a as ih =>
    rw [List.forall_mem_cons, ← ih]
    constructor
    · rintro ⟨_, _ | ⟨hb, hbs⟩⟩
      exact ⟨⟨_, hb⟩, _, hbs⟩
    · rintro ⟨⟨b, hb⟩, bs, hbs⟩
      exact ⟨b :: bs, .cons hb hbs⟩

/-- The fault of the first member that has one. -/
def FirstFault (as : List α) (fault : α → ε → Prop) (e : ε) : Prop :=
  ∃ (i : Nat) (a : α), as[i]? = some a ∧ fault a e ∧
    ∀ j < i, ∀ b, as[j]? = some b → ∀ d, ¬ fault b d

@[simp] theorem firstFault_nil {fault : α → ε → Prop} {e : ε} : ¬ FirstFault [] fault e := by
  rintro ⟨i, a, ⟨⟩, -⟩

theorem firstFault_cons {as : List α} {a : α} {fault : α → ε → Prop} {e : ε} :
    FirstFault (a :: as) fault e ↔ fault a e ∨ (∀ d, ¬ fault a d) ∧ FirstFault as fault e := by
  constructor
  · rintro ⟨i, b, hb, he, hfirst⟩
    rcases i with _ | i
    · exact .inl (Option.some.inj hb ▸ he)
    · exact .inr ⟨hfirst 0 i.succ_pos a rfl, i, b, hb, he, fun j hj ↦
        hfirst (j + 1) (Nat.succ_lt_succ hj)⟩
  · rintro (he | ⟨ha, i, b, hb, he, hfirst⟩)
    · exact ⟨0, a, rfl, he, fun j hj ↦ absurd hj (Nat.not_lt_zero j)⟩
    · refine ⟨i + 1, b, hb, he, fun j hj c hc ↦ ?_⟩
      rcases j with _ | j
      · exact Option.some.inj hc ▸ ha
      · exact hfirst j (Nat.lt_of_succ_lt_succ hj) c hc

theorem exists_firstFault_iff {as : List α} {fault : α → ε → Prop} :
    (∃ e, FirstFault as fault e) ↔ ∃ a ∈ as, ∃ e, fault a e := by
  induction as with
  | nil => simp
  | cons a as ih =>
    simp only [firstFault_cons, exists_or, exists_and_left, ih, List.exists_mem_cons_iff]
    by_cases ha : ∃ e, fault a e
    · simp [ha]
    · simp [not_exists.mp ha]

theorem firstFault_append {as bs : List α} {fault : α → ε → Prop} {e : ε} :
    FirstFault (as ++ bs) fault e ↔
      FirstFault as fault e ∨ (∀ d, ¬ FirstFault as fault d) ∧ FirstFault bs fault e := by
  induction as with
  | nil => simp
  | cons a as ih =>
    simp only [List.cons_append, firstFault_cons, ih, not_or, not_and, forall_and]
    tauto

/-- Members with parts: if a member is at fault for its first part that is, then a list of members
is at fault for the first such part of all. -/
theorem firstFault_flatMap {as : List α} {parts : α → List β} {fault : α → ε → Prop}
    {partFault : β → ε → Prop} {e : ε}
    (h : ∀ a ∈ as, ∀ d, fault a d ↔ FirstFault (parts a) partFault d) :
    FirstFault as fault e ↔ FirstFault (as.flatMap parts) partFault e := by
  induction as with
  | nil => simp
  | cons a as ih =>
    have hhead := h a List.mem_cons_self
    have htail := ih fun b hb ↦ h b (List.mem_cons_of_mem a hb)
    rw [List.flatMap_cons, firstFault_cons, firstFault_append, htail]
    simp only [hhead]

theorem exists_eq_ok_iff {x : Except ε α} : (∃ a, x = .ok a) ↔ ∀ e, x ≠ .error e := by
  cases x <;> simp

/-- A traversal fails as the first step that does. -/
theorem mapM_eq_error_iff {f : α → Except ε β} {as : List α} {e : ε} :
    as.mapM f = .error e ↔ FirstFault as (fun a d ↦ f a = .error d) e := by
  induction as with
  | nil => simp [pure, Except.pure]
  | cons a as ih =>
    rw [firstFault_cons, ← ih, ← exists_eq_ok_iff]
    simp only [List.mapM_cons, bind_eq_error_iff]
    simp [pure, Except.pure]

theorem mapError_eq_ok_iff {ε ε' α : Type} {x : Except ε α} {f : ε → ε'} {a : α} :
    x.mapError f = .ok a ↔ x = .ok a := by
  cases x <;> simp [Except.mapError]

theorem mapError_eq_error_iff {ε ε' α : Type} {x : Except ε α} {f : ε → ε'} {e : ε'} :
    x.mapError f = .error e ↔ ∃ d, x = .error d ∧ f d = e := by
  cases x <;> simp [Except.mapError]

end FacetedSearch

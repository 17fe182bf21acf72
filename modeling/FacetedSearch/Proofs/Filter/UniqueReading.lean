import FacetedSearch.Proofs.Filter.Conditions

/-!
# Unique reading of filters

The grammar that filters are compiled to was not made to be read back: negations have no
parentheses, terms and operands are grouped by the same ones, ranges contain spaces, and operators
are plain words. All the same the text of a clean filter can be read in one way only, up to what
compilation does not write (`Filter.compile_eq_iff_alike`).

The proof is a cancellation law. If the texts of two filters agree together with whatever follows
them, the filters are alike and the rest is the same. What may follow a filter matters: in a group
it is a space or a parenthesis, and these end every text that is open to the right. The law is
proved by induction on one filter, and the first characters of the text tell which kind of filter
the other is.
-/

namespace FacetedSearch

open Text (EndsMember endsMember_nil intercalate_append_inj)

/-! ## Operators -/

namespace Operator

/-- The characters from an operator to the next operand. -/
def link (op : Operator) : List Char := op.text.toList ++ [' ']

variable {op op' : Operator} {rest rest' : List Char}

/-- Operators are told apart by their first letter. -/
theorem head?_link_injective (h : op.link.head? = op'.link.head?) : op = op' := by
  revert h
  cases op <;> cases op' <;> decide

theorem link_injective (h : op.link = op'.link) : op = op' :=
  head?_link_injective (congrArg List.head? h)

theorem link_append_inj (h : op.link ++ rest = op'.link ++ rest') :
    op.link = op'.link ∧ rest = rest' := by
  have htext := congrArg List.head? h
  have hhead : op.link.head? = op'.link.head? := by
    cases op <;> cases op' <;> exact htext
  obtain rfl := head?_link_injective hhead
  exact ⟨rfl, List.append_cancel_left h⟩

end Operator

namespace Filter

variable {f g : Filter} {fs gs : List Filter} {s t : String} {rest rest' : List Char}

/-! ## Texts by their characters -/

/-- The filter has a text. -/
def Compiles (f : Filter) : Prop := ∃ s, f.compile = .ok s

/-- The characters of the filter's text. There are none if the filter does not compile. -/
def chars (f : Filter) : List Char := (f.compile.toOption.getD "").toList

theorem chars_eq (h : f.compile = .ok s) : f.chars = s.toList := by
  rw [chars, h]
  rfl

theorem compiles_of_forall₂ {texts : List String}
    (h : List.Forall₂ (fun f text ↦ f.compile = .ok text) fs texts) :
    (∀ f ∈ fs, f.Compiles) ∧ texts.map String.toList = fs.map chars := by
  induction h with
  | nil => simp
  | cons hf _ ih =>
    obtain ⟨hcompiles, hchars⟩ := ih
    exact ⟨List.forall_mem_cons.mpr ⟨⟨_, hf⟩, hcompiles⟩, by simp [chars_eq hf, hchars]⟩

theorem Compiles.group {k : Option String} {op : Operator} (h : (group k op fs).Compiles) :
    fs ≠ [] ∧ (∀ f ∈ fs, f.Compiles) ∧
      (Filter.group k op fs).chars =
        '(' :: ((' ' :: op.link).intercalate (fs.map chars) ++ [')']) := by
  obtain ⟨s, hs⟩ := h
  have hchars := chars_eq hs
  rw [compile, compileAll_eq_mapM] at hs
  split at hs
  · cases hs
  · next hne =>
    obtain ⟨texts, htexts, hs⟩ := bind_eq_ok_iff.mp hs
    cases hs
    obtain ⟨hcompiles, hmap⟩ := compiles_of_forall₂ (mapM_eq_ok_iff.mp htexts)
    refine ⟨fun hfs ↦ hne (hfs ▸ rfl), hcompiles, ?_⟩
    rw [hchars, ← hmap]
    simp [Operator.link]

theorem Compiles.negation {k : Option String} (h : (negation k f).Compiles) :
    f.Compiles ∧ (Filter.negation k f).chars = ['N', 'O', 'T'] ++ ' ' :: f.chars := by
  obtain ⟨s, hs⟩ := h
  have hchars := chars_eq hs
  rw [compile] at hs
  obtain ⟨text, htext, hs⟩ := bind_eq_ok_iff.mp hs
  cases hs
  rw [hchars, chars_eq htext]
  exact ⟨⟨text, htext⟩, by simp⟩

theorem Compiles.test {k : Option String} {c : Condition} (h : (test k c).Compiles)
    (hc : c.Clean) : ∃ l, c.HasLeaf l ∧ l.Clean ∧ (Filter.test k c).chars = l.chars := by
  obtain ⟨s, hs⟩ := h
  rw [chars_eq hs]
  exact Condition.exists_leaf hc hs

/-! ## Cancellation -/

/-- **The text of a clean filter determines the filter**, up to likeness, and what follows it. -/
theorem chars_append_inj (hf : f.Clean) (hg : g.Clean) (hf' : f.Compiles) (hg' : g.Compiles)
    (hrest : EndsMember rest) (hrest' : EndsMember rest') (h : f.chars ++ rest = g.chars ++ rest') :
    f.Alike g ∧ rest = rest' := by
  -- the first characters tell the kinds of filter apart, so that only equal kinds remain
  induction f using Filter.induction generalizing g rest rest' with
  | test k c =>
    obtain ⟨l, hl, hclean, hchars⟩ := hf'.test (clean_test.mp hf)
    rw [hchars] at h
    cases g with
    | test k' d =>
      obtain ⟨m, hm, hclean', hchars'⟩ := hg'.test (clean_test.mp hg)
      rw [hchars'] at h
      obtain ⟨hlm, hend⟩ := Leaf.chars_append_inj hclean hclean' hrest hrest' h
      exact ⟨(Condition.leaf_eq_iff_alike hl hm).mp hlm, hend⟩
    | group k' op gs =>
      rw [hg'.group.2.2] at h
      exact absurd h (Leaf.chars_append_ne_paren hclean _ _)
    | negation k' g =>
      rw [hg'.negation.2, List.append_assoc] at h
      exact absurd h (Leaf.chars_append_ne_not hclean _ _)
  | group k op fs ih =>
    obtain ⟨hne, hcompiles, hchars⟩ := hf'.group
    rw [hchars] at h
    cases g with
    | test k' d =>
      obtain ⟨m, -, hclean', hchars'⟩ := hg'.test (clean_test.mp hg)
      rw [hchars'] at h
      exact absurd h.symm (Leaf.chars_append_ne_paren hclean' _ _)
    | group k' op' gs =>
      obtain ⟨hne', hcompiles', hchars'⟩ := hg'.group
      rw [hchars'] at h
      simp only [List.cons_append, List.append_assoc, List.nil_append] at h
      -- a parenthesis or a space follows every operand, so the induction hypothesis applies to it
      have hmember : ∀ f ∈ fs, ∀ g ∈ gs, ∀ {rest rest'}, EndsMember rest → EndsMember rest' →
          f.chars ++ rest = g.chars ++ rest' → f.Alike g ∧ rest = rest' := fun f hmem g hmem' ↦
        ih f hmem (clean_group.mp hf f hmem) (clean_group.mp hg g hmem') (hcompiles f hmem)
          (hcompiles' g hmem')
      obtain ⟨⟨hop, hall⟩, hend⟩ := intercalate_append_inj hne hne' hmember
        Operator.link_append_inj (List.cons.inj h).2
      exact ⟨⟨hop.imp_right Operator.link_injective, alikeAll_iff_forall₂.mpr hall⟩, hend⟩
    | negation k' g =>
      rw [hg'.negation.2] at h
      exact absurd (List.cons.inj h).1 (by decide)
  | negation k f ih =>
    obtain ⟨hcompiles, hchars⟩ := hf'.negation
    rw [hchars, List.append_assoc] at h
    cases g with
    | test k' d =>
      obtain ⟨m, -, hclean', hchars'⟩ := hg'.test (clean_test.mp hg)
      rw [hchars'] at h
      exact absurd h.symm (Leaf.chars_append_ne_not hclean' _ _)
    | group k' op gs =>
      rw [hg'.group.2.2] at h
      exact absurd (List.cons.inj h).1 (by decide)
    | negation k' g =>
      obtain ⟨hcompiles', hchars'⟩ := hg'.negation
      rw [hchars', List.append_assoc] at h
      -- nothing closes a negation: what may follow it follows its operand
      exact ih (clean_negation.mp hf) (clean_negation.mp hg) hcompiles hcompiles' hrest hrest'
        (List.cons.inj (List.append_cancel_left h)).2

/-! ## Likeness shows in no text -/

/-- One member stands alone, and the words between members do not show. -/
theorem intercalate_congr_sep {α : Type} {sep sep' : List α} {xs : List (List α)}
    (h : xs.length = 1 ∨ sep = sep') : sep.intercalate xs = sep'.intercalate xs := by
  rcases h with h | rfl
  · obtain ⟨x, rfl⟩ := List.length_eq_one_iff.mp h
    rw [List.intercalate_singleton, List.intercalate_singleton]
  · rfl

theorem Alike.chars_eq (h : f.Alike g) (hf : f.Clean) (hg : g.Clean) (hf' : f.Compiles)
    (hg' : g.Compiles) : f.chars = g.chars := by
  induction f using Filter.induction generalizing g with
  | test k c =>
    cases g with
    | test k' d =>
      obtain ⟨l, hl, -, hchars⟩ := hf'.test (clean_test.mp hf)
      obtain ⟨m, hm, -, hchars'⟩ := hg'.test (clean_test.mp hg)
      rw [hchars, hchars', (Condition.leaf_eq_iff_alike hl hm).mpr h]
    | group k' op gs => exact h.elim
    | negation k' g => exact h.elim
  | group k op fs ih =>
    cases g with
    | test k' d => exact h.elim
    | group k' op' gs =>
      obtain ⟨-, hcompiles, hchars⟩ := hf'.group
      obtain ⟨-, hcompiles', hchars'⟩ := hg'.group
      obtain ⟨hop, hall⟩ := h
      rw [alikeAll_iff_forall₂] at hall
      have hmembers : List.Forall₂ (fun f g ↦ f.chars = g.chars) fs gs := by
        refine List.forall₂_iff_zip.mpr ⟨hall.length_eq, fun {f g} hmem ↦ ?_⟩
        obtain ⟨hmem_fs, hmem_gs⟩ := List.of_mem_zip hmem
        exact ih f hmem_fs (List.forall₂_zip hall hmem) (clean_group.mp hf f hmem_fs)
          (clean_group.mp hg g hmem_gs) (hcompiles f hmem_fs) (hcompiles' g hmem_gs)
      have hmap : fs.map chars = gs.map chars := by
        rw [← List.forall₂_eq_eq_eq, List.forall₂_map_left_iff, List.forall₂_map_right_iff]
        exact hmembers
      -- of one operand no link is written, so its operator does not show
      have hlink : (fs.map chars).length = 1 ∨ ' ' :: op.link = ' ' :: op'.link := by
        rw [List.length_map]
        exact hop.imp_right (congrArg fun o : Operator ↦ ' ' :: o.link)
      rw [hchars, hchars', ← hmap, intercalate_congr_sep hlink]
    | negation k' g => exact h.elim
  | negation k f ih =>
    cases g with
    | test k' d => exact h.elim
    | group k' op gs => exact h.elim
    | negation k' g =>
      obtain ⟨hcompiles, hchars⟩ := hf'.negation
      obtain ⟨hcompiles', hchars'⟩ := hg'.negation
      rw [hchars, hchars',
        ih h (clean_negation.mp hf) (clean_negation.mp hg) hcompiles hcompiles']

/-- **Clean filters have the same text exactly if they are alike**: unique reading. -/
theorem compile_eq_iff_alike (hf : f.Clean) (hg : g.Clean) (hs : f.compile = .ok s)
    (ht : g.compile = .ok t) : s = t ↔ f.Alike g := by
  rw [← String.toList_inj, ← chars_eq hs, ← chars_eq ht]
  constructor
  · intro h
    exact (chars_append_inj hf hg ⟨s, hs⟩ ⟨t, ht⟩ endsMember_nil endsMember_nil
      (congrArg (· ++ []) h)).1
  · intro h
    exact h.chars_eq hf hg ⟨s, hs⟩ ⟨t, ht⟩

/-- Two filters with one text: a group of one range of a week, with a key, and a group of another
operator of one range of seven days. -/
theorem exists_alike_week :
    ∃ f g : Filter, ∃ s, f.Clean ∧ g.Clean ∧ f.compile = .ok s ∧ g.compile = .ok s ∧
      f.key ≠ g.key ∧ f.Alike g := by
  let week : RelativeRange := { before := some { weeks := 1 } }
  let days : RelativeRange := { before := some { days := 7 } }
  have hname : IsFieldName Field.dateList := ⟨by decide, by decide, List.all_eq_true.mp rfl⟩
  have hweek : (group (some "recent") .and [test none (.relativeRange week)]).Clean := by
    simpa [Condition.Clean] using hname
  have hdays : (group none .or [test none (.relativeRange days)]).Clean := by
    simpa [Condition.Clean] using hname
  exact ⟨_, _, _, hweek, hdays, rfl, rfl, by decide,
    (compile_eq_iff_alike hweek hdays rfl rfl).mp rfl⟩

end Filter

end FacetedSearch

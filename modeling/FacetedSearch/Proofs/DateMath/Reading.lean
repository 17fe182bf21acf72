import FacetedSearch.Proofs.DateMath.Offsets

/-!
# Reading offsets

Whatever evaluates an offset has to find its terms first. The reader of this module takes them from
the front, one at a time: a sign, the digits behind it, and the capital letters behind those, which
must be the name of a unit. Each term is as long as it can be, so there is only one way to read a
text, and no number is lost where the next term begins (`readTokens?_flatMap`).

With the reader, what an offset keeps of its period can be said of the text alone. `Lossless` has
the contract, and both directions of date math meet it (`offsets_lossless`).
-/

namespace FacetedSearch

open Text (numeral)

namespace DateMath

/-- A term with its sign. -/
structure Token where
  sign : Sign
  term : Term
deriving DecidableEq

/-- The sign that a character is. -/
def Sign.ofChar? : Char → Option Sign
  | '+' => some plus
  | '-' => some minus
  | _ => none

/-- The unit with a name. -/
def DateUnit.ofName? : String → Option DateUnit
  | "YEARS" => some years
  | "MONTHS" => some months
  | "DAYS" => some days
  | _ => none

/-- The token at the front of the characters, and what follows it. -/
def takeToken? : List Char → Option (Token × List Char)
  | [] => none
  | c :: cs => do
    let digits := cs.takeWhile Char.isDigit
    let behind := cs.dropWhile Char.isDigit
    let sign ← Sign.ofChar? c
    let unit ← DateUnit.ofName? (String.ofList (behind.takeWhile Char.isUpper))
    if Text.isNumeral digits then
      some (⟨sign, ⟨Text.numeralValue digits, unit⟩⟩, behind.dropWhile Char.isUpper)
    else none

theorem length_of_takeToken? {cs rest : List Char} {t : Token}
    (h : takeToken? cs = some (t, rest)) : rest.length < cs.length := by
  rcases cs with _ | ⟨c, cs⟩
  · cases h
  · simp only [takeToken?, Option.bind_eq_bind, Option.bind_eq_some_iff,
      Option.ite_none_right_eq_some, Option.some.injEq, Prod.mk.injEq] at h
    obtain ⟨sign, -, unit, -, -, -, rfl⟩ := h
    calc ((cs.dropWhile Char.isDigit).dropWhile Char.isUpper).length
        ≤ (cs.dropWhile Char.isDigit).length := (List.dropWhile_sublist _).length_le
      _ ≤ cs.length := (List.dropWhile_sublist _).length_le
      _ < (c :: cs).length := Nat.lt_succ_self _

/-- The tokens that the characters consist of. -/
def readTokens? (cs : List Char) : Option (List Token) :=
  if cs.isEmpty then some []
  else
    match _h : takeToken? cs with
    | none => none
    | some (t, rest) => (readTokens? rest).map (t :: ·)
termination_by cs.length
decreasing_by exact length_of_takeToken? _h

theorem Sign.ofChar?_text (sign : Sign) : ∃ c, sign.text.toList = [c] ∧ ofChar? c = some sign := by
  cases sign
  · exact ⟨'+', rfl, rfl⟩
  · exact ⟨'-', rfl, rfl⟩

theorem DateUnit.ofName?_text (u : DateUnit) : ofName? u.text = some u := by
  cases u <;> rfl

theorem takeToken?_termChars (sign : Sign) (t : Term) {rest : List Char}
    (hrest : ∀ c ∈ rest.head?, c.isUpper = false) :
    takeToken? (termChars sign t ++ rest) = some (⟨sign, t⟩, rest) := by
  obtain ⟨c, htext, hsign⟩ := sign.ofChar?_text
  have hdigits : ∀ c ∈ numeral t.amount, c.isDigit = true :=
    List.all_eq_true.mp (Text.all_isDigit_numeral t.amount)
  obtain ⟨hnumber, hbehind⟩ :=
    Text.takeWhile_append_of_head? hdigits (isDigit_head_text_unit t.unit rest)
  obtain ⟨hname, hnext⟩ := Text.takeWhile_append_of_head? (isUpper_text_unit t.unit) hrest
  have hchars : termChars sign t ++ rest =
      c :: (numeral t.amount ++ (t.unit.text.toList ++ rest)) := by
    simp [termChars, htext]
  rw [hchars, takeToken?, hnumber, hbehind, hname, hnext, hsign, String.ofList_toList,
    DateUnit.ofName?_text]
  simp [Text.isNumeral_numeral]

theorem readTokens?_flatMap (sign : Sign) (ts : List Term) :
    readTokens? (ts.flatMap (termChars sign)) = some (ts.map (Token.mk sign)) := by
  induction ts with
  | nil => simp [readTokens?]
  | cons t ts ih =>
    have htake := takeToken?_termChars sign t (isUpper_head_flatMap sign ts)
    have hne : (termChars sign t ++ ts.flatMap (termChars sign)).isEmpty = false := by
      cases sign <;> rfl
    rw [List.flatMap_cons, readTokens?, hne, if_neg Bool.false_ne_true]
    split
    · next hnone =>
      rw [htake] at hnone
      cases hnone
    · next t' rest hsome =>
      rw [htake] at hsome
      cases hsome
      rw [ih]
      rfl

end DateMath

namespace Period

open DateMath

variable {p q : Period} {ts : List Term}

theorem units_dateTerms (h : p.dateTerms = .ok ts) :
    (ts.map Term.unit).Sublist [.years, .months, .days] := by
  unfold dateTerms at h
  split at h
  · cases h
  · cases h
    by_cases hyears : p.years.toNat = 0 <;> by_cases hmonths : p.months.toNat = 0 <;>
      by_cases hdays : p.dayCount = 0 <;> simp [hyears, hmonths, hdays]

/-- What is kept of a period by a function that writes it as an offset with a sign. -/
structure Lossless (sign : Sign) (write : Period → Except Violation String) : Prop where
  /-- A period with a time is refused, and nothing else is. -/
  refused : ∀ p v, write p = .error v ↔
    (p.hours ≠ 0 ∨ p.minutes ≠ 0 ∨ p.seconds ≠ 0) ∧ v = .unsupportedPeriodUnit p
  /-- The refusal quotes the period. -/
  quoted : ∀ p v, write p = .error v →
    v.message = "Period '" ++ p.text ++ "' uses units finer than a day"
  /-- Any other period has a text, and its tokens have the sign and the three numbers. -/
  readable : ∀ p, p.hours = 0 → p.minutes = 0 → p.seconds = 0 →
    ∃ s tokens, write p = .ok s ∧ readTokens? s.toList = some tokens ∧ tokens ≠ [] ∧
      (∀ t ∈ tokens, t.sign = sign) ∧
      (tokens.map fun t ↦ t.term.unit).Sublist [.years, .months, .days] ∧
      amountOf .years (tokens.map Token.term) = p.years.toNat ∧
      amountOf .months (tokens.map Token.term) = p.months.toNat ∧
      amountOf .days (tokens.map Token.term) = 7 * p.weeks.toNat + p.days.toNat
  /-- Texts are the same for the same three numbers. -/
  same_iff : ∀ p q s t, write p = .ok s → write q = .ok t → (s = t ↔
    p.years = q.years ∧ p.months = q.months ∧
      7 * p.weeks.toNat + p.days.toNat = 7 * q.weeks.toNat + q.days.toNat)

theorem lossless_offsetText (sign : Sign) : Lossless sign fun p ↦ p.offsetText sign where
  refused p v := by rw [offsetText_eq_error_iff, hasTime_iff]
  quoted p v h := by
    obtain ⟨-, rfl⟩ := offsetText_eq_error_iff.mp h
    rfl
  readable p hhours hminutes hseconds := by
    have htime : ¬ p.hasTime = true := by simp [hasTime_iff, hhours, hminutes, hseconds]
    obtain ⟨s, hs⟩ : ∃ s, p.offsetText sign = .ok s :=
      exists_eq_ok_iff.mpr fun v hv ↦ htime (offsetText_eq_error_iff.mp hv).1
    obtain ⟨ts, hts, hchars⟩ := toList_of_offsetText hs
    have hterms : (ts.map (Token.mk sign)).map Token.term = ts := by
      rw [List.map_map]
      exact List.map_id ts
    have hunits : (ts.map (Token.mk sign)).map (fun t ↦ t.term.unit) = ts.map Term.unit := by
      rw [List.map_map]
      rfl
    refine ⟨s, ts.map (Token.mk sign), hs, ?_, ?_, ?_, ?_, ?_⟩
    · rw [hchars, readTokens?_flatMap]
    · exact fun hnil ↦ dateTerms_ne_nil hts (List.map_eq_nil_iff.mp hnil)
    · intro t ht
      obtain ⟨_, -, rfl⟩ := List.mem_map.mp ht
      rfl
    · rw [hunits]
      exact units_dateTerms hts
    · rw [hterms]
      exact amountOf_dateTerms hts
  same_iff _ _ _ _ := offsetText_eq_iff

/-- **Date math loses nothing of a period that can be counted in days.** -/
theorem offsets_lossless : Lossless .minus subtractText ∧ Lossless .plus addText :=
  ⟨lossless_offsetText .minus, lossless_offsetText .plus⟩

end Period

end FacetedSearch

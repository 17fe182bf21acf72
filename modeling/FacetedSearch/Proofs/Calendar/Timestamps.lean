import FacetedSearch.Calendar.Rfc3339
import FacetedSearch.Proofs.Calendar.Date
import FacetedSearch.Proofs.Steps
import FacetedSearch.Proofs.Text.Numerals
import Mathlib.Data.String.Basic

/-!
# Written instants read back

An instant is written as a timestamp of universal time, with the fraction of its second in as few
digits as possible. The timestamp denotes the instant again, to the nanosecond and also within a
leap second at the end of a minute, as long as the year has four digits. A year outside of that
range is written with its sign, and then the text is no timestamp at all.

An instant within a leap second anywhere else is written as one of the next second
(`text_eq_text_next`). No timestamp denotes it (`leapsAtMinuteEnd_of_read`).

`read` is taken apart once (`read_eq_ok`), so that what follows is one lemma for each part of a
timestamp: date, time of day, fraction and offset. They are put together once, for any text that has
all its parts (`read_partsChars`).
-/

namespace FacetedSearch

namespace Instant

/-- Whether the year is one that a timestamp can show. -/
def HasFourDigitYear (t : Instant) : Prop := 0 ≤ t.date.year ∧ t.date.year ≤ 9999

instance (t : Instant) : Decidable t.HasFourDigitYear := inferInstanceAs (Decidable (_ ∧ _))

/-- Whether an instant within a leap second is at the end of a minute, where the leap second is
shown as second 60. -/
def LeapsAtMinuteEnd (t : Instant) : Prop := 1000000000 ≤ t.nanosecond → t.second % 60 = 59

instance (t : Instant) : Decidable t.LeapsAtMinuteEnd := inferInstanceAs (Decidable (_ → _))

theorem hour_lt (t : Instant) : t.hour < 24 := by
  unfold hour
  omega

theorem minute_lt (t : Instant) : t.minute < 60 := by
  unfold minute
  omega

theorem secondOfMinute_le (t : Instant) : t.secondOfMinute ≤ 60 := by
  unfold secondOfMinute
  split <;> omega

theorem minute_eq (t : Instant) :
    1440 * t.date.dayNumber + 60 * t.hour + t.minute = t.second / 60 := by
  rw [date, Date.dayNumber_ofDayNumber]
  unfold hour minute
  omega

end Instant

namespace Rfc3339

open Text (padded takeDigits_padded all_isDigit_padded length_padded)

/-! ## The parts of a timestamp -/

@[simp] theorem skip_cons (c : Char) (cs : List Char) : skip c (c :: cs) = some cs := if_pos rfl

theorem read_eq_ok {s : String} {date : Date} {hour minute second : Nat}
    {nanosecond : Fin 1000000000} {offset : Offset} {cs₁ cs₂ cs₃ : List Char}
    (hsize : 19 ≤ s.utf8ByteSize) (hdate : takeDate s.toList = some (date, cs₁))
    (hvalid : date.Valid) (hclock : takeClock cs₁ = some ((hour, minute, second), cs₂))
    (hfraction : takeFraction cs₂ = .ok (nanosecond, cs₃))
    (htime : hour < 24 ∧ minute < 60 ∧ second ≤ 60)
    (hoffset : takeOffset cs₃ = .ok (offset, [])) (hhours : offset.hours < 24) :
    read s = .ok (instant date hour minute second nanosecond offset.inMinutes) := by
  have hsize' : ¬ s.utf8ByteSize < 19 := by omega
  have htime' : ¬ (23 < hour ∨ 59 < minute ∨ 60 < second) := by omega
  have hhours' : ¬ 24 ≤ offset.hours := by omega
  simp only [read, hdate, hclock, hfraction, hoffset, hsize', htime', hhours', hvalid,
    not_true_eq_false, if_false, bind, Except.bind, pure, Except.pure, List.isEmpty_nil,
    Bool.not_true, Bool.false_eq_true]

theorem read_eq_error_of_takeDate {s : String} (h : takeDate s.toList = none) :
    ∃ fault, read s = .error fault := by
  by_cases hsize : s.utf8ByteSize < 19
  · exact ⟨.tooShort, by simp [read, hsize]; rfl⟩
  · exact ⟨.badCharacter, by simp [read, hsize, h]; rfl⟩

theorem takeDate_padded {year month day : Nat} (hyear : year < 10000) (hmonth : month < 100)
    (hday : day < 100) (cs : List Char) :
    takeDate (padded 4 year ++ '-' :: (padded 2 month ++ '-' :: (padded 2 day ++ cs)))
      = some (⟨year, month, day⟩, cs) := by
  simp [takeDate, takeDigits_padded, hyear, hmonth, hday]

theorem takeClock_padded {c : Char} (hc : c = 'T' ∨ c = 't' ∨ c = ' ') {hour minute second : Nat}
    (hhour : hour < 100) (hminute : minute < 100) (hsecond : second < 100) (cs : List Char) :
    takeClock (c :: (padded 2 hour ++ ':' :: (padded 2 minute ++ ':' :: (padded 2 second ++ cs))))
      = some ((hour, minute, second), cs) := by
  simp [takeClock, hc, takeDigits_padded, hhour, hminute, hsecond]

/-! ## Fractions -/

theorem fractionValue_padded {w n : Nat} (hw : 0 < w) (hw9 : w ≤ 9) (h : n < 10 ^ w) :
    (fractionValue (padded w n) : Nat) = 10 ^ (9 - w) * n := by
  have hlen := length_padded hw h
  have htake : (padded w n).take 9 = padded w n := List.take_of_length_le (by omega)
  have hlt : 10 ^ (9 - w) * n < 1000000000 := by
    calc 10 ^ (9 - w) * n < 10 ^ (9 - w) * 10 ^ w := Nat.mul_lt_mul_of_pos_left h (by positivity)
      _ = 1000000000 := by rw [← pow_add, Nat.sub_add_cancel hw9]; norm_num
  rw [fractionValue, htake, List.rightpad, hlen, Text.numeralValue_append_replicate_zero,
    Text.numeralValue_padded, Fin.val_ofNat, Nat.mod_eq_of_lt hlt]

/-- The digits of a fraction extend to the first character that is none. -/
theorem takeFraction_digits {ds rest : List Char} (hds : ds.all Char.isDigit = true) (hne : ds ≠ [])
    (hrest : ∀ c ∈ rest.head?, c.isDigit = false) :
    takeFraction ('.' :: (ds ++ rest)) = .ok (fractionValue ds, rest) := by
  obtain ⟨htake, hdrop⟩ := Text.takeWhile_append_of_head? (List.all_eq_true.mp hds) hrest
  simp [takeFraction, htake, hdrop, hne]

theorem takeFraction_padded {w n : Nat} (hw : 0 < w) (hw9 : w ≤ 9) (h : n < 10 ^ w)
    {x : Fin 1000000000} (hx : (x : Nat) = 10 ^ (9 - w) * n) :
    takeFraction ('.' :: (padded w n ++ ['Z'])) = .ok (x, ['Z']) := by
  have hne : padded w n ≠ [] := List.ne_nil_of_length_pos (by rw [length_padded hw h]; exact hw)
  have hvalue : fractionValue (padded w n) = x :=
    Fin.ext ((fractionValue_padded hw hw9 h).trans hx.symm)
  have hend : ∀ c ∈ ['Z'].head?, c.isDigit = false := by
    rintro c ⟨⟩
    rfl
  rw [takeFraction_digits (all_isDigit_padded w n) hne hend, hvalue]

/-- The fraction that is written for an instant is the fraction of its second. -/
theorem takeFraction_fractionChars (t : Instant) :
    takeFraction (t.fractionChars ++ ['Z']) = .ok (Fin.ofNat 1000000000 t.nanosecond, ['Z']) := by
  obtain ⟨n, hn⟩ : ∃ n, n = t.nanosecond % 1000000000 := ⟨_, rfl⟩
  have hx : (Fin.ofNat 1000000000 t.nanosecond : Nat) = n := by rw [Fin.val_ofNat, hn]
  simp only [Instant.fractionChars, ← hn]
  split
  · next h0 =>
    have hzero : Fin.ofNat 1000000000 t.nanosecond = 0 := Fin.ext (by rw [hx, h0]; rfl)
    rw [hzero]
    rfl
  split
  · exact takeFraction_padded (by decide) (by decide) (by omega) (by omega)
  split
  · exact takeFraction_padded (by decide) (by decide) (by omega) (by omega)
  · exact takeFraction_padded (by decide) (by decide) (by omega) (by omega)

/-! ## Whole timestamps -/

/-- A timestamp up to its second, and what follows it. -/
def partsChars (year month day : Nat) (separator : Char) (hour minute second : Nat)
    (rest : List Char) : List Char :=
  padded 4 year ++ '-' :: (padded 2 month ++ '-' :: (padded 2 day ++ separator ::
    (padded 2 hour ++ ':' :: (padded 2 minute ++ ':' :: (padded 2 second ++ rest)))))

private theorem length_le_utf8ByteSize_ofList (cs : List Char) :
    cs.length ≤ (String.ofList cs).utf8ByteSize := by
  rw [String.utf8ByteSize_ofList]
  induction cs with
  | nil => exact Nat.le_refl 0
  | cons c cs ih =>
    have hc := c.utf8Size_pos
    rw [List.length_cons, String.utf8Len]
    omega

private theorem le_size_partsChars (year month day : Nat) (c : Char) (hour minute second : Nat)
    (rest : List Char) :
    19 ≤ (String.ofList (partsChars year month day c hour minute second rest)).utf8ByteSize := by
  refine le_trans ?_ (length_le_utf8ByteSize_ofList _)
  have hmin : ∀ w n, w ≤ (padded w n).length := fun w n ↦ by
    rw [padded, List.length_leftpad]
    exact le_max_left _ _
  have hyear := hmin 4 year
  have hmonth := hmin 2 month
  have hday := hmin 2 day
  have hhour := hmin 2 hour
  have hminute := hmin 2 minute
  have hsecond := hmin 2 second
  simp only [partsChars, List.length_append, List.length_cons]
  omega

/-- Numbers of a date and of a time of day are read, if what follows them is a fraction and an
offset. -/
theorem read_partsChars {year month day hour minute second : Nat} {c : Char} {rest cs : List Char}
    {nanosecond : Fin 1000000000} {offset : Offset} (hyear : year < 10000)
    (hdate : Date.Valid ⟨year, month, day⟩) (hc : c = 'T' ∨ c = 't' ∨ c = ' ')
    (htime : hour < 24 ∧ minute < 60 ∧ second ≤ 60)
    (hfraction : takeFraction rest = .ok (nanosecond, cs))
    (hoffset : takeOffset cs = .ok (offset, [])) (hhours : offset.hours < 24) :
    read (String.ofList (partsChars year month day c hour minute second rest)) =
      .ok (instant ⟨year, month, day⟩ hour minute second nanosecond offset.inMinutes) := by
  obtain ⟨hhour, hminute, hsecond⟩ := htime
  have hmonth : month ≤ 12 := hdate.1.2
  have hday : day ≤ 31 := hdate.2.2.trans (Date.daysInMonth_le _ _)
  have hclock := takeClock_padded hc (hhour.trans (by decide)) (hminute.trans (by decide))
    (Nat.lt_of_le_of_lt hsecond (by decide)) rest
  refine read_eq_ok (le_size_partsChars ..) ?_ hdate hclock hfraction ⟨hhour, hminute, hsecond⟩
    hoffset hhours
  rw [String.toList_ofList, partsChars, takeDate_padded hyear (by omega) (by omega)]

theorem takeOffset_utc : takeOffset ['Z'] = .ok (⟨false, 0, 0⟩, []) := rfl

/-- The instant of its own date and time of day, in universal time. -/
theorem instant_parts {t : Instant} (hleap : t.LeapsAtMinuteEnd) :
    instant t.date t.hour t.minute t.secondOfMinute (Fin.ofNat 1000000000 t.nanosecond) 0 = t := by
  have hminute := t.minute_eq
  obtain ⟨second, nanosecond, hlt⟩ := t
  simp only [Instant.LeapsAtMinuteEnd] at hleap
  simp only [Instant.secondOfMinute, instant, sub_zero, hminute, Fin.val_ofNat]
  -- a leap second is written as second 60, and read as second 59 with a whole second to spare
  by_cases h : 1000000000 ≤ nanosecond
  · have h59 := hleap h
    simp only [h, if_true]
    rw [if_pos (by omega)]
    congr 1 <;> omega
  · simp only [h, if_false]
    rw [if_neg (by omega)]
    congr 1 <;> omega

theorem text_eq_partsChars {t : Instant} (h : t.HasFourDigitYear) :
    t.text = String.ofList (partsChars t.date.year.toNat t.date.month t.date.day 'T' t.hour
      t.minute t.secondOfMinute (t.fractionChars ++ ['Z'])) := by
  have hyear : Instant.yearChars t.date.year = padded 4 t.date.year.toNat := if_pos h
  simp only [Instant.text, Instant.clockChars, hyear, partsChars, List.append_assoc,
    List.cons_append]

/-- The timestamp that is written for an instant denotes it. -/
theorem read_text {t : Instant} (h : t.HasFourDigitYear) (hleap : t.LeapsAtMinuteEnd) :
    read t.text = .ok t := by
  have hyear : (t.date.year.toNat : Int) = t.date.year := Int.toNat_of_nonneg h.1
  have hdate : (⟨t.date.year.toNat, t.date.month, t.date.day⟩ : Date) = t.date := by rw [hyear]
  have hvalid : Date.Valid ⟨t.date.year.toNat, t.date.month, t.date.day⟩ := by
    rw [hdate]
    exact Date.valid_ofDayNumber _
  have hyear9999 := h.2
  rw [text_eq_partsChars h, read_partsChars (by omega) hvalid (.inl rfl)
    ⟨t.hour_lt, t.minute_lt, t.secondOfMinute_le⟩ (takeFraction_fractionChars t) takeOffset_utc
    (by decide), hdate]
  exact congrArg Except.ok (instant_parts hleap)

/-- A year outside of the four digits leaves no timestamp. -/
theorem read_text_of_not {t : Instant} (h : ¬ t.HasFourDigitYear) :
    ∃ fault, read t.text = .error fault := by
  -- the year begins with a sign where the reader expects a digit
  apply read_eq_error_of_takeDate
  have hyear : Instant.yearChars t.date.year = (if t.date.year < 0 then '-' else '+') ::
      padded 4 t.date.year.natAbs := if_neg h
  have hsign : (if t.date.year < 0 then '-' else '+').isDigit = false := by split <;> rfl
  simp only [Instant.text, Instant.clockChars, hyear, String.toList_ofList, List.cons_append]
  rw [takeDate, Text.takeDigits_cons_of_not_isDigit hsign]
  rfl

/-! ## Leap seconds -/

theorem leapsAtMinuteEnd_instant (date : Date) (hour minute second : Nat)
    (nanosecond : Fin 1000000000) (offset : Int) :
    (instant date hour minute second nanosecond offset).LeapsAtMinuteEnd := by
  rw [instant, Instant.LeapsAtMinuteEnd]
  split
  · intro _
    change (60 * _ + 59 : Int) % 60 = 59
    omega
  · intro h
    exact absurd nanosecond.isLt (Nat.not_lt.mpr h)

theorem exists_instant_of_read {s : String} {t : Instant} (h : read s = .ok t) :
    ∃ date hour minute second nanosecond offset,
      t = instant date hour minute second nanosecond offset := by
  have hguard {p : Prop} [Decidable p] {fault : Fault} {r : Except Fault Instant}
      (h : (if p then throw fault >>= fun _ : Unit ↦ r else r) = .ok t) : r = .ok t := by
    split at h
    · cases h
    · exact h
  rw [read] at h
  replace h := hguard h
  split at h
  case h_2 => cases h
  case h_1 date cs hdate =>
    replace h := hguard h
    split at h
    case h_2 => cases h
    case h_1 hour minute second cs hclock =>
      obtain ⟨⟨nanosecond, cs⟩, hfraction, h⟩ := bind_eq_ok_iff.mp h
      obtain ⟨⟨offset, cs⟩, hoffset, h⟩ := bind_eq_ok_iff.mp (hguard h)
      cases hguard (hguard h)
      exact ⟨date, hour, minute, second, nanosecond, offset.inMinutes, rfl⟩

/-- Every timestamp has its leap second at the end of a minute, in whatever zone it is given. -/
theorem leapsAtMinuteEnd_of_read {s : String} {t : Instant} (h : read s = .ok t) :
    t.LeapsAtMinuteEnd := by
  obtain ⟨date, hour, minute, second, nanosecond, offset, rfl⟩ := exists_instant_of_read h
  exact leapsAtMinuteEnd_instant date hour minute second nanosecond offset

end Rfc3339

end FacetedSearch

import Durak.Calendar.Timestamp
import Durak.Number.Shortest

/-!
# Timestamps read back

An instant that has a timestamp is the one that is read from it (`ofTimestamp?_of_timestamp?`).
Nothing is lost on the way: every number is written with as many digits as are read, the fraction
loses only noughts at its end, and the date of a day is the only valid date with that day's number.
-/

set_option autoImplicit false

namespace Durak

-- powers and sums of natural numbers are those of the core library
attribute [local instance (high)] instPowNat Zero.ofOfNat0

/-! ## Digits -/

theorem length_decimalDigits_le {width number : Nat} (positive : 0 < width)
    (small : number < 10 ^ width) : (decimalDigits number).length ≤ width := by
  induction width generalizing number with
  | zero => omega
  | succ width hypothesis =>
    rw [decimalDigits]
    split
    · simp
    · rename_i large
      have lower : number / 10 < 10 ^ width := by
        rw [Nat.pow_succ] at small
        omega
      have wide : 0 < width := by
        rcases Nat.eq_zero_or_pos width with rfl | wide
        · simp at small
          omega
        · exact wide
      simpa using hypothesis wide lower

/-- Digits taken up after a number shift it by their count. -/
theorem foldl_digits (digits : List Digit) (number : Nat) :
    digits.foldl (fun number digit => number * 10 + digit.val) number =
      number * 10 ^ digits.length + ofDigits digits := by
  induction digits generalizing number with
  | nil => simp [ofDigits]
  | cons digit digits hypothesis =>
    rw [ofDigits, List.foldl_cons, List.foldl_cons, hypothesis, hypothesis, List.length_cons,
      Nat.pow_succ, Nat.add_mul, Nat.zero_mul, Nat.zero_add, Nat.mul_assoc,
      Nat.mul_comm 10, Nat.add_assoc]

theorem ofDigits_append (first second : List Digit) :
    ofDigits (first ++ second) = ofDigits first * 10 ^ second.length + ofDigits second := by
  rw [ofDigits, List.foldl_append, foldl_digits]
  rfl

theorem ofDigits_replicate_zero (count : Nat) :
    ofDigits (List.replicate count Digit.zero) = 0 := by
  induction count with
  | zero => rfl
  | succ count hypothesis =>
    rw [List.replicate_succ', ofDigits_append_singleton, hypothesis]
    rfl

/-- The digits of a number with noughts before them. -/
def wideDigits (width number : Nat) : List Digit :=
  List.replicate (width - (decimalDigits number).length) Digit.zero ++ decimalDigits number

theorem paddedDigits_eq (width number : Nat) :
    paddedDigits width number = (wideDigits width number).map Digit.character := by
  simp only [paddedDigits, wideDigits, List.length_map, List.map_append, List.map_replicate]
  rfl

theorem ofDigits_wideDigits (width number : Nat) : ofDigits (wideDigits width number) = number := by
  rw [wideDigits, ofDigits_append, ofDigits_replicate_zero, ofDigits_decimalDigits]
  omega

theorem length_wideDigits {width number : Nat} (positive : 0 < width)
    (small : number < 10 ^ width) : (wideDigits width number).length = width := by
  have := length_decimalDigits_le positive small
  simp only [wideDigits, List.length_append, List.length_replicate]
  omega

/-- Dropping noughts at the end of digits drops nothing else. -/
theorem exists_append_replicate (digits : List Digit) :
    ∃ count, digits = withoutTrailingZeros digits ++ List.replicate count Digit.zero := by
  refine ⟨(digits.reverse.takeWhile (· == Digit.zero)).length, ?_⟩
  have noughts : digits.reverse.takeWhile (· == Digit.zero) =
      List.replicate (digits.reverse.takeWhile (· == Digit.zero)).length Digit.zero := by
    refine List.eq_replicate_of_mem fun digit member => ?_
    simpa using List.all_eq_true.mp List.all_takeWhile digit member
  have parts := congrArg List.reverse
    (List.takeWhile_append_dropWhile (p := (· == Digit.zero)) (l := digits.reverse))
  rw [List.reverse_append, List.reverse_reverse, noughts, List.reverse_replicate] at parts
  exact parts.symm

namespace Instant

/-! ## Numbers -/

theorem takeNumber?_append (digits : List Digit) (number : Nat) (rest : List Char) :
    takeNumber? digits.length number (digits.map Digit.character ++ rest) =
      some (digits.foldl (fun number digit => number * 10 + digit.val) number, rest) := by
  induction digits generalizing number with
  | nil => rfl
  | cons digit digits hypothesis =>
    simp only [List.length_cons, List.map_cons, List.cons_append, takeNumber?, digit?_character,
      Option.bind_eq_bind, Option.bind_some, hypothesis, List.foldl_cons]

/-- A number is read back from as many digits as it was written with. -/
theorem takeNumber?_paddedDigits {width number : Nat} (positive : 0 < width)
    (small : number < 10 ^ width) (rest : List Char) :
    takeNumber? width 0 (paddedDigits width number ++ rest) = some (number, rest) := by
  have taken := takeNumber?_append (wideDigits width number) 0 rest
  rw [length_wideDigits positive small] at taken
  rw [paddedDigits_eq, taken]
  exact congrArg (fun number => some (number, rest)) (ofDigits_wideDigits width number)

/-! ## Fractions of a second -/

/-- The digits of a fraction count tenths, hundredths and so on. -/
theorem takeFraction_append {rest : List Char}
    (stops : ∀ weight nanoseconds, takeFraction weight nanoseconds rest = (nanoseconds, rest))
    (digits : List Digit) (places nanoseconds : Nat) (enough : digits.length ≤ places) :
    takeFraction (10 ^ places / 10) nanoseconds (digits.map Digit.character ++ rest) =
      (nanoseconds + ofDigits digits * 10 ^ (places - digits.length), rest) := by
  induction digits generalizing places nanoseconds with
  | nil => simp [stops, ofDigits]
  | cons digit digits hypothesis =>
    obtain ⟨places, rfl⟩ : ∃ fewer, places = fewer + 1 := ⟨places - 1, by simp at enough; omega⟩
    simp only [List.length_cons, Nat.add_le_add_iff_right] at enough
    have weight : 10 ^ (places + 1) / 10 = 10 ^ places := by
      rw [Nat.pow_succ, Nat.mul_div_cancel _ (by decide)]
    have split : 10 ^ digits.length * 10 ^ (places - digits.length) = 10 ^ places := by
      rw [← Nat.pow_add, Nat.add_sub_cancel' enough]
    have single : ofDigits (digit :: digits) =
        digit.val * 10 ^ digits.length + ofDigits digits := by
      simpa [ofDigits] using ofDigits_append [digit] digits
    rw [List.map_cons, List.cons_append, takeFraction, digit?_character, weight]
    simp only
    rw [hypothesis _ _ enough, List.length_cons, Nat.add_sub_add_right, single, Nat.add_mul,
      Nat.mul_assoc, split, Nat.add_assoc]

theorem reverse_dropWhile_character (digits : List Digit) :
    ((digits.map Digit.character).reverse.dropWhile (· == '0')).reverse =
      (withoutTrailingZeros digits).map Digit.character := by
  have same : (fun character => character == '0') ∘ Digit.character = (· == Digit.zero) := by
    funext digit
    revert digit
    decide
  rw [withoutTrailingZeros, ← List.map_reverse, List.dropWhile_map, same, List.map_reverse]

/-- What follows the fraction is no digit. -/
theorem takeFraction_offsetText (offset : Offset) (weight nanoseconds : Nat) :
    takeFraction weight nanoseconds (offsetText offset) = (nanoseconds, offsetText offset) := by
  unfold offsetText
  split
  · rfl
  · simp only [List.cons_append]
    split <;> rfl

/-- A fraction of a second is read back to the nanosecond. -/
theorem takeSubsecond?_fractionText {nanoseconds : Nat} (small : nanoseconds < 10 ^ (9 : Nat))
    (offset : Offset) :
    takeSubsecond? (fractionText nanoseconds ++ offsetText offset) =
      some (nanoseconds, offsetText offset) := by
  unfold fractionText
  split
  · rename_i isZero
    subst isZero
    rw [List.nil_append]
    unfold offsetText
    split
    · rfl
    · simp only [List.cons_append]
      split <;> rfl
  · rename_i positive
    obtain ⟨count, parts⟩ := exists_append_replicate (wideDigits 9 nanoseconds)
    rw [paddedDigits_eq, reverse_dropWhile_character]
    have value := ofDigits_wideDigits 9 nanoseconds
    have length := length_wideDigits (by decide) small
    generalize withoutTrailingZeros (wideDigits 9 nanoseconds) = kept at parts ⊢
    rw [parts, List.length_append, List.length_replicate] at length
    rw [parts, ofDigits_append, ofDigits_replicate_zero, List.length_replicate] at value
    have taken := takeFraction_append (takeFraction_offsetText offset) kept 9 0 (by omega)
    rw [show 9 - kept.length = count by omega, Nat.zero_add,
      show ofDigits kept * 10 ^ count = nanoseconds from value] at taken
    cases kept with
    | nil =>
      refine absurd ?_ positive
      rw [← value]
      simp [ofDigits]
    | cons first others =>
      rw [List.map_cons] at taken ⊢
      rw [List.cons_append, List.cons_append, takeSubsecond?, digit?_character]
      exact congrArg some taken

/-! ## Offsets -/

/-- A sign, hours and minutes are read as that offset. -/
theorem exists_readOffset?_eq {sign : Char} (isSign : sign = '+' ∨ sign = '-') {hours minutes : Nat}
    (fewHours : hours ≤ 23) (fewMinutes : minutes ≤ 59) :
    ∃ offset,
      readOffset? (sign :: (paddedDigits 2 hours ++ ':' :: paddedDigits 2 minutes)) = some offset ∧
      offset.minutes = if sign = '-' then -((hours * 60 + minutes : Nat) : Int)
        else ((hours * 60 + minutes : Nat) : Int) := by
  have takesHours := @takeNumber?_paddedDigits 2 hours (by decide) (by omega)
    (':' :: paddedDigits 2 minutes)
  have takesMinutes := @takeNumber?_paddedDigits 2 minutes (by decide) (by omega) []
  rw [List.append_nil] at takesMinutes
  unfold readOffset?
  split
  · rename_i shape
    obtain rfl := (List.cons.inj shape).1
    simp at isSign
  · rename_i shape
    obtain rfl := (List.cons.inj shape).1
    simp at isSign
  · rename_i shape
    obtain ⟨rfl, rfl⟩ := List.cons.inj shape
    simp only [takesHours, takeMark?, if_true, takesMinutes, Option.bind_eq_bind, Option.bind_some]
    rw [dif_pos ⟨isSign, fewHours, fewMinutes, trivial⟩]
    split
    · exact ⟨_, rfl, rfl⟩
    · exact ⟨_, rfl, rfl⟩
  · rename_i shape
    cases shape

theorem readOffset?_offsetText (offset : Offset) :
    readOffset? (offsetText offset) = some offset := by
  obtain ⟨minutes, above, below⟩ := offset
  unfold offsetText
  simp only
  split
  · rename_i isZero
    subst isZero
    rfl
  · have isSign : (if minutes < 0 then '-' else '+') = '+' ∨
        (if minutes < 0 then '-' else '+') = '-' := by
      split
      · exact .inr rfl
      · exact .inl rfl
    obtain ⟨⟨other, _, _⟩, isRead, same⟩ :=
      @exists_readOffset?_eq _ isSign (minutes.natAbs / 60) (minutes.natAbs % 60) (by omega)
        (by omega)
    rw [List.cons_append, isRead]
    have : other = minutes := by
      by_cases negative : minutes < 0
      · simp only [negative, if_true] at same
        omega
      · simp only [negative, if_false, Char.reduceEq] at same
        omega
    subst this
    rfl

end Instant

/-! ## Dates -/

/-- A day of the year lies in one of the months, at a place within its length. -/
theorem monthOfDay_spec {lengths : List Nat} {day : Nat} (within : day < lengths.sum) :
    (monthOfDay lengths day).1 < lengths.length ∧
      (monthOfDay lengths day).2 < lengths.getD (monthOfDay lengths day).1 0 ∧
      (lengths.take (monthOfDay lengths day).1).sum + (monthOfDay lengths day).2 = day := by
  induction lengths generalizing day with
  | nil => simp at within
  | cons length lengths hypothesis =>
    rw [List.sum_cons] at within
    rw [monthOfDay]
    split
    · rename_i short
      simp [short]
    · rename_i long
      obtain ⟨month, place, total⟩ := @hypothesis (day - length) (by omega)
      simp only [List.length_cons, List.getD_cons_succ, List.take_succ_cons, List.sum_cons]
      omega

/-- A year is as long as its months together. -/
theorem daysBeforeYear_succ (year : Int) :
    daysBeforeYear (year + 1) = daysBeforeYear year + (monthLengths (isLeapYear year)).sum := by
  have common : (monthLengths false).sum = 365 := by decide
  have leap : (monthLengths true).sum = 366 := by decide
  cases isLeap : isLeapYear year with
  | false =>
    simp only [isLeapYear, Bool.and_eq_false_iff, Bool.or_eq_false_iff, bne_eq_false_iff_eq,
      beq_eq_false_iff_ne] at isLeap
    rw [common]
    unfold daysBeforeYear
    omega
  | true =>
    simp only [isLeapYear, Bool.and_eq_true, Bool.or_eq_true, bne_iff_ne, beq_iff_eq] at isLeap
    rw [leap]
    unfold daysBeforeYear
    omega

namespace Date

/-- A day of a year has a month and a place in it. -/
theorem spec_of_year {year day : Int} {month place : Nat} (started : daysBeforeYear year ≤ day)
    (notOver : day < daysBeforeYear (year + 1))
    (found : monthOfDay (monthLengths (isLeapYear year)) (day - daysBeforeYear year).toNat =
      (month, place)) :
    isValid ⟨year, month + 1, place + 1⟩ = true ∧
      dayNumber ⟨year, month + 1, place + 1⟩ = day - epochDay := by
  rw [daysBeforeYear_succ] at notOver
  have within : (day - daysBeforeYear year).toNat < (monthLengths (isLeapYear year)).sum := by
    omega
  have twelve : (monthLengths (isLeapYear year)).length = 12 := rfl
  obtain ⟨isMonth, inMonth, total⟩ := monthOfDay_spec within
  rw [found] at isMonth inMonth total
  rw [twelve] at isMonth
  constructor
  · simp only [isValid, monthLength, Nat.add_sub_cancel, Bool.and_eq_true, decide_eq_true_eq]
    exact ⟨⟨⟨by omega, isMonth⟩, by omega⟩, inMonth⟩
  · simp only [dayNumber, Nat.add_sub_cancel, total]
    omega

/-- The date of a day is a date, and the day is the one of that date. -/
theorem ofDayNumber_spec (number : Int) :
    (ofDayNumber number).isValid = true ∧ (ofDayNumber number).dayNumber = number := by
  obtain ⟨started, notOver⟩ := yearOfDay_bounds (number + epochDay)
  have spec := spec_of_year started notOver rfl
  rw [Int.add_sub_cancel] at spec
  exact spec

theorem monthLength_le (date : Date) : date.monthLength ≤ 31 := by
  have each : ∀ leap, ∀ length ∈ monthLengths leap, length ≤ 31 := by decide
  rw [monthLength, List.getD_eq_getElem?_getD]
  cases isLength : (monthLengths (isLeapYear date.year))[date.month - 1]? with
  | none => simp
  | some length => exact each _ length (List.mem_of_getElem? isLength)

end Date

namespace Instant

theorem nanosOfDay_lt (instant : Instant) : instant.nanosOfDay < 86400 * 1000000000 := by
  unfold nanosOfDay dayNanos secondNanos
  omega

/-- What a clock shows is put together from its day and the parts of its time of day. -/
theorem clockParts {instant : Instant} {seconds fraction : Nat} {day : Int}
    (isSeconds : instant.nanosOfDay / 1000000000 = seconds)
    (isFraction : instant.nanosOfDay % 1000000000 = fraction)
    (isDay : day = instant.wallClock / dayNanos) :
    ((day * 1440 + (seconds / 3600 * 60 + seconds / 60 % 60 : Nat)) * 60 + (seconds % 60 : Nat)) *
      secondNanos + fraction = instant.wallClock := by
  unfold nanosOfDay dayNanos secondNanos at *
  omega

/-- The parts of a timestamp are taken up one after another. -/
theorem readTimestamp?_append {year month day hour minute second nanoseconds : Nat}
    {offset : Offset} (date : (⟨year, month, day⟩ : Date).isValid = true)
    (fewYears : year < 10 ^ (4 : Nat)) (fewMonths : month < 10 ^ (2 : Nat))
    (fewDays : day < 10 ^ (2 : Nat)) (fewHours : hour ≤ 23) (fewMinutes : minute ≤ 59)
    (fewSeconds : second < 60) (fewNanos : nanoseconds < 10 ^ (9 : Nat)) :
    readTimestamp? (paddedDigits 4 year ++ '-' :: (paddedDigits 2 month ++ '-' ::
        (paddedDigits 2 day ++ 'T' :: (paddedDigits 2 hour ++ ':' ::
          (paddedDigits 2 minute ++ ':' :: (paddedDigits 2 second ++
            (fractionText nanoseconds ++ offsetText offset))))))) =
      some ⟨(((⟨year, month, day⟩ : Date).dayNumber * 1440 + (hour * 60 + minute : Nat)) * 60 +
        second) * secondNanos + nanoseconds, offset⟩ := by
  have inTime : (hour ≤ 23 ∧ minute ≤ 59) ∧ second ≤ 60 := ⟨⟨fewHours, fewMinutes⟩, by omega⟩
  refine Option.bind_eq_some_iff.mpr ⟨_, takeNumber?_paddedDigits (by decide) fewYears _, ?_⟩
  refine Option.bind_eq_some_iff.mpr ⟨_, rfl, ?_⟩
  refine Option.bind_eq_some_iff.mpr ⟨_, takeNumber?_paddedDigits (by decide) fewMonths _, ?_⟩
  refine Option.bind_eq_some_iff.mpr ⟨_, rfl, ?_⟩
  refine Option.bind_eq_some_iff.mpr ⟨_, takeNumber?_paddedDigits (by decide) fewDays _, ?_⟩
  refine Option.bind_eq_some_iff.mpr ⟨_, rfl, ?_⟩
  refine Option.bind_eq_some_iff.mpr ⟨_, takeNumber?_paddedDigits (by decide) (by omega) _, ?_⟩
  refine Option.bind_eq_some_iff.mpr ⟨_, rfl, ?_⟩
  refine Option.bind_eq_some_iff.mpr ⟨_, takeNumber?_paddedDigits (by decide) (by omega) _, ?_⟩
  refine Option.bind_eq_some_iff.mpr ⟨_, rfl, ?_⟩
  refine Option.bind_eq_some_iff.mpr ⟨_, takeNumber?_paddedDigits (by decide) (by omega) _, ?_⟩
  refine Option.bind_eq_some_iff.mpr ⟨_, takeSubsecond?_fractionText fewNanos offset, ?_⟩
  refine Option.bind_eq_some_iff.mpr ⟨_, readOffset?_offsetText offset, ?_⟩
  have noLeap : second ≠ 60 := by omega
  simp only [date, inTime, noLeap, decide_true, Bool.and_self, if_true, if_false]

/-- **An instant reads back from its timestamp.** -/
theorem ofTimestamp?_of_timestamp? {instant : Instant} {text : String}
    (written : instant.timestamp? = some text) : ofTimestamp? text = some instant := by
  obtain ⟨valid, sameDay⟩ := Date.ofDayNumber_spec (instant.wallClock / dayNanos)
  change instant.date.isValid = true at valid
  change instant.date.dayNumber = _ at sameDay
  have nanos := nanosOfDay_lt instant
  obtain ⟨⟨⟨isMonth, lastMonth⟩, isDay⟩, inMonth⟩ : ((1 ≤ instant.date.month ∧
      instant.date.month ≤ 12) ∧ 1 ≤ instant.date.day) ∧
      instant.date.day ≤ instant.date.monthLength := by
    simpa [Date.isValid] using valid
  have monthLength := instant.date.monthLength_le
  simp only [timestamp?] at written
  split at written
  · rename_i inRange
    obtain rfl := Option.some.inj written
    have second : secondNanos.toNat = 1000000000 := rfl
    have latest : instant.date.year ≤ 9999 := inRange.2
    have date : (⟨(instant.date.year.toNat : Int), instant.date.month, instant.date.day⟩ : Date) =
        instant.date := by rw [Int.toNat_of_nonneg inRange.1]
    generalize isSeconds : instant.nanosOfDay / secondNanos.toNat = seconds at *
    generalize isFraction : instant.nanosOfDay % secondNanos.toNat = fraction at *
    rw [second] at isSeconds isFraction
    have isRead := @readTimestamp?_append instant.date.year.toNat instant.date.month
      instant.date.day (seconds / 3600) (seconds / 60 % 60) (seconds % 60) fraction instant.offset
      (date ▸ valid) (by omega) (by omega) (by omega) (by omega) (by omega) (by omega) (by omega)
    rw [date, clockParts isSeconds isFraction sameDay] at isRead
    unfold ofTimestamp?
    rw [String.toList_ofList]
    simp only [List.append_assoc, List.cons_append]
    exact isRead
  · cases written

end Instant

end Durak

import Mathlib.Data.List.TakeWhile
import SqlWeave.Proofs.Text.Padded
import SqlWeave.Proofs.Time.Calendar
import SqlWeave.Time.Reader

/-!
# Instants written by RFC 3339

A text of RFC 3339 gives the clock of some place and how far that is from UTC. The strict reader
takes every such text and finds the instant that it denotes, cut off to the nanosecond
(`readStrict?_text`).
-/
namespace SqlWeave.Time

/-- The distance of a clock from UTC: `Z` in either case, or a sign, hours and minutes. -/
inductive Zone where
  | utc (letter : Char) (isZ : letter = 'Z' ∨ letter = 'z')
  | offset (sign : Char) (hours minutes : Nat) (isSign : sign = '+' ∨ sign = '-')
      (hours_lt : hours < 24) (minutes_lt : minutes < 60)

namespace Zone

def text : Zone → List Char
  | utc letter _ => [letter]
  | offset sign hours minutes .. =>
    sign :: Text.decimalPadded 2 hours ++ ':' :: Text.decimalPadded 2 minutes

/-- Seconds east of UTC. -/
def seconds : Zone → Int
  | utc .. => 0
  | offset sign hours minutes .. =>
    (if sign = '-' then -1 else 1) * (hours * 3600 + minutes * 60)

end Zone

/-- The parts of a text of RFC 3339. Second 60 is a leap second. -/
structure Written where
  year : Nat
  month : Nat
  day : Nat
  separator : Char
  hour : Nat
  minute : Nat
  second : Nat
  fraction : Option Text.Digits
  zone : Zone
  year_le : year ≤ 9999
  isDay : (Date.mk year month day).isValid = true
  isSeparator : separator = 'T' ∨ separator = 't' ∨ separator = ' '
  hour_lt : hour < 24
  minute_lt : minute < 60
  second_le : second ≤ 60

namespace Written

def fractionText (w : Written) : List Char :=
  match w.fraction with
  | none => []
  | some digits => '.' :: digits.chars

def text (w : Written) : List Char :=
  Text.decimalPadded 4 w.year ++ '-' :: (Text.decimalPadded 2 w.month ++ '-' ::
    (Text.decimalPadded 2 w.day ++ w.separator :: (Text.decimalPadded 2 w.hour ++ ':' ::
      (Text.decimalPadded 2 w.minute ++ ':' :: (Text.decimalPadded 2 w.second ++
        (w.fractionText ++ w.zone.text))))))

/-- The fraction of the second in nanoseconds, cut off. -/
def fractionNanos (w : Written) : Nat :=
  match w.fraction with
  | none => 0
  | some digits => digits.value * 1000000000 / Nat.pow 10 digits.chars.length

/-- Nanoseconds within the second; a leap second is the second behind second 59. -/
def nanos (w : Written) : Nat := w.fractionNanos + if w.second = 60 then 1000000000 else 0

/-- Seconds from 1970-01-01T00:00:00Z, leap seconds apart. -/
def seconds (w : Written) : Int :=
  daysSinceEpoch w.year w.month w.day * 86400 + w.hour * 3600 + w.minute * 60 + min w.second 59 -
    w.zone.seconds

/-- The instant that the text denotes. -/
def Denotes (w : Written) (t : Timestamp) : Prop := t.seconds = w.seconds ∧ t.nanos = w.nanos

theorem Denotes.unique {w : Written} {s t : Timestamp} (first : w.Denotes s)
    (second : w.Denotes t) : s = t := by
  cases s
  cases t
  obtain ⟨rfl, rfl⟩ := first
  obtain ⟨rfl, rfl⟩ := second
  rfl

end Written

/-! ### Reading the parts -/

theorem bind_of_read {α β : Type} {read : Option α} {x : α} {rest : α → Option β}
    (here : read = some x) : read >>= rest = rest x := by
  rw [here]
  rfl

theorem readNumber_padded {width n : Nat} (positive : 0 < width) (fits : n < Nat.pow 10 width)
    (small : n < 0x8000000000000000) (rest : List Char) :
    readNumber width width (Text.decimalPadded width n ++ rest) = some (n, rest) := by
  have length := Text.length_decimalPadded positive fits
  have front : (Text.decimalPadded width n ++ rest).take width = Text.decimalPadded width n :=
    List.take_left' length
  have digits : (Text.decimalPadded width n).takeWhile Char.isDigit = Text.decimalPadded width n :=
    List.takeWhile_eq_self_iff.mpr Text.isDigit_of_mem_decimalPadded
  have back : (Text.decimalPadded width n ++ rest).drop width = rest := List.drop_left' length
  simp only [readNumber, front, digits, length, Text.decimalValue_decimalPadded, back,
    Nat.le_refl, small, and_self, if_true]

theorem readNumber_two {n : Nat} (small : n < 100) (rest : List Char) :
    readNumber 2 2 (Text.decimalPadded 2 n ++ rest) = some (n, rest) :=
  readNumber_padded (by decide) small (by omega) rest

/-- Nothing that starts a zone is a digit or a point. -/
theorem Zone.text_eq_cons (zone : Zone) :
    ∃ c rest, zone.text = c :: rest ∧ c.isDigit = false ∧ c ≠ '.' := by
  cases zone with
  | utc letter isZ =>
    refine ⟨letter, [], rfl, ?_⟩
    rcases isZ with rfl | rfl <;> decide
  | offset sign hours minutes isSign =>
    refine ⟨sign, _, rfl, ?_⟩
    rcases isSign with rfl | rfl <;> decide

theorem readChar_cons (c : Char) (rest : List Char) : readChar c (c :: rest) = some ((), rest) := by
  simp [readChar]

theorem readNumericOffset_text {sign : Char} {hours minutes : Nat}
    (isSign : sign = '+' ∨ sign = '-') (hours_lt : hours < 24) (minutes_lt : minutes < 60) :
    readNumericOffset (readChar ':')
        (sign :: Text.decimalPadded 2 hours ++ ':' :: Text.decimalPadded 2 minutes) =
      some ((if sign = '-' then -1 else 1) * ((hours : Int) * 3600 + minutes * 60), []) := by
  have first := readNumber_two (Nat.lt_trans hours_lt (by decide))
    (':' :: Text.decimalPadded 2 minutes)
  have second := readNumber_two (Nat.lt_trans minutes_lt (by decide)) []
  rw [List.append_nil] at second
  have known : sign = '+' ∨ sign = '-' ∨ sign = '\u2212' := by
    rcases isSign with rfl | rfl <;> simp
  rw [List.cons_append, readNumericOffset, if_pos known]
  simp only [Option.bind_eq_bind, Option.bind_some, first, readChar_cons, second, if_pos minutes_lt]
  rcases isSign with rfl | rfl <;> simp

theorem readOffset_text (zone : Zone) :
    readOffset (readChar ':') zone.text = some (zone.seconds, []) := by
  cases zone with
  | utc letter isZ => rcases isZ with rfl | rfl <;> rfl
  | offset sign hours minutes isSign hours_lt minutes_lt =>
    have numeric := readNumericOffset_text isSign hours_lt minutes_lt
    -- A sign is no letter, so the offset is read as a number.
    rw [Zone.text, Zone.seconds, ← numeric]
    rcases isSign with rfl | rfl <;> rfl

theorem readSeparator_text (w : Written) (rest : List Char) :
    readSeparator (w.separator :: rest) = some ((), rest) := if_pos w.isSeparator

/-! ### The fraction of a second -/

/-- Digits behind the ninth do not count. -/
theorem fraction_eq (digits : List Char) :
    Text.decimalValue (digits.take 9) * Nat.pow 10 (9 - (digits.take 9).length) =
      Text.decimalValue digits * 1000000000 / Nat.pow 10 digits.length := by
  have power (n : Nat) : 0 < Nat.pow 10 n := Nat.pow_pos (by decide)
  rcases Nat.le_total digits.length 9 with short | long
  · -- Missing digits are zeros.
    have scale : 1000000000 = Nat.pow 10 (9 - digits.length) * Nat.pow 10 digits.length := by
      have exponents : 9 - digits.length + digits.length = 9 := by omega
      calc 1000000000 = 10 ^ (9 - digits.length + digits.length) := by rw [exponents]
        _ = _ := Nat.pow_add 10 _ _
    rw [List.take_of_length_le short, scale, ← Nat.mul_assoc, Nat.mul_div_cancel _ (power _)]
  · have nine : (digits.take 9).length = 9 := List.length_take_of_le long
    have split : Text.decimalValue digits = Text.decimalValue (digits.take 9) *
        Nat.pow 10 (digits.drop 9).length + Text.decimalValue (digits.drop 9) := by
      rw [← Text.decimalValue_append, List.take_append_drop]
    have scale : Nat.pow 10 digits.length = Nat.pow 10 (digits.drop 9).length * 1000000000 := by
      have exponents : digits.length = (digits.drop 9).length + 9 := by
        rw [List.length_drop]
        omega
      calc Nat.pow 10 digits.length = 10 ^ ((digits.drop 9).length + 9) := by rw [← exponents]; rfl
        _ = _ := Nat.pow_add 10 _ _
    have rest := Text.decimalValue_lt (digits.drop 9)
    have cut : (Text.decimalValue (digits.take 9) * Nat.pow 10 (digits.drop 9).length +
        Text.decimalValue (digits.drop 9)) / Nat.pow 10 (digits.drop 9).length =
          Text.decimalValue (digits.take 9) := by
      rw [Nat.mul_comm, Nat.mul_add_div (power _), Nat.div_eq_of_lt rest, Nat.add_zero]
    rw [nine, scale, Nat.mul_div_mul_right _ _ (by decide), split, cut]
    exact Nat.mul_one _

theorem takeWhile_take {digits rest : List Char} {c : Char} (areDigits : ∀ d ∈ digits, d.isDigit)
    (noDigit : c.isDigit = false) (count : Nat) :
    ((digits ++ c :: rest).take count).takeWhile Char.isDigit = digits.take count := by
  -- What is taken are digits and then, if any, the character that ends them.
  have front : ∀ d ∈ digits.take count, d.isDigit = true :=
    fun d member => areDigits d (List.mem_of_mem_take member)
  rw [List.take_append, List.takeWhile_append_of_pos front]
  cases count - digits.length <;> simp [noDigit]

theorem readFraction_text (w : Written) :
    readFraction (w.fractionText ++ w.zone.text) = some (w.fractionNanos, w.zone.text) := by
  obtain ⟨c, rest, zone, noDigit, noPoint⟩ := w.zone.text_eq_cons
  rw [zone, Written.fractionText, Written.fractionNanos]
  cases w.fraction with
  | none => simp [readFraction, noPoint]
  | some digits =>
    -- At most nine digits count; those behind them are passed over.
    have taken : ((digits.chars ++ c :: rest).take 9).takeWhile Char.isDigit =
        digits.chars.take 9 :=
      takeWhile_take digits.areDigits noDigit 9
    have nonempty : digits.chars.take 9 ≠ [] := by
      simpa using digits.nonempty
    have skipped : ((digits.chars ++ c :: rest).drop (digits.chars.take 9).length).dropWhile
        Char.isDigit = c :: rest := by
      have remaining : ∀ d ∈ digits.chars.drop (digits.chars.take 9).length, d.isDigit = true :=
        fun d member => digits.areDigits d (List.mem_of_mem_drop member)
      rw [List.drop_append_of_le_length (List.length_take_le' 9 _),
        List.dropWhile_append_of_pos remaining, List.dropWhile_cons_of_neg (by simp [noDigit])]
    show readFraction ('.' :: (digits.chars ++ c :: rest)) = _
    simp only [readFraction, taken, if_neg nonempty, skipped, fraction_eq]
    rfl

/-! ### The whole text -/

theorem fractionNanos_lt (w : Written) : w.fractionNanos < 1000000000 := by
  rw [Written.fractionNanos]
  cases w.fraction with
  | none => decide
  | some digits =>
    have power : 0 < Nat.pow 10 digits.chars.length := Nat.pow_pos (by decide)
    rw [Nat.div_lt_iff_lt_mul power, Nat.mul_comm]
    exact Nat.mul_lt_mul_of_pos_left (Text.decimalValue_lt digits.chars) (by decide)

theorem Zone.seconds_lt (zone : Zone) : zone.seconds.natAbs < 86400 := by
  cases zone with
  | utc => exact Nat.zero_lt_succ _
  | offset sign hours minutes _ hours_lt minutes_lt =>
    rw [Zone.seconds]
    split <;> omega

/-- The instants of four-digit years are far from the ends of the range. -/
theorem Written.seconds_inRange (w : Written) :
    firstSecond ≤ w.seconds ∧ w.seconds ≤ lastSecond := by
  -- The range has some 262143 years to either side.
  have days := dayNumber_bounds w.isDay (Int.natCast_nonneg w.year)
    (Int.ofNat_le.mpr w.year_le)
  have zone := w.zone.seconds_lt
  have hour := w.hour_lt
  have minute := w.minute_lt
  rw [dayNumber_eq w.isDay] at days
  simp only [Written.seconds, firstSecond, lastSecond]
  omega

theorem timestamp?_fields (w : Written) :
    ∃ t, Fields.timestamp? ⟨w.year, w.month, w.day, w.hour, w.minute, w.second, w.fractionNanos,
      w.zone.seconds⟩ = some t ∧ w.Denotes t := by
  have nanos := fractionNanos_lt w
  have nanos_lt : w.nanos < 2000000000 := by
    rw [Written.nanos]
    split <;> omega
  refine ⟨⟨w.seconds, w.nanos, w.seconds_inRange, nanos_lt⟩, ?_, rfl, rfl⟩
  have second : (if w.second = 60 then 59 else w.second) = min w.second 59 := by
    have last := w.second_le
    split <;> omega
  have checks : (Date.mk w.year w.month w.day).isValid = true ∧ -262143 ≤ (w.year : Int) ∧
      (w.year : Int) ≤ 262142 ∧ w.hour < 24 ∧ w.minute < 60 ∧ min w.second 59 < 60 ∧
      w.zone.seconds.natAbs < 86400 := by
    have year := w.year_le
    refine ⟨w.isDay, ?_, ?_, w.hour_lt, w.minute_lt, ?_, w.zone.seconds_lt⟩ <;> omega
  simp only [Fields.timestamp?, second, if_pos checks, dayNumber_eq w.isDay]
  exact (dif_pos w.seconds_inRange).trans (dif_pos nanos_lt)

theorem readStrict?_text (w : Written) : ∃ t, readStrict? w.text = some t ∧ w.Denotes t := by
  obtain ⟨t, checked, denotes⟩ := timestamp?_fields w
  refine ⟨t, ?_, denotes⟩
  have days : 1 ≤ w.day ∧ w.day ≤ daysInMonth w.year w.month := Date.isValid_iff.mp w.isDay
  have short := daysInMonth_le w.year w.month
  have months : 1 ≤ w.month ∧ w.month ≤ 12 :=
    month_of_daysInMonth_pos (Nat.le_trans days.1 days.2)
  have four (rest : List Char) :
      readNumber 4 4 (Text.decimalPadded 4 w.year ++ rest) = some (w.year, rest) :=
    readNumber_padded (by decide) (Nat.lt_succ_of_le w.year_le)
      (Nat.lt_of_le_of_lt w.year_le (by decide)) rest
  have month : w.month < 100 := by omega
  have day : w.day < 100 := by omega
  have hour : w.hour < 100 := Nat.lt_trans w.hour_lt (by decide)
  have minute : w.minute < 100 := Nat.lt_trans w.minute_lt (by decide)
  have second : w.second < 100 := Nat.lt_of_le_of_lt w.second_le (by decide)
  -- One part after the other, each in front of the rest of the text.
  refine (bind_of_read (four _)).trans ?_
  refine (bind_of_read (readChar_cons '-' _)).trans ?_
  refine (bind_of_read (readNumber_two month _)).trans ?_
  refine (bind_of_read (readChar_cons '-' _)).trans ?_
  refine (bind_of_read (readNumber_two day _)).trans ?_
  refine (bind_of_read (readSeparator_text w _)).trans ?_
  refine (bind_of_read (readNumber_two hour _)).trans ?_
  refine (bind_of_read (readChar_cons ':' _)).trans ?_
  refine (bind_of_read (readNumber_two minute _)).trans ?_
  refine (bind_of_read (readChar_cons ':' _)).trans ?_
  refine (bind_of_read (readNumber_two second _)).trans ?_
  refine (bind_of_read (readFraction_text w)).trans ?_
  refine (bind_of_read (readOffset_text w.zone)).trans ?_
  exact (if_pos rfl).trans checked

end SqlWeave.Time

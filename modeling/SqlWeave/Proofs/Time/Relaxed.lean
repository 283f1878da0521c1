import SqlWeave.Proofs.Time.Dates
import SqlWeave.Proofs.Time.Strict

/-!
# Written timestamps read back

The text of a timestamp is read by the relaxed reader, and what is read has that text
(`readRelaxed?_text`). It is the timestamp itself, unless a leap second stands within a minute: that
one prints as the second behind it.
-/
namespace SqlWeave.Time

/-! ### Characters -/

theorem isBlank_of_isDigit {c : Char} (isDigit : c.isDigit = true) : Text.isBlank c = false :=
  Text.of_isDigit (Text.isBlank · = false) (by decide) isDigit

theorem trimStart_cons {c : Char} (noBlank : Text.isBlank c = false) (rest : List Char) :
    Text.trimStart (c :: rest) = c :: rest :=
  List.dropWhile_cons_of_neg (by simp [noBlank])

theorem exists_decimalPadded_eq_cons (width n : Nat) :
    ∃ first others, Text.decimalPadded width n = first :: others ∧ first.isDigit = true := by
  have nonempty : Text.decimalPadded width n ≠ [] :=
    List.append_ne_nil_of_right_ne_nil _ (Text.Digits.ofNat n).nonempty
  obtain ⟨first, others, padded⟩ := List.exists_cons_of_ne_nil nonempty
  have member : first ∈ Text.decimalPadded width n := padded ▸ List.mem_cons_self
  exact ⟨first, others, padded, Text.isDigit_of_mem_decimalPadded first member⟩

theorem trimStart_decimalPadded (width n : Nat) (rest : List Char) :
    Text.trimStart (Text.decimalPadded width n ++ rest) = Text.decimalPadded width n ++ rest := by
  obtain ⟨first, others, padded, isDigit⟩ := exists_decimalPadded_eq_cons width n
  rw [padded, List.cons_append, trimStart_cons (isBlank_of_isDigit isDigit)]

/-! ### The parts of a text -/

theorem readNumber_digits {least most width n : Nat} {c : Char} (noDigit : c.isDigit = false)
    (small : n < 0x8000000000000000) (enough : least ≤ (Text.decimalPadded width n).length)
    (fits : (Text.decimalPadded width n).length ≤ most) (rest : List Char) :
    readNumber least most (Text.decimalPadded width n ++ c :: rest) = some (n, c :: rest) := by
  have digits : ((Text.decimalPadded width n ++ c :: rest).take most).takeWhile Char.isDigit =
      Text.decimalPadded width n := by
    rw [takeWhile_take (fun _ => Text.isDigit_of_mem_decimalPadded _) noDigit,
      List.take_of_length_le fits]
  simp only [readNumber, digits, Text.decimalValue_decimalPadded, enough, small, and_self, if_true,
    List.drop_left]

theorem readLoose_padded {n : Nat} {c : Char} (noDigit : c.isDigit = false) (small : n < 100)
    (rest : List Char) :
    readLoose 2 (Text.decimalPadded 2 n ++ c :: rest) = some (n, c :: rest) := by
  have length := Text.length_decimalPadded (by decide) (show n < Nat.pow 10 2 from small)
  rw [readLoose, trimStart_decimalPadded,
    readNumber_digits noDigit (by omega) (by omega) (Nat.le_of_eq length)]

theorem readLooseChar_cons {c : Char} (noBlank : Text.isBlank c = false) (rest : List Char) :
    readLooseChar c (c :: rest) = some ((), rest) := by
  rw [readLooseChar, trimStart_cons noBlank, readChar_cons]

theorem readSeparator_cons (rest : List Char) : readSeparator ('T' :: rest) = some ((), rest) := rfl

theorem readLooseYear_digit {first : Char} (isDigit : first.isDigit = true) (others : List Char) :
    readLooseYear (first :: others) =
      (readNumber 1 4 (first :: others)).map fun (year, rest) => ((year : Int), rest) := by
  have noSign {sign : Char} (other : sign.isDigit = false) : first ≠ sign := by
    rintro rfl
    simp [other] at isDigit
  rw [readLooseYear, trimStart_cons (isBlank_of_isDigit isDigit)]
  split
  next same => exact absurd (List.cons.inj same).1 (noSign (by decide))
  next same => exact absurd (List.cons.inj same).1 (noSign (by decide))
  next => rfl

/-- The years of timestamps, and many more. -/
theorem readLooseYear_yearText {year : Int} (small : year.natAbs < 0x8000000000000000)
    (rest : List Char) :
    readLooseYear (yearText year ++ '-' :: rest) = some (year, '-' :: rest) := by
  have hyphen : '-'.isDigit = false := by decide
  have positive : 1 ≤ (Text.decimalPadded 4 year.natAbs).length := by
    obtain ⟨first, others, padded, -⟩ := exists_decimalPadded_eq_cons 4 year.natAbs
    simp [padded]
  unfold yearText
  split
  next plain =>
    -- Without a sign four digits are read, and there are no more.
    have length := Text.length_decimalPadded (by decide)
      (show year.natAbs < Nat.pow 10 4 by show year.natAbs < 10000; omega)
    have number : readNumber 1 4 (Text.decimalPadded 4 year.natAbs ++ '-' :: rest) = _ :=
      readNumber_digits hyphen small positive (Nat.le_of_eq length) rest
    obtain ⟨first, others, padded, isDigit⟩ := exists_decimalPadded_eq_cons 4 year.natAbs
    have same : (year.natAbs : Int) = year := by omega
    rw [padded, List.cons_append] at number ⊢
    simp only [readLooseYear_digit isDigit, number, Option.map_some, same]
  next signed =>
    -- Behind a sign the number of digits has no limit.
    have number : readNumber 1 (Text.decimalPadded 4 year.natAbs ++ '-' :: rest).length
        (Text.decimalPadded 4 year.natAbs ++ '-' :: rest) = _ :=
      readNumber_digits hyphen small positive (by simp) rest
    by_cases negative : year < 0
    · have same : -(year.natAbs : Int) = year := by omega
      rw [if_pos negative, List.cons_append, readLooseYear, trimStart_cons (by decide)]
      simp only [number, Option.map_some, same]
    · have same : (year.natAbs : Int) = year := by omega
      rw [if_neg negative, List.cons_append, readLooseYear, trimStart_cons (by decide)]
      simp only [number, Option.map_some, same]

/-- Digits behind the point, nine of which count. -/
theorem readFraction_padded {width n : Nat} (positive : 0 < width) (most : width ≤ 9)
    (small : n < Nat.pow 10 width) :
    readFraction ('.' :: Text.decimalPadded width n ++ ['Z']) =
      some (n * Nat.pow 10 (9 - width), ['Z']) := by
  have length := Text.length_decimalPadded positive small
  have digits : ((Text.decimalPadded width n ++ ['Z']).take 9).takeWhile Char.isDigit =
      Text.decimalPadded width n := by
    rw [takeWhile_take (fun _ => Text.isDigit_of_mem_decimalPadded _) (by decide),
      List.take_of_length_le (by omega)]
  have nonempty : Text.decimalPadded width n ≠ [] := by
    rw [← List.length_pos_iff]
    omega
  simp only [readFraction, List.cons_append, digits, if_neg nonempty, length,
    Text.decimalValue_decimalPadded, List.drop_left' length]
  rfl

theorem readFraction_fractionText {nanos : Nat} (small : nanos < 1000000000) :
    readFraction (fractionText nanos ++ ['Z']) = some (nanos, ['Z']) := by
  have millis : nanos / 1000000 < Nat.pow 10 3 := by
    show nanos / 1000000 < 1000
    omega
  have micros : nanos / 1000 < Nat.pow 10 6 := by
    show nanos / 1000 < 1000000
    omega
  -- The digits that are left out are zeros.
  have scaled {unit : Nat} (whole : nanos % unit = 0) :
      some (nanos / unit * unit, ['Z']) = some (nanos, ['Z']) := by
    rw [Nat.div_mul_cancel (Nat.dvd_of_mod_eq_zero whole)]
  unfold fractionText
  split_ifs with zero whole whole
  · rw [zero]
    rfl
  · rw [readFraction_padded (by decide) (by decide) millis]
    exact scaled whole
  · rw [readFraction_padded (by decide) (by decide) micros]
    exact scaled whole
  · rw [readFraction_padded (by decide) (by decide) small]
    exact congrArg (fun nanos => some (nanos, ['Z'])) (Nat.mul_one nanos)

/-! ### The whole text -/

/-- The text of calendar and clock numbers in UTC. -/
def Fields.text (f : Fields) : List Char :=
  yearText f.year ++ '-' :: (Text.decimalPadded 2 f.month ++ '-' ::
    (Text.decimalPadded 2 f.day ++ 'T' :: (Text.decimalPadded 2 f.hour ++ ':' ::
      (Text.decimalPadded 2 f.minute ++ ':' :: (Text.decimalPadded 2 f.second ++
        (fractionText f.nanos ++ ['Z']))))))

/-- The numbers have no more digits than the text has room for. -/
structure Fields.Fit (f : Fields) : Prop where
  year : f.year.natAbs < 0x8000000000000000
  month : f.month < 100
  day : f.day < 100
  hour : f.hour < 100
  minute : f.minute < 100
  second : f.second < 100
  nanos : f.nanos < 1000000000
  offset : f.offset = 0

theorem readRelaxed?_fields {f : Fields} (fit : f.Fit) : readRelaxed? f.text = f.timestamp? := by
  obtain ⟨c, rest, fraction, noDigit⟩ :
      ∃ c rest, fractionText f.nanos ++ ['Z'] = c :: rest ∧ c.isDigit = false := by
    unfold fractionText
    split_ifs <;> exact ⟨_, _, rfl, by decide⟩
  have second := readLoose_padded noDigit fit.second rest
  rw [← fraction] at second
  -- One part after the other, each in front of the rest of the text.
  refine (bind_of_read (readLooseYear_yearText fit.year _)).trans ?_
  refine (bind_of_read (readLooseChar_cons (c := '-') (by decide) _)).trans ?_
  refine (bind_of_read (readLoose_padded (c := '-') (by decide) fit.month _)).trans ?_
  refine (bind_of_read (readLooseChar_cons (c := '-') (by decide) _)).trans ?_
  refine (bind_of_read (readLoose_padded (c := 'T') (by decide) fit.day _)).trans ?_
  refine (bind_of_read (readSeparator_cons _)).trans ?_
  refine (bind_of_read (readLoose_padded (c := ':') (by decide) fit.hour _)).trans ?_
  refine (bind_of_read (readLooseChar_cons (c := ':') (by decide) _)).trans ?_
  refine (bind_of_read (readLoose_padded (c := ':') (by decide) fit.minute _)).trans ?_
  refine (bind_of_read (readLooseChar_cons (c := ':') (by decide) _)).trans ?_
  refine (bind_of_read second).trans ?_
  refine (bind_of_read (readFraction_fractionText fit.nanos)).trans ?_
  refine (bind_of_read (rfl : readLooseOffset ['Z'] = some (0, []))).trans ?_
  obtain ⟨year, month, day, hour, minute, second, nanos, offset⟩ := f
  obtain rfl : offset = 0 := fit.offset
  exact if_pos rfl

/-! ### Timestamps -/

namespace Timestamp

/-- The calendar and clock numbers that a timestamp prints. -/
def fields (t : Timestamp) : Fields :=
  let date := Date.ofDayNumber (t.seconds / 86400)
  let secondOfDay := (t.seconds % 86400).toNat
  ⟨date.year, date.month, date.day, secondOfDay / 3600, secondOfDay / 60 % 60,
    secondOfDay % 60 + if t.isLeap then 1 else 0, t.nanos % 1000000000, 0⟩

theorem text_fields (t : Timestamp) : t.fields.text = t.text := by
  simp [Fields.text, fields, text]

theorem days_inRange (t : Timestamp) :
    firstSecond / 86400 ≤ t.seconds / 86400 ∧ t.seconds / 86400 ≤ lastSecond / 86400 :=
  ⟨Int.ediv_le_ediv (by decide) t.inRange.1, Int.ediv_le_ediv (by decide) t.inRange.2⟩

theorem fit_fields (t : Timestamp) : t.fields.Fit where
  year := by
    have years := year_ofDayNumber t.days_inRange.1 t.days_inRange.2
    show (Date.ofDayNumber (t.seconds / 86400)).year.natAbs < _
    omega
  month := by
    have days := Date.isValid_iff.mp (isValid_ofDayNumber (t.seconds / 86400))
    have months := month_of_daysInMonth_pos (Nat.le_trans days.1 days.2)
    exact Nat.lt_of_le_of_lt months.2 (by decide)
  day := by
    have days := Date.isValid_iff.mp (isValid_ofDayNumber (t.seconds / 86400))
    have short := Nat.le_trans days.2 (daysInMonth_le _ _)
    exact Nat.lt_of_le_of_lt short (by decide)
  hour := by
    show (t.seconds % 86400).toNat / 3600 < 100
    omega
  minute := by
    show (t.seconds % 86400).toNat / 60 % 60 < 100
    omega
  second := by
    show (t.seconds % 86400).toNat % 60 + (if t.isLeap then 1 else 0) < 100
    split <;> omega
  nanos := Nat.mod_lt _ (by decide)
  offset := rfl

theorem isLeap_iff {t : Timestamp} : t.isLeap = true ↔ 1000000000 ≤ t.nanos := by
  simp [isLeap]

/-- A leap second stands at the end of its minute. -/
def IsSettled (t : Timestamp) : Prop := t.isLeap = true → t.seconds % 60 = 59

theorem IsSettled.second_fields_eq_iff {t : Timestamp} (settled : t.IsSettled) :
    t.fields.second = 60 ↔ t.isLeap = true := by
  cases isLeap : t.isLeap with
  | false =>
    simp only [fields, isLeap, Bool.false_eq_true, if_false, iff_false]
    omega
  | true =>
    have last := settled isLeap
    simp only [fields, isLeap, if_true, iff_true]
    omega

theorem IsSettled.timestamp?_fields {t : Timestamp} (settled : t.IsSettled) :
    t.fields.timestamp? = some t := by
  have leap := settled.second_fields_eq_iff
  -- Second 60 is read as second 59, and the nanoseconds are a whole second more.
  have second : (if t.fields.second = 60 then 59 else t.fields.second) =
      (t.seconds % 86400).toNat % 60 := by
    by_cases isLeap : t.isLeap = true
    · have last := settled isLeap
      rw [if_pos (leap.mpr isLeap)]
      omega
    · rw [if_neg (mt leap.mp isLeap)]
      simp [fields, isLeap]
  have nanos : t.fields.nanos + (if t.fields.second = 60 then 1000000000 else 0) = t.nanos := by
    have nanos_lt := t.nanos_lt
    simp only [leap, isLeap_iff]
    show t.nanos % 1000000000 + _ = t.nanos
    split <;> omega
  have clock : (Date.ofDayNumber (t.seconds / 86400)).dayNumber * 86400 + t.fields.hour * 3600 +
      t.fields.minute * 60 + ((t.seconds % 86400).toNat % 60 : Nat) - t.fields.offset =
        t.seconds := by
    rw [dayNumber_ofDayNumber]
    simp only [fields]
    omega
  have years := year_ofDayNumber t.days_inRange.1 t.days_inRange.2
  have checks : (Date.ofDayNumber (t.seconds / 86400)).isValid = true ∧
      -262143 ≤ t.fields.year ∧ t.fields.year ≤ 262142 ∧ t.fields.hour < 24 ∧
      t.fields.minute < 60 ∧ (t.seconds % 86400).toNat % 60 < 60 ∧
      t.fields.offset.natAbs < 86400 := by
    refine ⟨isValid_ofDayNumber _, years.1, years.2, ?_, Nat.mod_lt _ (by decide),
      Nat.mod_lt _ (by decide), (by decide : (0 : Int).natAbs < 86400)⟩
    simp only [fields]
    omega
  have date : (⟨t.fields.year, t.fields.month, t.fields.day⟩ : Date) =
      Date.ofDayNumber (t.seconds / 86400) := rfl
  simp only [Fields.timestamp?, date, second, nanos]
  rw [if_pos checks, clock]
  exact (dif_pos t.inRange).trans (dif_pos t.nanos_lt)

/-- The leap second within a minute is written as the second behind it. -/
theorem exists_isSettled (t : Timestamp) :
    ∃ settled : Timestamp, settled.IsSettled ∧ settled.text = t.text := by
  by_cases settled : t.IsSettled
  · exact ⟨t, settled, rfl⟩
  · obtain ⟨isLeap, within⟩ := Classical.not_imp.mp settled
    obtain ⟨first, last⟩ := t.inRange
    have nanos_lt := t.nanos_lt
    simp only [firstSecond, lastSecond] at first last
    rw [isLeap_iff] at isLeap
    -- Within a minute a leap second prints the next second. That one is a timestamp, as the last
    -- second of all ends a minute.
    have next : ∃ next : Timestamp, next.seconds = t.seconds + 1 ∧
        next.nanos = t.nanos - 1000000000 :=
      ⟨⟨t.seconds + 1, t.nanos - 1000000000,
        ⟨by simp only [firstSecond]; omega, by simp only [lastSecond]; omega⟩, by omega⟩, rfl, rfl⟩
    obtain ⟨next, seconds, nanos⟩ := next
    have noLeap : ¬ next.isLeap = true := by
      rw [isLeap_iff]
      omega
    refine ⟨next, fun leap => absurd leap noLeap, ?_⟩
    have day : next.seconds / 86400 = t.seconds / 86400 := by omega
    have clock : (next.seconds % 86400).toNat = (t.seconds % 86400).toNat + 1 := by omega
    have same : next.fields = t.fields := by
      simp only [fields, day, clock, noLeap, isLeap_iff.mpr isLeap, nanos, Fields.mk.injEq,
        true_and, and_true, Bool.false_eq_true, if_false, if_true]
      omega
    rw [← text_fields, same, text_fields]

end Timestamp

/-- What is read of the text of a timestamp has that text. -/
theorem readRelaxed?_text (t : Timestamp) :
    ∃ same, readRelaxed? t.text = some same ∧ same.text = t.text := by
  obtain ⟨same, settled, text⟩ := t.exists_isSettled
  refine ⟨same, ?_, text⟩
  rw [← text, ← same.text_fields, readRelaxed?_fields same.fit_fields, settled.timestamp?_fields]

end SqlWeave.Time

import SqlWeave.Proofs.Bytes
import SqlWeave.Proofs.Postgres.Encoding
import SqlWeave.Proofs.Time.Strict

/-!
# Instants as parameters

Both types of timestamps are sent as the microseconds from 2000-01-01 to the instant, whichever
scalar gives it and whatever clock a text shows (`sentAs_instant`). The order of instants is kept,
and whole microseconds are found again.
-/
namespace SqlWeave.Postgres

/-- Nanoseconds since 1970-01-01T00:00:00Z; those of a leap second are also those of the next
one. -/
def nanoseconds (t : Time.Timestamp) : Int := t.seconds * 1000000000 + t.nanos

/-- Comes the first instant before the second? A leap second comes before the next second. -/
def IsBefore (s t : Time.Timestamp) : Prop :=
  s.seconds < t.seconds ∨ s.seconds = t.seconds ∧ s.nanos < t.nanos

/-- A timestamp gives itself, and a text of RFC 3339 the instant that it denotes. -/
inductive Gives : Scalar → Time.Timestamp → Prop
  | timestamp (t : Time.Timestamp) : Gives (.timestamp t) t
  | text {w : Time.Written} {t : Time.Timestamp} :
      w.Denotes t → Gives (.string (String.ofList w.text)) t

/-- The instant that eight bytes stand for, if it lies in the supported years. -/
def readTimestamp? (bytes : List UInt8) : Option Time.Timestamp :=
  if bytes.length = 8 then
    let count := Bytes.ofTwosComplement bytes
    Time.Timestamp.ofParts? (epochSeconds + count / 1000000) ((count % 1000000).toNat * 1000)
  else none

theorem epochSeconds_eq : epochSeconds = Time.daysSinceEpoch 2000 1 1 * 86400 := by
  have day : (Time.Date.mk (2000 : Nat) 1 1).dayNumber = Time.daysSinceEpoch 2000 1 1 :=
    Time.dayNumber_eq (by decide)
  rw [← day]
  rfl

theorem microseconds_eq (t : Time.Timestamp) : microseconds t =
    Int.tdiv (nanoseconds t - Time.daysSinceEpoch 2000 1 1 * 86400 * 1000000000) 1000 := by
  rw [← epochSeconds_eq, microseconds, nanoseconds, Int.sub_mul]
  congr 1
  omega

/-! ### Bytes -/

theorem ofTwosComplement_microseconds (t : Time.Timestamp) :
    Bytes.ofTwosComplement (Bytes.twosComplement 8 (microseconds t)) = microseconds t := by
  obtain ⟨low, high⟩ := microseconds_inRange t
  have range : Nat.pow 256 8 = 0x10000000000000000 := rfl
  apply Bytes.ofTwosComplement_twosComplement <;> rw [range] <;> omega

theorem encodeTimestamp_eq (t : Time.Timestamp) :
    encodeTimestamp t = .ok (Bytes.twosComplement 8 (microseconds t)) := by
  rw [encodeTimestamp, if_pos (microseconds_inRange t), Bytes.bigEndian_int64]

theorem nanoseconds_le {s t : Time.Timestamp} (noLeap : s.isLeap = false) (before : IsBefore s t) :
    nanoseconds s ≤ nanoseconds t := by
  have within : s.nanos < 1000000000 := by simpa [Time.Timestamp.isLeap] using noLeap
  unfold nanoseconds
  rcases before with earlier | ⟨same, earlier⟩ <;> omega

theorem microseconds_le {s t : Time.Timestamp} (noLeap : s.isLeap = false) (before : IsBefore s t) :
    microseconds s ≤ microseconds t := by
  rw [microseconds_eq, microseconds_eq]
  exact Int.tdiv_le_tdiv (by decide) (Int.sub_le_sub_right (nanoseconds_le noLeap before) _)

theorem readTimestamp?_microseconds {t : Time.Timestamp} (noLeap : t.isLeap = false)
    (whole : t.nanos % 1000 = 0) :
    readTimestamp? (Bytes.twosComplement 8 (microseconds t)) = some t := by
  obtain ⟨seconds, nanos, inRange, nanos_lt⟩ := t
  have within : nanos < 1000000000 := by simpa [Time.Timestamp.isLeap] using noLeap
  have thousands : nanos % 1000 = 0 := whole
  -- Nothing is cut off a whole number of microseconds, before the epoch either.
  have count : microseconds ⟨seconds, nanos, inRange, nanos_lt⟩ =
      (seconds - epochSeconds) * 1000000 + (nanos / 1000 : Nat) := by
    have exact : (seconds - epochSeconds) * 1000000000 + nanos =
        1000 * ((seconds - epochSeconds) * 1000000 + (nanos / 1000 : Nat)) := by omega
    rw [microseconds, exact, Int.mul_tdiv_cancel_left _ (by decide)]
  have back : epochSeconds + microseconds ⟨seconds, nanos, inRange, nanos_lt⟩ / 1000000 =
      seconds := by
    rw [count]
    omega
  have rest : (microseconds ⟨seconds, nanos, inRange, nanos_lt⟩ % 1000000).toNat * 1000 =
      nanos := by
    rw [count]
    omega
  rw [readTimestamp?, if_pos (Bytes.length_twosComplement 8 _)]
  simp only [ofTwosComplement_microseconds, back, rest]
  exact (dif_pos inRange).trans (dif_pos nanos_lt)

/-! ### Scalars -/

theorem Gives.instantOf_eq {scalar : Scalar} {t : Time.Timestamp} (gives : Gives scalar t) :
    Carrier.instantOf scalar = .ok t := by
  cases gives with
  | timestamp t => rfl
  | @text w t denotes =>
    obtain ⟨found, read, same⟩ := Time.readStrict?_text w
    rw [Carrier.instantOf, String.toList_ofList, read, same.unique denotes]

theorem Gives.sentAs_iff {scalar : Scalar} {t : Time.Timestamp} (gives : Gives scalar t)
    {type : BaseType} (isInstant : type = .timestamptz ∨ type = .timestamp) {bytes : List UInt8} :
    SentAs (.base type) scalar bytes ↔ bytes = Bytes.twosComplement 8 (microseconds t) := by
  have noList : scalar.kind ≠ .list := by cases gives <;> exact fun list => nomatch list
  have value : scalar.isNull = false := by cases gives <;> rfl
  have held := gives.instantOf_eq
  -- The carriers differ, but both hold the instant.
  rcases isInstant with rfl | rfl
  all_goals
    rw [sentAs_base_iff rfl noList]
    simp only [BaseType.carrier, Carrier.holdOptional, value, Carrier.hold, held, encodeDatum,
      encodeTimestamp_eq, Except.map]
    simp [eq_comm]

/-- An instant is sent as its microseconds since 2000-01-01, cut off toward zero, as either type and
from every text that denotes it. The count fits in 64 bits. Leap seconds apart, an earlier instant
never has a larger count, and an instant of whole microseconds is found again. -/
theorem sentAs_instant :
    let count (t : Time.Timestamp) :=
      Int.tdiv (nanoseconds t - Time.daysSinceEpoch 2000 1 1 * 86400 * 1000000000) 1000
    (∀ w : Time.Written, ∃ t, w.Denotes t) ∧
    (∀ scalar t, Gives scalar t → ∀ type, type = .timestamptz ∨ type = .timestamp → ∀ bytes,
      SentAs (.base type) scalar bytes ↔ bytes = Bytes.twosComplement 8 (count t)) ∧
    (∀ t, Bytes.ofTwosComplement (Bytes.twosComplement 8 (count t)) = count t) ∧
    (∀ s t : Time.Timestamp, s.isLeap = false → t.isLeap = false → IsBefore s t →
      count s ≤ count t) ∧
    ∀ t : Time.Timestamp, t.isLeap = false → t.nanos % 1000 = 0 →
      readTimestamp? (Bytes.twosComplement 8 (count t)) = some t := by
  intro count
  have same (t : Time.Timestamp) : count t = microseconds t := (microseconds_eq t).symm
  simp only [same]
  refine ⟨fun w => ?_, fun scalar t gives type isInstant bytes => gives.sentAs_iff isInstant,
    ofTwosComplement_microseconds, fun s t noLeap _ => microseconds_le noLeap,
    fun t => readTimestamp?_microseconds⟩
  obtain ⟨t, -, denotes⟩ := Time.readStrict?_text w
  exact ⟨t, denotes⟩

/-- A tenth of a microsecond before 2000, by two clocks. -/
theorem sentAs_instant_clocks :
    (∃ t, Gives (.string "1999-12-31T23:59:59.9999999Z") t ∧
      Gives (.string "2000-01-01t01:29:59.9999999+01:30") t) ∧
    SentAs (.base .timestamptz) (.string "1999-12-31T23:59:59.9999999Z") [0, 0, 0, 0, 0, 0, 0, 0] ∧
    SentAs (.base .timestamp) (.string "2000-01-01t01:29:59.9999999+01:30")
      [0, 0, 0, 0, 0, 0, 0, 0] := by
  let digits : Text.Digits := ⟨List.replicate 7 '9', by simp, fun c member => by
    rw [List.eq_of_mem_replicate member]
    rfl⟩
  let utc : Time.Written := ⟨1999, 12, 31, 'T', 23, 59, 59, some digits, .utc 'Z' (.inl rfl),
    by decide, by decide, by decide, by decide, by decide, by decide⟩
  let east : Time.Written := ⟨2000, 1, 1, 't', 1, 29, 59, some digits,
    .offset '+' 1 30 (.inl rfl) (by decide) (by decide),
    by decide, by decide, by decide, by decide, by decide, by decide⟩
  let t : Time.Timestamp := ⟨946684799, 999999900, by decide, by decide⟩
  have first : utc.Denotes t := by
    refine ⟨?_, by decide⟩
    rw [Time.Written.seconds, ← Time.dayNumber_eq utc.isDay]
    decide
  have second : east.Denotes t := by
    refine ⟨?_, by decide⟩
    rw [Time.Written.seconds, ← Time.dayNumber_eq east.isDay]
    decide
  have count : Int.tdiv
      (nanoseconds t - Time.daysSinceEpoch 2000 1 1 * 86400 * 1000000000) 1000 = 0 := by
    rw [← microseconds_eq]
    rfl
  obtain ⟨-, sent, -⟩ := sentAs_instant
  have zeros : [0, 0, 0, 0, 0, 0, 0, 0] = Bytes.twosComplement 8 (Int.tdiv
      (nanoseconds t - Time.daysSinceEpoch 2000 1 1 * 86400 * 1000000000) 1000) := by
    rw [count]
    rfl
  have here := (sent _ t (.text first) .timestamptz (.inl rfl) _).mpr zeros
  have there := (sent _ t (.text second) .timestamp (.inr rfl) _).mpr zeros
  have texts : String.ofList utc.text = "1999-12-31T23:59:59.9999999Z" ∧
      String.ofList east.text = "2000-01-01t01:29:59.9999999+01:30" := by decide
  rw [texts.1] at here
  rw [texts.2] at there
  exact ⟨⟨t, texts.1 ▸ .text first, texts.2 ▸ .text second⟩, here, there⟩

end SqlWeave.Postgres

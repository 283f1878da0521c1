import SqlWeave.Proofs.Bytes
import SqlWeave.Proofs.Postgres.Arrays
import SqlWeave.Proofs.Text.Utf8
import SqlWeave.Proofs.Uuid

/-!
# Scalars that arrive unchanged

Whole numbers, UUIDs and texts are found again in the bytes that they are sent as, and what would
not be found again does not bind (`sentAs_unchanged`).
-/
namespace SqlWeave.Postgres

/-- The scalar is bound to the type and sent as null. -/
def SentAsNull (type : ServerType) (scalar : Scalar) : Prop :=
  ∃ param, bind type scalar = .ok param ∧ param.encode type = .ok none

theorem sentAsNull_iff {type : BaseType} (known : type.isForeign = false) {scalar : Scalar} :
    SentAsNull (.base type) scalar ↔ scalar = .null := by
  constructor
  · rintro ⟨param, bound, sent⟩
    exact ((encode_of_bind bound).null.mp sent).2
  · rintro rfl
    have bound : bind (.base type) .null = .ok ⟨type.carrier, .single none⟩ :=
      bind_base_eq_ok_iff.mpr ⟨nofun, none, holdOptional_null _, rfl⟩
    exact ⟨_, bound, encode_single_none known⟩

/-! ### Whole numbers -/

/-- The number of bytes of a type of whole numbers. -/
def BaseType.wholeBytes? : BaseType → Option Nat
  | int2 => some 2
  | int4 => some 4
  | int8 => some 8
  | _ => none

theorem map_boundedNumber_eq_ok_iff {α : Type} {least greatest : Int} {target : String} {n : Int64}
    {f : Int → α} {x : α} :
    (Carrier.boundedNumber least greatest target (.int n)).map f = .ok x ↔
      (least ≤ n.toInt ∧ n.toInt ≤ greatest) ∧ f n.toInt = x := by
  have bounded : Carrier.boundedNumber least greatest target (.int n) =
      if least ≤ n.toInt ∧ n.toInt ≤ greatest then .ok n.toInt else .error (.range n target) := rfl
  rw [bounded]
  split
  next inside => simp [Except.map, inside]
  next outside => simp [Except.map, outside]

theorem holdOptional_int_eq_ok_iff {carrier : Carrier} {n : Int64} {held : Option carrier.Datum} :
    carrier.holdOptional (.int n) = .ok held ↔
      ∃ datum, carrier.hold (.int n) = .ok datum ∧ some datum = held := by
  have value : carrier.holdOptional (.int n) = (carrier.hold (.int n)).map some := rfl
  rw [value]
  cases carrier.hold (.int n) <;> simp [Except.map]

section Whole

variable {type : BaseType} {width : Nat} (whole : type.wholeBytes? = some width) {n : Int64}
include whole

theorem isForeign_of_whole : type.isForeign = false := by
  cases type <;> first | rfl | cases whole

theorem exists_hold_int_iff :
    (∃ datum, type.carrier.hold (.int n) = .ok datum) ↔ Bytes.InRange width n.toInt := by
  rw [Bytes.InRange]
  cases type <;> cases whole
  case int2 =>
    have range : Nat.pow 256 2 = 0x10000 := rfl
    simp only [BaseType.carrier, Carrier.hold, map_boundedNumber_eq_ok_iff, range]
    simp
    omega
  case int4 =>
    have range : Nat.pow 256 4 = 0x100000000 := rfl
    simp only [BaseType.carrier, Carrier.hold, map_boundedNumber_eq_ok_iff, range]
    simp
    omega
  case int8 =>
    have low := n.le_toInt
    have high := n.toInt_lt
    have range : Nat.pow 256 8 = 0x10000000000000000 := rfl
    rw [range]
    exact iff_of_true ⟨n, rfl⟩ (by omega)

theorem encodeDatum_int {datum : type.carrier.Datum}
    (held : type.carrier.hold (.int n) = .ok datum) :
    encodeDatum type type.carrier datum = .ok (Bytes.twosComplement width n.toInt) := by
  cases type <;> cases whole
  case int2 =>
    obtain ⟨-, rfl⟩ := map_boundedNumber_eq_ok_iff.mp held
    exact congrArg Except.ok (Bytes.bigEndian_int16 n.toInt)
  case int4 =>
    obtain ⟨-, rfl⟩ := map_boundedNumber_eq_ok_iff.mp held
    exact congrArg Except.ok (Bytes.bigEndian_int32 n.toInt)
  case int8 =>
    cases held
    have bits := Bytes.bigEndian_int64 n.toInt
    rw [Int64.ofInt_toInt] at bits
    exact congrArg Except.ok bits

theorem exists_bind_int_iff :
    (∃ param, bind (.base type) (.int n) = .ok param) ↔ Bytes.InRange width n.toInt := by
  have noList : (Scalar.int n).kind ≠ .list := nofun
  rw [← exists_hold_int_iff whole, exists_bind_base_iff noList]
  simp only [holdOptional_int_eq_ok_iff]
  exact ⟨fun ⟨_, datum, held, _⟩ => ⟨datum, held⟩, fun ⟨datum, held⟩ => ⟨_, datum, held, rfl⟩⟩

/-- The bytes stand for the number; the ones that do so are these alone. -/
theorem sentAs_int_iff {bytes : List UInt8} :
    SentAs (.base type) (.int n) bytes ↔ Bytes.InRange width n.toInt ∧ bytes.length = width ∧
      Bytes.ofTwosComplement bytes = n.toInt := by
  have noList : (Scalar.int n).kind ≠ .list := nofun
  rw [sentAs_base_iff (isForeign_of_whole whole) noList, ← exists_hold_int_iff whole]
  simp only [holdOptional_int_eq_ok_iff]
  constructor
  · rintro ⟨datum, ⟨_, held, same⟩, encoded⟩
    cases same
    cases encoded.symm.trans (encodeDatum_int whole held)
    obtain ⟨low, high⟩ := (exists_hold_int_iff whole).mp ⟨datum, held⟩
    exact ⟨⟨datum, held⟩, Bytes.length_twosComplement width _,
      Bytes.ofTwosComplement_twosComplement low high⟩
  · rintro ⟨⟨datum, held⟩, length, stands⟩
    have same : Bytes.twosComplement width n.toInt = bytes := by
      rw [← stands, ← length, Bytes.twosComplement_ofTwosComplement]
    exact ⟨datum, ⟨datum, held, rfl⟩, same ▸ encodeDatum_int whole held⟩

theorem bind_whole_eq_error {scalar : Scalar} (value : scalar ≠ .null)
    (noNumber : ∀ n, scalar ≠ .int n) : ∃ mismatch, bind (.base type) scalar = .error mismatch := by
  cases scalar with
  | null => exact absurd rfl value
  | int n => exact absurd rfl (noNumber n)
  | _ => cases type <;> first | exact ⟨_, rfl⟩ | cases whole

end Whole

/-! ### UUIDs and texts -/

/-- A UUID, or a text that spells it, is sent as its 128 bits. -/
theorem sentAs_uuid_iff {u : Uuid} {scalar : Scalar} (gives : Carrier.uuidOf scalar = .ok u)
    {bytes : List UInt8} :
    SentAs (.base .uuid) scalar bytes ↔
      bytes.length = 16 ∧ Bytes.ofBigEndian bytes = u.value.toNat := by
  have listed : scalar.kind = .list → BaseType.uuid.isDocument = true := by
    intro isList
    cases scalar <;> cases isList
    cases gives
  have value : scalar.isNull = false := by cases scalar <;> first | rfl | cases gives
  have held : BaseType.uuid.carrier.hold scalar = .ok u := gives
  rw [sentAs_of_hold_iff rfl listed value held]
  constructor
  · intro encoded
    have same : Bytes.bigEndian 16 u.value.toNat = bytes := Except.ok.inj encoded
    subst same
    have small : u.value.toNat % Nat.pow 256 16 = u.value.toNat := Nat.mod_eq_of_lt u.value.isLt
    exact ⟨Bytes.length_bigEndian 16 _, (Bytes.ofBigEndian_bigEndian 16 _).trans small⟩
  · rintro ⟨length, stands⟩
    exact congrArg Except.ok (by rw [← stands, ← length, Bytes.bigEndian_ofBigEndian])

/-- A text, or the text of a UUID, is sent as its bytes. -/
theorem sentAs_text_iff {type : BaseType} (isText : type = .text ∨ type = .varchar) {s : String}
    {scalar : Scalar} (gives : Carrier.textOf scalar = .ok s) {bytes : List UInt8} :
    SentAs (.base type) scalar bytes ↔ Text.ofUtf8? bytes = some s := by
  have listed : scalar.kind = .list → type.isDocument = true := by
    intro isList
    cases scalar <;> cases isList
    cases gives
  have value : scalar.isNull = false := by cases scalar <;> first | rfl | cases gives
  rw [Text.ofUtf8?_eq_some_iff]
  -- Both types are held as text.
  rcases isText with rfl | rfl
  · have held : BaseType.text.carrier.hold scalar = .ok s := gives
    rw [sentAs_of_hold_iff rfl listed value held]
    simp [BaseType.carrier, encodeDatum, eq_comm]
  · have held : BaseType.varchar.carrier.hold scalar = .ok s := gives
    rw [sentAs_of_hold_iff rfl listed value held]
    simp [BaseType.carrier, encodeDatum, eq_comm]

/-- A whole number binds exactly to the types that have room for it, a UUID to its own type and,
through its text, back to it, and a text to any type of texts; the bytes stand for what was bound,
and only null is sent as null. -/
theorem sentAs_unchanged :
    (∀ type width, type.wholeBytes? = some width →
      (∀ n : Int64,
        ((∃ param, bind (.base type) (.int n) = .ok param) ↔ Bytes.InRange width n.toInt) ∧
        ∀ bytes, SentAs (.base type) (.int n) bytes ↔
          Bytes.InRange width n.toInt ∧ bytes.length = width ∧
            Bytes.ofTwosComplement bytes = n.toInt) ∧
      ∀ scalar, scalar ≠ .null → (∀ n, scalar ≠ .int n) →
        ∃ mismatch, bind (.base type) scalar = .error mismatch) ∧
    (∀ u : Uuid, SentAs (.base .text) (.uuid u) (Text.utf8Bytes u.text) ∧
      ∀ scalar, scalar = .uuid u ∨ (∃ s, scalar = .string s ∧ u.Spells s.toList) →
        ∀ bytes, SentAs (.base .uuid) scalar bytes ↔
          bytes.length = 16 ∧ Bytes.ofBigEndian bytes = u.value.toNat) ∧
    (∀ s type, type = .text ∨ type = .varchar → ∀ bytes,
      SentAs (.base type) (.string s) bytes ↔ Text.ofUtf8? bytes = some s) ∧
    ∀ type ∈ [.int2, .int4, .int8, .uuid, .text, .varchar], ∀ scalar,
      SentAsNull (.base type) scalar ↔ scalar = .null := by
  refine ⟨fun type width whole => ⟨fun n => ?_, fun scalar => bind_whole_eq_error whole⟩,
    fun u => ⟨?_, fun scalar isUuid bytes => ?_⟩, fun s type isText bytes => ?_,
    fun type known scalar => ?_⟩
  · exact ⟨exists_bind_int_iff whole, fun bytes => sentAs_int_iff whole⟩
  · exact (sentAs_text_iff (.inl rfl) rfl).mpr (Text.ofUtf8?_utf8Bytes u.text)
  · apply sentAs_uuid_iff
    rcases isUuid with rfl | ⟨s, rfl, spells⟩
    · rfl
    · rw [Carrier.uuidOf, spells.read?_eq]
  · exact sentAs_text_iff isText rfl
  · -- All six types have a form of their own.
    apply sentAsNull_iff
    simp only [List.mem_cons, List.not_mem_nil, or_false] at known
    rcases known with rfl | rfl | rfl | rfl | rfl | rfl <;> rfl

/-- The smallest number of two bytes, and a UUID in capital letters without hyphens. -/
theorem sentAs_unchanged_capitals :
    let u : Uuid := ⟨0x67e5504410b1426f9247bb680e5fe0c8⟩
    SentAs (.base .int2) (.int (-32768)) [0x80, 0] ∧
    (∃ mismatch, bind (.base .int2) (.bool true) = .error mismatch) ∧
    u.Spells "67E5504410B1426F9247BB680E5FE0C8".toList ∧
    SentAs (.base .uuid) (.string "67E5504410B1426F9247BB680E5FE0C8")
      [0x67, 0xe5, 0x50, 0x44, 0x10, 0xb1, 0x42, 0x6f, 0x92, 0x47, 0xbb, 0x68, 0x0e, 0x5f, 0xe0,
        0xc8] ∧
    SentAs (.base .varchar) (.string "\u00e9") [0xC3, 0xA9] ∧
    SentAsNull (.base .uuid) .null := by
  intro u
  obtain ⟨whole, uuids, texts, nulls⟩ := sentAs_unchanged
  obtain ⟨numbers, others⟩ := whole .int2 2 rfl
  have spells : u.Spells "67E5504410B1426F9247BB680E5FE0C8".toList := .inr (by decide)
  have bits : Bytes.ofBigEndian [0x67, 0xe5, 0x50, 0x44, 0x10, 0xb1, 0x42, 0x6f, 0x92, 0x47, 0xbb,
      0x68, 0x0e, 0x5f, 0xe0, 0xc8] = u.value.toNat := by decide
  have number : Bytes.InRange 2 (-32768) ∧ Bytes.ofTwosComplement [0x80, 0] = -32768 :=
    ⟨⟨by decide, by decide⟩, by decide⟩
  have text : Text.ofUtf8? [0xC3, 0xA9] = some "\u00e9" := by decide
  exact ⟨((numbers (-32768)).2 _).mpr ⟨number.1, rfl, number.2⟩, others _ nofun nofun, spells,
    ((uuids u).2 _ (.inr ⟨_, rfl, spells⟩) _).mpr ⟨rfl, bits⟩, (texts _ _ (.inr rfl) _).mpr text,
    (nulls .uuid (by decide) .null).mpr rfl⟩

end SqlWeave.Postgres

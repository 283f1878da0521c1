import SqlWeave.Postgres.Encoding
import SqlWeave.Proofs.Postgres.Binding

/-!
# Parameters that can be sent

What has been bound to a type is sent as that type, with two exceptions (`encode_of_bindAll`). A
type without a form of its own is bound as text, which is not sent as that type, whatever the value,
even null. And the frame of an array has no room for very many items or very long ones.
-/
namespace SqlWeave.Postgres

/-! ### Values -/

/-- The timestamps of the supported years are counted in 64 bits. -/
theorem microseconds_inRange (t : Time.Timestamp) :
    -0x8000000000000000 ≤ microseconds t ∧ microseconds t < 0x8000000000000000 := by
  obtain ⟨seconds, nanos, ⟨first, last⟩, nanos_lt⟩ := t
  simp only [Time.firstSecond, Time.lastSecond] at first last
  simp only [microseconds, epochSeconds]
  -- Cutting off toward zero is rounding down, except for the negative ones.
  rw [Int.tdiv_eq_ediv, show Int.sign 1000 = 1 from rfl]
  split <;> omega

theorem exists_encodeDatum (type : BaseType) (carrier : Carrier) (datum : carrier.Datum) :
    ∃ bytes, encodeDatum type carrier datum = .ok bytes := by
  cases carrier with
  | instant => exact ⟨_, if_pos (microseconds_inRange datum)⟩
  | clock => exact ⟨_, if_pos (microseconds_inRange datum)⟩
  | bool | int16 | int32 | int64 | single | double | uuid | document | text => exact ⟨_, rfl⟩

/-! ### Arrays -/

section Arrays

variable {type : BaseType} {carrier : Carrier}

/-- The item of an array takes no more bytes than its length can tell. -/
def ItemFits (type : BaseType) (carrier : Carrier) (item : Option carrier.Datum) : Prop :=
  ∀ datum ∈ item, ∀ bytes, encodeDatum type carrier datum = .ok bytes → bytes.length < 0x80000000

theorem encodeItem_some {datum : carrier.Datum} {bytes : List UInt8}
    (encoded : encodeDatum type carrier datum = .ok bytes) :
    encodeItem type carrier (some datum) =
      if bytes.length < 0x80000000 then .ok (Bytes.bigEndian 4 bytes.length ++ bytes)
      else .error .tooLarge := by
  rw [encodeItem, encoded]
  rfl

theorem exists_encodeItem_iff {item : Option carrier.Datum} :
    (∃ bytes, encodeItem type carrier item = .ok bytes) ↔ ItemFits type carrier item := by
  cases item with
  | none => simp [encodeItem, ItemFits]
  | some datum =>
    obtain ⟨bytes, encoded⟩ := exists_encodeDatum type carrier datum
    rw [encodeItem_some encoded]
    split <;> simp_all [ItemFits]

/-- Only room can be missing. -/
theorem encodeItem_ne_wrongType (item : Option carrier.Datum) :
    encodeItem type carrier item ≠ .error .wrongType := by
  cases item with
  | none => simp [encodeItem]
  | some datum =>
    obtain ⟨bytes, encoded⟩ := exists_encodeDatum type carrier datum
    rw [encodeItem_some encoded]
    split <;> simp

theorem exists_encodeArray_iff {items : List (Option carrier.Datum)} :
    (∃ bytes, encodeArray type carrier items = .ok bytes) ↔
      items.length < 0x80000000 ∧ ∀ item ∈ items, ItemFits type carrier item := by
  simp only [← exists_encodeItem_iff, encodeArray]
  constructor
  · rintro ⟨bytes, encoded⟩
    cases mapped : items.mapM (encodeItem type carrier) with
    | error failure =>
      rw [mapped] at encoded
      cases encoded
    | ok parts =>
      rw [mapped] at encoded
      -- The items are counted only after all of them have been encoded.
      by_cases few : items.length < 0x80000000
      · refine ⟨few, fun item member => ?_⟩
        obtain ⟨part, -, here⟩ := exists_of_mapM_eq_ok mapped item member
        exact ⟨part, here⟩
      · simp [few, Bind.bind, Except.bind] at encoded
  · rintro ⟨few, each⟩
    obtain ⟨parts, mapped⟩ := exists_mapM_eq_ok each
    simp [mapped, few, Bind.bind, Except.bind]

theorem encodeArray_ne_wrongType (items : List (Option carrier.Datum)) :
    encodeArray type carrier items ≠ .error .wrongType := by
  intro failed
  rw [encodeArray] at failed
  cases mapped : items.mapM (encodeItem type carrier) with
  | error failure =>
    rw [mapped] at failed
    cases failed
    obtain ⟨item, -, here⟩ := mem_of_mapM_eq_error mapped
    exact encodeItem_ne_wrongType item here
  | ok parts =>
    rw [mapped] at failed
    by_cases few : items.length < 0x80000000 <;> simp [few, Bind.bind, Except.bind] at failed

end Arrays

/-! ### Types without a form of their own -/

/-- Values are bound to the type as text and are not sent as it. -/
def BaseType.isForeign : BaseType → Bool
  | numeric | other _ => true
  | _ => false

/-- The type of the values: that of the members of an array. -/
def ServerType.member : ServerType → BaseType
  | base type => type
  | array member => member

theorem accepts_carrier (type : BaseType) : type.carrier.accepts type = !type.isForeign := by
  cases type with
  | other name => simp [BaseType.carrier, Carrier.accepts, BaseType.isForeign]
  | _ => rfl

section Known

variable {type : BaseType} (known : type.isForeign = false)
include known

theorem encode_single_none :
    (⟨type.carrier, .single none⟩ : Param).encode (.base type) = .ok none := by
  simp [Param.encode, accepts_carrier, known]

theorem encode_single_some (datum : type.carrier.Datum) :
    (⟨type.carrier, .single (some datum)⟩ : Param).encode (.base type) =
      (encodeDatum type type.carrier datum).map some := by
  simp [Param.encode, accepts_carrier, known]

theorem encode_array_none :
    (⟨type.carrier, .array none⟩ : Param).encode (.array type) = .ok none := by
  simp [Param.encode, accepts_carrier, known]

theorem encode_array_some (items : List (Option type.carrier.Datum)) :
    (⟨type.carrier, .array (some items)⟩ : Param).encode (.array type) =
      (encodeArray type type.carrier items).map some := by
  simp [Param.encode, accepts_carrier, known]

end Known

theorem encode_foreign {type : ServerType} {scalar : Scalar} {param : Param}
    (bound : Bound type scalar param) (isForeign : type.member.isForeign = true) :
    param.encode type = .error .wrongType := by
  cases bound with
  | items | noItems | single =>
    rw [ServerType.member] at isForeign
    simp [Param.encode, accepts_carrier, isForeign]

/-! ### What becomes of a scalar -/

/-- The scalar is bound to the type and sent as these bytes. -/
def SentAs (type : ServerType) (scalar : Scalar) (bytes : List UInt8) : Prop :=
  ∃ param, bind type scalar = .ok param ∧ param.encode type = .ok (some bytes)

/-- A list that is sent as an array has fewer than `2 ^ 31` items, each of fewer than `2 ^ 31`
bytes. -/
def FitsFrame : ServerType → Scalar → Prop
  | .array member, .list items => items.length < 0x80000000 ∧
      ∀ item ∈ items, ∀ bytes, SentAs (.base member) item bytes → bytes.length < 0x80000000
  | _, _ => True

/-- What comes of sending a scalar as the type that it was bound to. -/
structure Sends (type : ServerType) (scalar : Scalar)
    (sent : Except EncodeFailure (Option (List UInt8))) : Prop where
  refused : sent = .error .wrongType ↔ type.member.isForeign = true
  null : sent = .ok none ↔ type.member.isForeign = false ∧ scalar = .null
  bytes : (∃ bytes, sent = .ok (some bytes)) ↔
    type.member.isForeign = false ∧ scalar ≠ .null ∧ FitsFrame type scalar

theorem sentAs_base_iff {base : BaseType} (known : base.isForeign = false) {scalar : Scalar}
    (noList : scalar.kind ≠ .list) {bytes : List UInt8} :
    SentAs (.base base) scalar bytes ↔ ∃ datum,
      base.carrier.holdOptional scalar = .ok (some datum) ∧
        encodeDatum base base.carrier datum = .ok bytes := by
  constructor
  · rintro ⟨param, bound, sent⟩
    obtain ⟨-, held, holds, rfl⟩ := bind_base_eq_ok_iff.mp bound
    cases held with
    | none =>
      -- Null is sent without bytes.
      rw [encode_single_none known] at sent
      cases sent
    | some datum =>
      obtain ⟨bytes, encoded⟩ := exists_encodeDatum base base.carrier datum
      rw [encode_single_some known, encoded] at sent
      cases sent
      exact ⟨datum, holds, encoded⟩
  · rintro ⟨datum, holds, encoded⟩
    refine ⟨_, bind_base_eq_ok_iff.mpr ⟨fun list => absurd list noList, _, holds, rfl⟩, ?_⟩
    rw [encode_single_some known, encoded]
    rfl

/-- What the carrier holds of a value is sent. -/
theorem sentAs_of_hold_iff {base : BaseType} (known : base.isForeign = false) {scalar : Scalar}
    (listed : scalar.kind = .list → base.isDocument = true) (value : scalar.isNull = false)
    {datum : base.carrier.Datum} (held : base.carrier.hold scalar = .ok datum)
    {bytes : List UInt8} :
    SentAs (.base base) scalar bytes ↔ encodeDatum base base.carrier datum = .ok bytes := by
  have holds : base.carrier.holdOptional scalar = .ok (some datum) := by
    simp [Carrier.holdOptional, value, held, Except.map]
  have bound : bind (.base base) scalar = .ok ⟨base.carrier, .single (some datum)⟩ :=
    bind_base_eq_ok_iff.mpr ⟨listed, _, holds, rfl⟩
  have sent := encode_single_some known datum
  rw [SentAs]
  constructor
  · rintro ⟨param, here, encoded⟩
    cases bound.symm.trans here
    cases bits : encodeDatum base base.carrier datum <;> simp_all [Except.map]
  · intro encoded
    exact ⟨_, bound, by rw [sent, encoded, Except.map]⟩

/-- The items of an array fit as they would alone. -/
theorem forall_itemFits_iff {member : BaseType} (known : member.isForeign = false)
    {items : List Scalar} {held : List (Option member.carrier.Datum)}
    (noLists : ∀ item ∈ items, item.kind ≠ .list)
    (holds : List.Forall₂ (fun item held => member.carrier.holdOptional item = .ok held)
      items held) :
    (∀ item ∈ held, ItemFits member member.carrier item) ↔
      ∀ item ∈ items, ∀ bytes, SentAs (.base member) item bytes → bytes.length < 0x80000000 := by
  induction holds with
  | nil => simp
  | @cons item held _ _ here _ ih =>
    obtain ⟨noList, others⟩ := List.forall_mem_cons.mp noLists
    rw [List.forall_mem_cons, List.forall_mem_cons, ih others]
    refine and_congr_left fun _ => ?_
    simp only [sentAs_base_iff known noList, here, ItemFits]
    constructor
    · rintro fits bytes ⟨datum, same, encoded⟩
      cases same
      exact fits datum rfl bytes encoded
    · rintro fits datum rfl bytes encoded
      exact fits bytes ⟨datum, rfl, encoded⟩

section Outcomes

variable {base member : BaseType}

theorem sends_single (known : base.isForeign = false) {scalar : Scalar}
    {held : Option base.carrier.Datum} (holds : base.carrier.holdOptional scalar = .ok held) :
    Sends (.base base) scalar ((⟨base.carrier, .single held⟩ : Param).encode (.base base)) := by
  have isNull : held = none ↔ scalar = .null := by
    have nothing : base.carrier.holdOptional scalar = .ok none ↔ scalar = .null :=
      holdOptional_eq_ok_none_iff
    rwa [holds, Except.ok.injEq] at nothing
  cases held with
  | none =>
    have null : scalar = .null := isNull.mp rfl
    rw [encode_single_none known]
    exact ⟨by simp [ServerType.member, known], by simp [ServerType.member, known, null],
      by simp [null]⟩
  | some datum =>
    have value : scalar ≠ .null := fun null => by simpa using isNull.mpr null
    obtain ⟨bytes, encoded⟩ := exists_encodeDatum base base.carrier datum
    rw [encode_single_some known, encoded, Except.map]
    exact ⟨by simp [ServerType.member, known], by simp [value],
      by simp [ServerType.member, known, value, FitsFrame]⟩

theorem sends_items (known : member.isForeign = false) {items : List Scalar}
    {held : List (Option member.carrier.Datum)} (alike : listMismatch? items = none)
    (holds : List.Forall₂ (fun item held => member.carrier.holdOptional item = .ok held)
      items held) :
    Sends (.array member) (.list items)
      ((⟨member.carrier, .array (some held)⟩ : Param).encode (.array member)) := by
  have count : items.length = held.length := holds.length_eq
  have fits : (∃ bytes, encodeArray member member.carrier held = .ok bytes) ↔
      FitsFrame (.array member) (.list items) := by
    rw [exists_encodeArray_iff, ← count,
      forall_itemFits_iff known (kind_ne_list_of_listMismatch? alike) holds]
    rfl
  have room : encodeArray member member.carrier held ≠ .error .wrongType :=
    encodeArray_ne_wrongType held
  rw [encode_array_some known]
  cases encoded : encodeArray member member.carrier held with
  | ok bytes =>
    have frame := fits.mp ⟨bytes, encoded⟩
    rw [Except.map]
    exact ⟨by simp [ServerType.member, known], by simp, by simp [ServerType.member, known, frame]⟩
  | error failure =>
    -- The frame is all that an array can fail for.
    rw [encoded] at fits room
    have misfit : ¬ FitsFrame (.array member) (.list items) := by simpa using fits
    rw [Except.map]
    exact ⟨by simpa [ServerType.member, known] using room, by simp, by simp [misfit]⟩

theorem encode_of_bind {type : ServerType} {scalar : Scalar} {param : Param}
    (bound : bind type scalar = .ok param) : Sends type scalar (param.encode type) := by
  rw [bind_eq_ok_iff] at bound
  cases foreign : type.member.isForeign with
  | true =>
    -- Whatever was bound, null included, was bound as text.
    rw [encode_foreign bound foreign]
    exact ⟨by simp [foreign], by simp [foreign], by simp [foreign]⟩
  | false =>
    cases bound with
    | single listed holds => exact sends_single foreign holds
    | items alike holds => exact sends_items foreign alike holds
    | noItems member =>
      have known : member.isForeign = false := foreign
      rw [encode_array_none known]
      exact ⟨by simp [foreign], by simp [foreign], by simp⟩

end Outcomes

/-- Of values that bind, exactly those are sent whose type has a form of its own, lists as far as
they fit into the frame of an array. Null is sent as null; a type without a form is refused for null
as well. -/
theorem encode_of_bindAll {types : List ServerType} {values : List Scalar} {params : List Param}
    (bound : bindAll types values = .ok params) :
    values.length = types.length ∧
    List.Forall₂ (fun (parameter : ServerType × Scalar) param =>
      Sends parameter.1 parameter.2 (param.encode parameter.1)) (types.zip values) params := by
  obtain ⟨count, each⟩ := bindAll_eq_ok_iff.mp bound
  exact ⟨count, each.imp fun parameter param => encode_of_bind⟩

/-- An array with a null in it, a null that is refused, and one that is sent. -/
theorem encode_of_bindAll_numeric :
    let uuids : Param := ⟨.uuid, .array (some [some ⟨0x67e5504410b1426f9247bb680e5fe0c8⟩, none])⟩
    let scalars : Scalar := .list [.string "67e55044-10b1-426f-9247-bb680e5fe0c8", .null]
    bindAll [.array .uuid, .base .numeric, .base .jsonb] [scalars, .null, .null] =
      .ok [uuids, ⟨.text, .single none⟩, ⟨.document, .single none⟩] ∧
    (∃ bytes, uuids.encode (.array .uuid) = .ok (some bytes)) ∧
    FitsFrame (.array .uuid) scalars ∧
    (⟨.text, .single none⟩ : Param).encode (.base .numeric) = .error .wrongType ∧
    (⟨.document, .single none⟩ : Param).encode (.base .jsonb) = .ok none := by
  intro uuids scalars
  have bound : bindAll [.array .uuid, .base .numeric, .base .jsonb] [scalars, .null, .null] =
      .ok [uuids, ⟨.text, .single none⟩, ⟨.document, .single none⟩] := rfl
  obtain ⟨-, each⟩ := encode_of_bindAll bound
  obtain ⟨list, rest⟩ := List.forall₂_cons.mp each
  obtain ⟨refused, rest⟩ := List.forall₂_cons.mp rest
  obtain ⟨sent, -⟩ := List.forall₂_cons.mp rest
  have bytes : ∃ bytes, uuids.encode (.array .uuid) = .ok (some bytes) := ⟨_, rfl⟩
  exact ⟨bound, bytes, (list.bytes.mp bytes).2.2, refused.refused.mpr rfl, sent.null.mpr ⟨rfl, rfl⟩⟩

/-- A null that binds and cannot be sent. -/
theorem encode_null_refused :
    bindAll [.base .numeric] [.null] = .ok [⟨.text, .single none⟩] ∧
    (⟨.text, .single none⟩ : Param).encode (.base .numeric) = .error .wrongType :=
  ⟨rfl, rfl⟩

end SqlWeave.Postgres

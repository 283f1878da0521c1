import SqlWeave.Proofs.Postgres.Encoding

/-!
# Arrays item by item

A list binds to an array exactly when each of its items would bind to the member type and the items
are alike, and what is sent can be taken apart into what would be sent for each item alone
(`bind_array_itemwise`).
-/
namespace SqlWeave.Postgres

/-! ### Items that are alike -/

theorem kind_eq_null_iff {scalar : Scalar} : scalar.kind = .null ↔ scalar = .null := by
  cases scalar <;> simp [Scalar.kind]

theorem isNull_iff {scalar : Scalar} : scalar.isNull = true ↔ scalar = .null := by
  cases scalar <;> simp [Scalar.isNull]

theorem mismatchAfter_eq_none_iff {first : Scalar.Kind} {items : List Scalar} :
    mismatchAfter first items = none ↔
      ∀ item ∈ items, item.kind ≠ .list ∧ (item = .null ∨ item.kind = first) := by
  rw [mismatchAfter, List.findSome?_eq_none_iff]
  refine forall₂_congr fun item _ => ?_
  rw [← kind_eq_null_iff]
  split
  next isList => simp [isList]
  next noList => split <;> simp_all

/-- Which item other than null comes first does not matter. -/
theorem listMismatch?_eq_none_iff {items : List Scalar} :
    listMismatch? items = none ↔ (∀ item ∈ items, item.kind ≠ .list) ∧
      ∀ item ∈ items, ∀ other ∈ items, item ≠ .null → other ≠ .null → item.kind = other.kind := by
  rw [listMismatch?]
  split
  next absent =>
    -- Without a value there is nothing to be unlike.
    have nulls : ∀ item ∈ items, item = .null := by
      simpa [isNull_iff] using absent
    refine iff_of_true rfl ⟨fun item member => ?_, fun item member other _ value _ => ?_⟩
    · simp [nulls item member, Scalar.kind]
    · exact absurd (nulls item member) value
  next first found =>
    have value : first ≠ .null := by
      simpa [← isNull_iff] using List.find?_some found
    have member := List.mem_of_find?_eq_some found
    rw [mismatchAfter_eq_none_iff]
    -- Being like the first value is being like each other.
    constructor
    · intro fits
      refine ⟨fun item here => (fits item here).1, fun item here other there one two => ?_⟩
      rw [(fits item here).2.resolve_left one, (fits other there).2.resolve_left two]
    · rintro ⟨noLists, alike⟩ item here
      refine ⟨noLists item here, ?_⟩
      by_cases null : item = .null
      · exact .inl null
      · exact .inr (alike item here first member null value)

variable {member : BaseType} {items : List Scalar}

theorem exists_bind_base_iff {scalar : Scalar} (noList : scalar.kind ≠ .list) :
    (∃ param, bind (.base member) scalar = .ok param) ↔
      ∃ held, member.carrier.holdOptional scalar = .ok held := by
  simp only [bind_base_eq_ok_iff]
  constructor
  · rintro ⟨_, -, held, holds, -⟩
    exact ⟨held, holds⟩
  · rintro ⟨held, holds⟩
    exact ⟨_, fun isList => absurd isList noList, held, holds, rfl⟩

theorem exists_bind_items_iff :
    (∃ param, bind (.array member) (.list items) = .ok param) ↔
      (∀ item ∈ items, item.kind ≠ .list) ∧
      (∀ item ∈ items, ∀ other ∈ items, item ≠ .null → other ≠ .null → item.kind = other.kind) ∧
      ∀ item ∈ items, item ≠ .null → ∃ param, bind (.base member) item = .ok param := by
  simp only [bind_items_eq_ok_iff, listMismatch?_eq_none_iff, ← mapM_eq_ok_iff]
  constructor
  · rintro ⟨_, ⟨noLists, alike⟩, held, mapped, -⟩
    refine ⟨noLists, alike, fun item here _ => ?_⟩
    obtain ⟨value, -, holds⟩ := exists_of_mapM_eq_ok mapped item here
    exact (exists_bind_base_iff (noLists item here)).mpr ⟨value, holds⟩
  · rintro ⟨noLists, alike, binds⟩
    have each : ∀ item ∈ items, ∃ held, member.carrier.holdOptional item = .ok held := by
      intro item here
      by_cases null : item = .null
      · -- Null is held by every carrier.
        exact ⟨none, null ▸ holdOptional_null member.carrier⟩
      · exact (exists_bind_base_iff (noLists item here)).mp (binds item here null)
    obtain ⟨held, mapped⟩ := exists_mapM_eq_ok each
    exact ⟨_, ⟨noLists, alike⟩, held, mapped, rfl⟩

/-! ### Taking a frame apart -/

/-- As many bytes as asked for, and the rest. -/
def takeBytes? (count : Nat) (bytes : List UInt8) : Option (List UInt8 × List UInt8) :=
  if count ≤ bytes.length then some (bytes.take count, bytes.drop count) else none

/-- A number of four bytes. -/
def readWord? (bytes : List UInt8) : Option (Nat × List UInt8) :=
  (takeBytes? 4 bytes).map fun (word, rest) => (Bytes.ofBigEndian word, rest)

/-- A length and as many bytes; the length -1 stands for null, and no other one is negative. -/
def readItem? (bytes : List UInt8) : Option (Option (List UInt8) × List UInt8) := do
  let (length, rest) ← readWord? bytes
  if length = 0xFFFFFFFF then some (none, rest)
  else if length < 0x80000000 then
    (takeBytes? length rest).map fun (item, rest) => (some item, rest)
  else none

def readItems? : Nat → List UInt8 → Option (List (Option (List UInt8)) × List UInt8)
  | 0, bytes => some ([], bytes)
  | count + 1, bytes => do
    let (item, bytes) ← readItem? bytes
    let (items, rest) ← readItems? count bytes
    some (item :: items, rest)

/-- What the bytes of an array say. -/
structure ArrayFrame where
  dimensions : Nat
  hasNulls : Nat
  member : Nat
  count : Nat
  lowerBound : Nat
  items : List (Option (List UInt8))
deriving DecidableEq, Repr

/-- Takes the bytes of an array apart; nothing may be left. -/
def readArray? (bytes : List UInt8) : Option ArrayFrame := do
  let (dimensions, bytes) ← readWord? bytes
  let (hasNulls, bytes) ← readWord? bytes
  let (member, bytes) ← readWord? bytes
  let (count, bytes) ← readWord? bytes
  let (lowerBound, bytes) ← readWord? bytes
  let (items, rest) ← readItems? count bytes
  if rest = [] then some ⟨dimensions, hasNulls, member, count, lowerBound, items⟩ else none

theorem takeBytes?_append {front rest : List UInt8} {count : Nat} (length : front.length = count) :
    takeBytes? count (front ++ rest) = some (front, rest) := by
  subst length
  simp [takeBytes?]

theorem readWord?_bigEndian {n : Nat} (small : n < 0x100000000) (rest : List UInt8) :
    readWord? (Bytes.bigEndian 4 n ++ rest) = some (n, rest) := by
  have value : Bytes.ofBigEndian (Bytes.bigEndian 4 n) = n := by
    rw [Bytes.ofBigEndian_bigEndian]
    exact Nat.mod_eq_of_lt small
  rw [readWord?, takeBytes?_append (Bytes.length_bigEndian 4 n)]
  simp only [Option.map_some, value]

/-- The bytes of an item of an array. -/
def itemBytes : Option (List UInt8) → List UInt8
  | none => Bytes.bigEndian 4 0xFFFFFFFF
  | some bytes => Bytes.bigEndian 4 bytes.length ++ bytes

/-- The item is not too long for the frame. -/
def ItemRoom (element : Option (List UInt8)) : Prop := ∀ bytes ∈ element, bytes.length < 0x80000000

theorem readItem?_itemBytes {element : Option (List UInt8)} (room : ItemRoom element)
    (rest : List UInt8) : readItem? (itemBytes element ++ rest) = some (element, rest) := by
  cases element with
  | none =>
    rw [itemBytes, readItem?, readWord?_bigEndian (by decide)]
    rfl
  | some bytes =>
    have short : bytes.length < 0x80000000 := room bytes rfl
    rw [itemBytes, List.append_assoc, readItem?, readWord?_bigEndian (by omega)]
    simp only [Option.bind_eq_bind, Option.bind_some, takeBytes?_append rfl, if_pos short]
    -- A length that fits is not taken for the mark of null.
    rw [if_neg (by omega)]
    rfl

theorem readItems?_itemBytes {elements : List (Option (List UInt8))}
    (room : ∀ element ∈ elements, ItemRoom element) (rest : List UInt8) :
    readItems? elements.length (elements.flatMap itemBytes ++ rest) = some (elements, rest) := by
  induction elements with
  | nil => rfl
  | cons element elements ih =>
    obtain ⟨here, later⟩ := List.forall_mem_cons.mp room
    rw [List.length_cons, List.flatMap_cons, List.append_assoc, readItems?,
      readItem?_itemBytes here]
    simp only [Option.bind_eq_bind, Option.bind_some, ih later]

theorem readArray?_frame {hasNulls oid : Nat} {elements : List (Option (List UInt8))}
    (flag : hasNulls < 0x100000000) (word : oid < 0x100000000) (few : elements.length < 0x80000000)
    (room : ∀ element ∈ elements, ItemRoom element) :
    readArray? (Bytes.bigEndian 4 1 ++ (Bytes.bigEndian 4 hasNulls ++ (Bytes.bigEndian 4 oid ++
      (Bytes.bigEndian 4 elements.length ++ (Bytes.bigEndian 4 1 ++
        elements.flatMap itemBytes))))) =
      some ⟨1, hasNulls, oid, elements.length, 1, elements⟩ := by
  have items := readItems?_itemBytes room []
  rw [List.append_nil] at items
  have count : elements.length < 0x100000000 := by omega
  have one : 1 < 0x100000000 := by decide
  simp only [readArray?, readWord?_bigEndian one, readWord?_bigEndian flag,
    readWord?_bigEndian word, readWord?_bigEndian count, Option.bind_eq_bind, Option.bind_some,
    items, if_pos]

theorem oid_lt (type : BaseType) : type.oid < 0x100000000 := by
  cases type with
  | other name => exact Nat.two_pow_pos 32
  | _ => decide

/-! ### What is in the frame -/

/-- A held value alone is sent as this, `none` for null. -/
def HeldAs (member : BaseType) (held : Option member.carrier.Datum)
    (element : Option (List UInt8)) : Prop :=
  (⟨member.carrier, .single held⟩ : Param).encode (.base member) = .ok element

section Known

variable (known : member.isForeign = false)
include known

/-- An item is sent with its length, as it would be sent alone. -/
theorem encodeItem_eq_ok_iff {held : Option member.carrier.Datum} {part : List UInt8} :
    encodeItem member member.carrier held = .ok part ↔
      ∃ element, HeldAs member held element ∧ ItemRoom element ∧ part = itemBytes element := by
  unfold HeldAs
  cases held with
  | none =>
    rw [encode_single_none known]
    simp [encodeItem, ItemRoom, itemBytes, eq_comm]
  | some datum =>
    obtain ⟨bytes, encoded⟩ := exists_encodeDatum member member.carrier datum
    rw [encodeItem_some encoded, encode_single_some known, encoded]
    simp only [Except.map, Except.ok.injEq, exists_eq_left', ItemRoom, itemBytes,
      Option.mem_def, Option.some.injEq, forall_eq']
    split
    next short => simp [short, eq_comm]
    next long => simp [long]

theorem encodeItems_eq_ok {held : List (Option member.carrier.Datum)} {parts : List (List UInt8)}
    (encoded : List.Forall₂ (fun held part => encodeItem member member.carrier held = .ok part)
      held parts) :
    ∃ elements, List.Forall₂ (HeldAs member) held elements ∧
      (∀ element ∈ elements, ItemRoom element) ∧ parts.flatten = elements.flatMap itemBytes := by
  induction encoded with
  | nil => exact ⟨[], .nil, by simp, rfl⟩
  | cons here _ ih =>
    obtain ⟨element, single, room, rfl⟩ := (encodeItem_eq_ok_iff known).mp here
    obtain ⟨elements, others, rooms, flat⟩ := ih
    refine ⟨element :: elements, .cons single others, List.forall_mem_cons.mpr ⟨room, rooms⟩, ?_⟩
    rw [List.flatten_cons, List.flatMap_cons, flat]

theorem readArray?_of_encodeArray {held : List (Option member.carrier.Datum)} {bytes : List UInt8}
    (encoded : encodeArray member member.carrier held = .ok bytes) :
    ∃ elements, List.Forall₂ (HeldAs member) held elements ∧
      readArray? bytes = some ⟨1, if held.any Option.isNone then 1 else 0, member.oid,
        held.length, 1, elements⟩ := by
  rw [encodeArray] at encoded
  cases mapped : held.mapM (encodeItem member member.carrier) with
  | error failure =>
    rw [mapped] at encoded
    cases encoded
  | ok parts =>
    obtain ⟨elements, each, rooms, flat⟩ := encodeItems_eq_ok known (mapM_eq_ok_iff.mp mapped)
    rw [mapped] at encoded
    by_cases few : held.length < 0x80000000
    · simp only [Bind.bind, Except.bind, if_pos few, flat, List.append_assoc,
        Except.ok.injEq] at encoded
      subst encoded
      -- Every number in the frame fits into its four bytes.
      have flag : (if held.any Option.isNone then 1 else 0) < 0x100000000 := by split <;> decide
      rw [each.length_eq] at few ⊢
      exact ⟨elements, each, readArray?_frame flag (oid_lt member) few rooms⟩
    · simp [few, Bind.bind, Except.bind] at encoded

end Known

/-- A scalar alone is bound and sent as this, `none` for null. -/
def SentAlone (member : BaseType) (scalar : Scalar) (element : Option (List UInt8)) : Prop :=
  ∃ param, bind (.base member) scalar = .ok param ∧ param.encode (.base member) = .ok element

theorem SentAlone.eq_none_iff {scalar : Scalar} {element : Option (List UInt8)}
    (sent : SentAlone member scalar element) : element = none ↔ scalar = .null := by
  obtain ⟨param, bound, encoded⟩ := sent
  have sends := encode_of_bind bound
  rw [encoded] at sends
  have known : (ServerType.base member).member.isForeign = false := by
    simpa using mt sends.refused.mpr (by simp)
  simpa [known] using sends.null

theorem SentAlone.eq_some_iff {scalar : Scalar} {element : Option (List UInt8)}
    (sent : SentAlone member scalar element) {bytes : List UInt8} :
    element = some bytes ↔ SentAs (.base member) scalar bytes := by
  obtain ⟨param, bound, encoded⟩ := sent
  constructor
  · rintro rfl
    exact ⟨param, bound, encoded⟩
  · rintro ⟨other, otherBound, otherEncoded⟩
    cases bound.symm.trans otherBound
    exact Except.ok.inj (encoded.symm.trans otherEncoded)

theorem sentAlone_of_held {items : List Scalar} {held : List (Option member.carrier.Datum)}
    {elements : List (Option (List UInt8))} (noLists : ∀ item ∈ items, item.kind ≠ .list)
    (holds : List.Forall₂ (fun item held => member.carrier.holdOptional item = .ok held) items held)
    (each : List.Forall₂ (HeldAs member) held elements) :
    List.Forall₂ (SentAlone member) items elements := by
  induction holds generalizing elements with
  | nil =>
    cases each
    exact .nil
  | cons here _ ih =>
    obtain ⟨noList, later⟩ := List.forall_mem_cons.mp noLists
    cases each with
    | cons first others =>
      have bound := bind_base_eq_ok_iff.mpr ⟨fun isList => absurd isList noList, _, here, rfl⟩
      exact .cons ⟨_, bound, first⟩ (ih later others)

theorem any_isNone_held {items : List Scalar} {held : List (Option member.carrier.Datum)}
    (holds : List.Forall₂ (fun item held => member.carrier.holdOptional item = .ok held)
      items held) : held.any Option.isNone = items.any Scalar.isNull := by
  induction holds with
  | nil => rfl
  | @cons item held _ _ here _ ih =>
    have same : held.isNone = item.isNull := by
      have null : member.carrier.holdOptional item = .ok none ↔ item = .null :=
        holdOptional_eq_ok_none_iff
      rw [here, Except.ok.injEq, ← isNull_iff, ← Option.isNone_iff_eq_none] at null
      exact Bool.eq_iff_iff.mpr null
    rw [List.any_cons, List.any_cons, same, ih]

/-- What the items of an array are sent as alone is what stands in its bytes. -/
theorem readArray?_of_sentAs {bytes : List UInt8}
    (sent : SentAs (.array member) (.list items) bytes) :
    ∃ elements, List.Forall₂ (SentAlone member) items elements ∧
      readArray? bytes = some ⟨1, if items.any Scalar.isNull then 1 else 0, member.oid,
        items.length, 1, elements⟩ := by
  obtain ⟨param, bound, encoded⟩ := sent
  -- What is sent is not of a foreign type.
  have known : member.isForeign = false := ((encode_of_bind bound).bytes.mp ⟨bytes, encoded⟩).1
  obtain ⟨alike, held, holds, rfl⟩ := bind_items_eq_ok_iff.mp bound
  rw [encode_array_some known] at encoded
  cases framed : encodeArray member member.carrier held with
  | error failure =>
    rw [framed] at encoded
    cases encoded
  | ok frame =>
    rw [framed] at encoded
    cases encoded
    obtain ⟨elements, each, read⟩ := readArray?_of_encodeArray known framed
    rw [any_isNone_held holds, ← holds.length_eq] at read
    exact ⟨elements, sentAlone_of_held (kind_ne_list_of_listMismatch? alike) holds each, read⟩

/-- A list binds to an array if and only if none of its items is a list, those other than null are
of one kind, and each of them binds to the member type; their order does not matter. It is then sent
unless the type has no form of its own or the frame no room, and the bytes are a frame of as many
elements, each being what its item alone is sent as, with the flag set if and only if there is a
null. -/
theorem bind_array_itemwise (member : BaseType) (items : List Scalar) :
    ((∃ param, bind (.array member) (.list items) = .ok param) ↔
      (∀ item ∈ items, item.kind ≠ .list) ∧
      (∀ item ∈ items, ∀ other ∈ items, item ≠ .null → other ≠ .null → item.kind = other.kind) ∧
      ∀ item ∈ items, item ≠ .null → ∃ param, bind (.base member) item = .ok param) ∧
    (∀ others, items.Perm others →
      ((∃ param, bind (.array member) (.list items) = .ok param) ↔
        ∃ param, bind (.array member) (.list others) = .ok param)) ∧
    ((∃ bytes, SentAs (.array member) (.list items) bytes) ↔
      (∃ param, bind (.array member) (.list items) = .ok param) ∧
        member.isForeign = false ∧ FitsFrame (.array member) (.list items)) ∧
    ∀ bytes, SentAs (.array member) (.list items) bytes →
      ∃ hasNulls elements, readArray? bytes =
          some ⟨1, hasNulls, member.oid, items.length, 1, elements⟩ ∧
        (hasNulls = 1 ∧ .null ∈ items ∨ hasNulls = 0 ∧ .null ∉ items) ∧
        List.Forall₂ (fun item element => (element = none ↔ item = .null) ∧
          ∀ alone, element = some alone ↔ SentAs (.base member) item alone) items elements := by
  refine ⟨exists_bind_items_iff, ?_, ?_, ?_⟩
  · intro others perm
    -- What is asked of the items is asked of each of them, or of each two of them.
    rw [exists_bind_items_iff, exists_bind_items_iff]
    simp only [perm.mem_iff]
  · constructor
    · rintro ⟨bytes, param, bound, encoded⟩
      obtain ⟨known, -, frame⟩ := (encode_of_bind bound).bytes.mp ⟨bytes, encoded⟩
      exact ⟨⟨param, bound⟩, known, frame⟩
    · rintro ⟨⟨param, bound⟩, known, frame⟩
      obtain ⟨bytes, encoded⟩ := (encode_of_bind bound).bytes.mpr ⟨known, by simp, frame⟩
      exact ⟨bytes, param, bound, encoded⟩
  · intro bytes sent
    obtain ⟨elements, alone, read⟩ := readArray?_of_sentAs sent
    refine ⟨_, elements, read, ?_, alone.imp fun item element here =>
      ⟨here.eq_none_iff, fun bytes => here.eq_some_iff⟩⟩
    by_cases null : .null ∈ items
    · have found : items.any Scalar.isNull = true := List.any_eq_true.mpr ⟨.null, null, rfl⟩
      exact .inl ⟨if_pos found, null⟩
    · have absent : ¬ items.any Scalar.isNull = true := by
        intro found
        obtain ⟨item, member, isNull⟩ := List.any_eq_true.mp found
        exact null (isNull_iff.mp isNull ▸ member)
      exact .inr ⟨if_neg absent, null⟩

/-- A null in front of a number. -/
theorem bind_array_itemwise_null_first :
    let bytes := [0, 0, 0, 1] ++ [0, 0, 0, 1] ++ [0, 0, 0, 21] ++ [0, 0, 0, 2] ++ [0, 0, 0, 1] ++
      [0xFF, 0xFF, 0xFF, 0xFF] ++ [0, 0, 0, 2, 1, 2]
    [Scalar.null, .int 258].Perm [.int 258, .null] ∧
    (∃ param, bind (.array .int2) (.list [.int 258, .null]) = .ok param) ∧
    SentAs (.array .int2) (.list [.null, .int 258]) bytes ∧
    readArray? bytes = some ⟨1, 1, 21, 2, 1, [none, some [1, 2]]⟩ ∧
    SentAs (.base .int2) (.int 258) [1, 2] := by
  intro bytes
  obtain ⟨-, anyOrder, -, itemwise⟩ := bind_array_itemwise .int2 [.null, .int 258]
  have swapped : [Scalar.null, .int 258].Perm [.int 258, .null] := .swap _ _ _
  have sent : SentAs (.array .int2) (.list [.null, .int 258]) bytes := ⟨_, rfl, rfl⟩
  have read : readArray? bytes = some ⟨1, 1, 21, 2, 1, [none, some [1, 2]]⟩ := by decide
  refine ⟨swapped, (anyOrder _ swapped).mp ⟨_, rfl⟩, sent, read, ?_⟩
  obtain ⟨hasNulls, elements, found, -, each⟩ := itemwise bytes sent
  cases read.symm.trans found
  cases each with
  | cons _ others =>
    cases others with
    | cons second _ => exact (second.2 [1, 2]).mp rfl

end SqlWeave.Postgres

import SqlWeave.Proofs.Json.Reading
import SqlWeave.Proofs.Scalar.Document
import SqlWeave.Proofs.Time.Relaxed

/-!
# Scalars read back

A scalar is read back from its JSON text unless it is nested too deep, and what is read has the same
text, unless the scalar is a string that spells a UUID or a timestamp in another way than they are
written (`readJson?_jsonText_iff`).
-/
namespace SqlWeave.Scalar

/-- The string of a scalar that is one, or that is a document that is one. -/
def spelled? : Scalar → Option String
  | .string s => some s
  | .json (.string s) => some s
  | _ => none

/-- If the string spells a UUID, or else a timestamp, it is spelled as that is written. -/
structure IsCanonical (s : String) : Prop where
  uuid : ∀ u, Uuid.read? s.toList = some u → u.text = s
  timestamp : ∀ t, Uuid.read? s.toList = none → Time.readRelaxed? s.toList = some t →
    String.ofList t.text = s

/-- What a string is read as: the UUID that it spells, or else the timestamp, or else itself. -/
structure ReadAs (s : String) (scalar : Scalar) : Prop where
  uuid : ∀ u, Uuid.read? s.toList = some u → scalar = .uuid u
  timestamp : ∀ t, Uuid.read? s.toList = none → Time.readRelaxed? s.toList = some t →
    scalar = .timestamp t
  string : Uuid.read? s.toList = none → Time.readRelaxed? s.toList = none → scalar = .string s

/-! ### Strings -/

section Strings

variable {s : String}

theorem isCanonical_iff_of_uuid {u : Uuid} (read : Uuid.read? s.toList = some u) :
    IsCanonical s ↔ u.text = s := by
  constructor
  · intro canonical
    exact canonical.uuid u read
  · intro text
    refine ⟨fun other here => ?_, fun _ noUuid => ?_⟩
    · rw [read] at here
      cases here
      exact text
    · rw [read] at noUuid
      cases noUuid

theorem isCanonical_iff_of_timestamp {t : Time.Timestamp} (noUuid : Uuid.read? s.toList = none)
    (read : Time.readRelaxed? s.toList = some t) : IsCanonical s ↔ String.ofList t.text = s := by
  constructor
  · intro canonical
    exact canonical.timestamp t noUuid read
  · intro text
    refine ⟨fun u here => ?_, fun other _ here => ?_⟩
    · rw [noUuid] at here
      cases here
    · rw [read] at here
      cases here
      exact text

theorem isCanonical_of_none (noUuid : Uuid.read? s.toList = none)
    (noTimestamp : Time.readRelaxed? s.toList = none) : IsCanonical s := by
  refine ⟨fun u here => ?_, fun t _ here => ?_⟩
  · rw [noUuid] at here
    cases here
  · rw [noTimestamp] at here
    cases here

theorem jsonText_ofText_iff : (ofText s).jsonText = Json.stringText s.toList ↔ IsCanonical s := by
  unfold ofText
  split
  next u read =>
    have quoted : jsonText (.uuid u) = Json.stringText u.text.toList :=
      (Json.stringText_of_isBare u.isBare_text).symm
    rw [quoted, isCanonical_iff_of_uuid read]
    exact ⟨fun same => String.toList_injective (Json.stringText_injective same),
      fun text => by rw [text]⟩
  next noUuid =>
    split
    next t read =>
      have quoted : jsonText (.timestamp t) = Json.stringText t.text :=
        (Json.stringText_of_isBare t.isBare_text).symm
      rw [quoted, isCanonical_iff_of_timestamp noUuid read]
      exact ⟨fun same => by rw [Json.stringText_injective same, String.ofList_toList],
        fun text => by rw [← text, String.toList_ofList]⟩
    next noTimestamp => exact iff_of_true rfl (isCanonical_of_none noUuid noTimestamp)

theorem readAs_ofText (s : String) : ReadAs s (ofText s) where
  uuid u read := by rw [ofText, read]
  timestamp t noUuid read := by rw [ofText, noUuid, read]
  string noUuid noTimestamp := by rw [ofText, noUuid, noTimestamp]

end Strings

theorem isCanonical_uuid (u : Uuid) : IsCanonical u.text :=
  (isCanonical_iff_of_uuid u.read?_text).mpr rfl

theorem isCanonical_timestamp (t : Time.Timestamp) : IsCanonical (String.ofList t.text) := by
  have last : t.text.getLast? = some 'Z' := List.getLast?_concat
  have noUuid : Uuid.read? (String.ofList t.text).toList = none := by
    rw [String.toList_ofList]
    exact Uuid.read?_eq_none_of_getLast? last
  obtain ⟨same, read, text⟩ := Time.readRelaxed?_text t
  refine (isCanonical_iff_of_timestamp noUuid ?_).mpr (congrArg String.ofList text)
  rw [String.toList_ofList, read]

/-! ### Documents -/

theorem jsonText_ofJson_iff {document : Json} (whole : document.IsWhole) :
    (ofJson document).jsonText = document.text ↔
      ∀ s, document = .string s → IsCanonical s := by
  cases document with
  | null | bool | array | object => exact iff_of_true rfl nofun
  | number n =>
    obtain ⟨value, rfl⟩ := whole n rfl
    have least := value.le_toInt
    have greatest := value.toInt_lt
    refine iff_of_true ?_ nofun
    rw [ofJson, ofNumeral, if_pos ⟨least, greatest⟩, Int64.ofInt_toInt]
    rfl
  | string s =>
    rw [ofJson, Json.text, jsonText_ofText_iff]
    constructor
    · rintro canonical _ ⟨⟩
      exact canonical
    · intro canonical
      exact canonical s rfl

theorem readJson?_jsonText {scalar : Scalar} (whole : scalar.toJson.IsWhole)
    (ordered : scalar.toJson.IsOrdered) :
    readJson? (String.ofList scalar.jsonText) =
      if scalar.toJson.depth ≤ Json.maxDepth then some (ofJson scalar.toJson) else none := by
  rw [readJson?, ← text_toJson, Json.read?_text whole ordered]
  split <;> rfl

theorem toJson_of_spelled? {scalar : Scalar} {s : String} (spelled : scalar.spelled? = some s) :
    scalar.toJson = .string s := by
  unfold spelled? at spelled
  split at spelled <;> cases spelled <;> rfl

/-- UUIDs and timestamps become strings as well, but always canonical ones. -/
theorem spelled?_or_isCanonical {scalar : Scalar} {s : String} (same : scalar.toJson = .string s) :
    scalar.spelled? = some s ∨ IsCanonical s := by
  cases scalar with
  | null | bool | int | list => simp [toJson, Json.ofInt] at same
  | float x =>
    rw [toJson] at same
    split at same <;> cases same
  | uuid u =>
    rw [toJson, Json.string.injEq] at same
    exact .inr (same ▸ isCanonical_uuid u)
  | timestamp t =>
    rw [toJson, Json.string.injEq] at same
    exact .inr (same ▸ isCanonical_timestamp t)
  | string =>
    rw [toJson, Json.string.injEq] at same
    exact .inl (congrArg some same)
  | json =>
    rw [toJson] at same
    exact .inl (by rw [same, spelled?])

/-- A scalar without doubles is read back if it is nested at most 127 deep. What is read has the
same text, except for a string that spells a UUID or a timestamp in another way than they are
written: it becomes that UUID or timestamp. -/
theorem readJson?_jsonText_iff (v : Scalar) (whole : v.toJson.IsWhole)
    (ordered : v.toJson.IsOrdered) :
    ((∃ w, readJson? (String.ofList v.jsonText) = some w) ↔ v.toJson.depth ≤ 127) ∧
    ∀ w, readJson? (String.ofList v.jsonText) = some w →
      (w.jsonText = v.jsonText ↔ ∀ s, v.spelled? = some s → IsCanonical s) ∧
      ∀ s, v.spelled? = some s → ReadAs s w := by
  have read := readJson?_jsonText whole ordered
  rw [Json.maxDepth] at read
  rw [read]
  constructor
  · split <;> simp_all
  -- What is read is what the document of the scalar stands for.
  · intro w read
    split at read <;> cases read
    refine ⟨?_, fun s spelled => ?_⟩
    · rw [← text_toJson v, jsonText_ofJson_iff whole]
      constructor
      · exact fun canonical s spelled => canonical s (toJson_of_spelled? spelled)
      · intro canonical s same
        exact (spelled?_or_isCanonical same).elim (canonical s) id
    · rw [toJson_of_spelled? spelled]
      exact readAs_ofText s

/-- A UUID in capital letters stays a string inside a list, and becomes the UUID by itself. -/
theorem readJson?_jsonText_capitals :
    let capitals : Scalar := .string "67E55044-10B1-426F-9247-BB680E5FE0C8"
    let list : Scalar := .list [capitals, .int (-1), .json (.object [("a", .null), ("b", .null)])]
    (list.toJson.IsWhole ∧ list.toJson.IsOrdered ∧
      ∃ w, readJson? (String.ofList list.jsonText) = some w ∧ w.jsonText = list.jsonText) ∧
    capitals.toJson.IsWhole ∧ capitals.toJson.IsOrdered ∧
      ∃ w, readJson? (String.ofList capitals.jsonText) = some w ∧
        w = .uuid ⟨0x67e5504410b1426f9247bb680e5fe0c8⟩ := by
  intro capitals list
  have alone : capitals.toJson.IsWhole ∧ capitals.toJson.IsOrdered := by
    simp [capitals, toJson, Json.IsWhole, Json.IsOrdered, Json.All, Json.WholeNumber,
      Json.NamesAscend]
  have whole : list.toJson.IsWhole := by
    simp only [list, capitals, toJson, toJsonItems, Json.IsWhole, Json.All, Json.AllItems,
      Json.AllFields, Json.WholeNumber, Json.ofInt]
    exact ⟨by simp, by simp, fun _ same => ⟨-1, (Json.number.inj same).symm⟩, by simp⟩
  have names : ["a", "b"].Pairwise (· < ·) := by decide
  have ordered : list.toJson.IsOrdered := by
    simp only [list, capitals, toJson, toJsonItems, Json.IsOrdered, Json.All, Json.AllItems,
      Json.AllFields, Json.NamesAscend, Json.ofInt]
    refine ⟨by simp, by simp, by simp, ⟨fun fields same => ?_, by simp⟩, trivial⟩
    exact Json.object.inj same ▸ names
  obtain ⟨exists_iff, each⟩ := readJson?_jsonText_iff list whole ordered
  obtain ⟨w, read⟩ := exists_iff.mpr (by decide)
  obtain ⟨shallow, string⟩ := readJson?_jsonText_iff capitals alone.1 alone.2
  obtain ⟨u, here⟩ := shallow.mpr (by decide)
  have kept : w.jsonText = list.jsonText := (each w read).1.mpr (by simp [list, spelled?])
  exact ⟨⟨whole, ordered, w, read, kept⟩, alone.1, alone.2, u, here,
    ((string u here).2 _ rfl).uuid _ (by decide)⟩

/-- Capital letters get lost, and what is nested 128 deep is not read at all. -/
theorem readJson?_jsonText_lost :
    let capitals : Scalar := .string "67E55044-10B1-426F-9247-BB680E5FE0C8"
    let nested : Scalar := Nat.repeat (fun v => .list [v]) 128 .null
    (∃ w, readJson? (String.ofList capitals.jsonText) = some w ∧ w.jsonText ≠ capitals.jsonText) ∧
    readJson? (String.ofList nested.jsonText) = none := by
  intro capitals nested
  constructor
  · have whole : capitals.toJson.IsWhole := by
      simp [capitals, toJson, Json.IsWhole, Json.All, Json.WholeNumber]
    have ordered : capitals.toJson.IsOrdered := by
      simp [capitals, toJson, Json.IsOrdered, Json.All, Json.NamesAscend]
    exact ⟨_, (readJson?_jsonText whole ordered).trans (if_pos (by decide)), by decide⟩
  · have whole (n : Nat) : (Nat.repeat (fun v => Scalar.list [v]) n .null).toJson.IsWhole := by
      induction n with
      | zero => simp [Nat.repeat, toJson, Json.IsWhole, Json.All, Json.WholeNumber]
      | succ n ih => exact ⟨by simp [Json.WholeNumber], ih, trivial⟩
    have ordered (n : Nat) : (Nat.repeat (fun v => Scalar.list [v]) n .null).toJson.IsOrdered := by
      induction n with
      | zero => simp [Nat.repeat, toJson, Json.IsOrdered, Json.All, Json.NamesAscend]
      | succ n ih => exact ⟨by simp [Json.NamesAscend], ih, trivial⟩
    have depth (n : Nat) : (Nat.repeat (fun v => Scalar.list [v]) n .null).toJson.depth = n := by
      induction n with
      | zero => rfl
      | succ n ih => exact congrArg (· + 1) ((Nat.max_zero _).trans ih)
    rw [readJson?_jsonText (whole 128) (ordered 128), depth]
    exact if_neg (by decide)

end SqlWeave.Scalar

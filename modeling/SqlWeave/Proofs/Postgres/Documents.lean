import SqlWeave.Proofs.Postgres.Scalars
import SqlWeave.Proofs.Scalar.Document

/-!
# Scalars sent as documents

Every scalar can be sent as a document, and what is sent is the text that it is written as by itself
(`sentAs_document`).
-/
namespace SqlWeave.Postgres

/-- The bytes of a document; those of the type jsonb start with a version. -/
def documentBytes (type : BaseType) (text : List Char) : List UInt8 :=
  if type = .jsonb then 1 :: Text.utf8Bytes (String.ofList text)
  else Text.utf8Bytes (String.ofList text)

section Documents

variable {type : BaseType} (isDocument : type = .json ∨ type = .jsonb) {scalar : Scalar}
include isDocument

theorem sentAs_of_ne_null_iff (value : scalar ≠ .null) {bytes : List UInt8} :
    SentAs (.base type) scalar bytes ↔ bytes = documentBytes type scalar.jsonText := by
  have noNull : scalar.isNull = false := by
    cases scalar with
    | null => exact absurd rfl value
    | _ => rfl
  have ok {sent : List UInt8} :
      (Except.ok sent : Except EncodeFailure (List UInt8)) = .ok bytes ↔ bytes = sent := by
    rw [Except.ok.injEq, eq_comm]
  rw [← Scalar.text_toJson]
  rcases isDocument with rfl | rfl
  · exact (sentAs_of_hold_iff rfl (fun _ => rfl) noNull rfl).trans ok
  · exact (sentAs_of_hold_iff rfl (fun _ => rfl) noNull rfl).trans ok

theorem sentAs_document_iff {bytes : List UInt8} :
    SentAs (.base type) scalar bytes ↔
      scalar ≠ .null ∧ bytes = documentBytes type scalar.jsonText := by
  have known : type.isForeign = false := by rcases isDocument with rfl | rfl <;> rfl
  by_cases value : scalar = .null
  · -- What is sent as null is not sent as bytes.
    refine iff_of_false ?_ fun sent => sent.1 value
    rintro ⟨param, bound, sent⟩
    have null := (encode_of_bind bound).null.mpr ⟨known, value⟩
    rw [sent] at null
    cases null
  · rw [sentAs_of_ne_null_iff isDocument value]
    exact (and_iff_right value).symm

end Documents

/-- A scalar other than null is sent as the UTF-8 form of its JSON text, behind a version for jsonb,
and it makes no difference that it is turned into a document in between. Only null itself is sent as
null; the document null is sent as its text. -/
theorem sentAs_document (scalar : Scalar) :
    let text := Text.utf8Bytes (String.ofList scalar.jsonText)
    (∀ bytes, SentAs (.base .json) scalar bytes ↔ scalar ≠ .null ∧ bytes = text) ∧
    (∀ bytes, SentAs (.base .jsonb) scalar bytes ↔ scalar ≠ .null ∧ bytes = 1 :: text) ∧
    scalar.toJson.text = scalar.jsonText ∧
    (SentAsNull (.base .json) scalar ↔ scalar = .null) ∧
    (SentAsNull (.base .jsonb) scalar ↔ scalar = .null) ∧
    SentAs (.base .json) (.json .null) (Text.utf8Bytes "null") ∧
    SentAs (.base .jsonb) (.json .null) (1 :: Text.utf8Bytes "null") :=
  ⟨fun _ => sentAs_document_iff (.inl rfl), fun _ => sentAs_document_iff (.inr rfl),
    scalar.text_toJson, sentAsNull_iff rfl, sentAsNull_iff rfl,
    (sentAs_document_iff (.inl rfl)).mpr ⟨nofun, rfl⟩,
    (sentAs_document_iff (.inr rfl)).mpr ⟨nofun, rfl⟩⟩

end SqlWeave.Postgres

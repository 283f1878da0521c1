import SqlWeave.Proofs.Json.Strings
import SqlWeave.Proofs.Text.Padded
import SqlWeave.Proofs.Uuid
import SqlWeave.Scalar.Document

/-!
# Two ways of writing a scalar

A scalar can be written as JSON directly, or as the document that it is turned into first; the text
is the same (`text_toJson`). For UUIDs and timestamps that is because none of their characters needs
an escape.
-/
namespace SqlWeave

open Json (IsBare)

/-! ### Characters -/

theorem isBare_of_isDigit {c : Char} (isDigit : c.isDigit = true) : IsBare c :=
  Text.of_isDigit IsBare (by decide) isDigit

theorem isBare_hexDigit (n : Nat) : IsBare (Text.hexDigit n) := by
  have each : ∀ digit < 16, IsBare (Nat.digitChar digit) := by decide
  exact each (n % 16) (Nat.mod_lt n (by decide))

theorem isBare_hexPadded (width n : Nat) : ∀ c ∈ Text.hexPadded width n, IsBare c := by
  induction width generalizing n with
  | zero => exact List.forall_mem_nil _
  | succ width ih =>
    rw [Text.hexPadded, List.forall_mem_append, List.forall_mem_singleton]
    exact ⟨ih (n / 16), isBare_hexDigit n⟩

theorem isBare_decimalPadded (width n : Nat) : ∀ c ∈ Text.decimalPadded width n, IsBare c :=
  fun c member => isBare_of_isDigit (Text.isDigit_of_mem_decimalPadded c member)

namespace Uuid

theorem isBare_text (u : Uuid) : ∀ c ∈ u.text.toList, IsBare c := by
  intro c member
  rw [Uuid.text, String.toList_ofList] at member
  rcases mem_hyphenate member with rfl | digit
  · decide
  · exact isBare_hexPadded 32 _ c digit

end Uuid

namespace Time

theorem isBare_yearText (year : Int) : ∀ c ∈ yearText year, IsBare c := by
  unfold yearText
  split
  · exact isBare_decimalPadded 4 _
  · rw [List.forall_mem_cons]
    refine ⟨?_, isBare_decimalPadded 4 _⟩
    split <;> decide

theorem isBare_fractionText (nanos : Nat) : ∀ c ∈ fractionText nanos, IsBare c := by
  have point : IsBare '.' := by decide
  unfold fractionText
  split
  · exact List.forall_mem_nil _
  · split_ifs <;> exact List.forall_mem_cons.mpr ⟨point, isBare_decimalPadded _ _⟩

theorem Timestamp.isBare_text (t : Timestamp) : ∀ c ∈ t.text, IsBare c := by
  have number (n : Nat) : ∀ c ∈ Text.decimalPadded 2 n, IsBare c := isBare_decimalPadded 2 n
  simp only [Timestamp.text, List.forall_mem_append, List.forall_mem_cons, and_assoc]
  exact ⟨isBare_yearText _, by decide, number _, by decide, number _, by decide, number _,
    by decide, number _, by decide, number _, isBare_fractionText _,
    by decide, List.forall_mem_nil _⟩

end Time

/-! ### Scalars -/

namespace Scalar

mutual

theorem text_toJson (scalar : Scalar) : scalar.toJson.text = scalar.jsonText := by
  cases scalar with
  | null | bool | int | string | json => rfl
  | float x =>
    -- What is not finite is written as null by either way.
    by_cases finite : x.isFinite
    · rw [toJson, if_pos finite]
      rfl
    · rw [toJson, if_neg finite, jsonText, Json.doubleText, if_neg finite]
      rfl
  | uuid u => exact Json.stringText_of_isBare u.isBare_text
  | timestamp t =>
    rw [toJson, Json.text, String.toList_ofList]
    exact Json.stringText_of_isBare t.isBare_text
  | list items => rw [toJson, Json.text, itemsText_toJsonItems, jsonText]

theorem itemsText_toJsonItems (items : List Scalar) :
    Json.itemsText (toJsonItems items) = jsonTexts items := by
  match items with
  | [] => rfl
  | [item] => exact text_toJson item
  | item :: next :: others =>
    have rest := itemsText_toJsonItems (next :: others)
    rw [toJsonItems] at rest
    rw [toJsonItems, toJsonItems, Json.itemsText, text_toJson item, rest, jsonTexts]

end

end Scalar

end SqlWeave

import Mathlib.Data.List.Infix
import SqlWeave.TableSlot

/-!
# Slots of written tables

The place behind a segment is the slot of a written table if and only if the segment ends with
`INSERT INTO`, `UPDATE` or `DELETE FROM` as a whole word and does not mention `SELECT` anywhere
(`opensWrite_iff`). The keywords are told apart by their endings: `DELETE FROM` is the only one
that another keyword ends.
-/
namespace SqlWeave

namespace Operation

theorem mentions_iff {word text : List Char} : mentions word text = true ↔ word <:+: text := by
  induction text with
  | nil => rw [mentions, List.isEmpty_iff, List.infix_nil]
  | cons c text ih =>
    rw [mentions, Bool.or_eq_true, List.isPrefixOf_iff_prefix, ih, List.infix_cons_iff]

/-- A segment writes if it mentions one of the writes and does not mention reading. -/
theorem any_isWrite_detect?_iff {segment : String} :
    (detect? segment).any isWrite = true ↔
      (∃ operation ∈ [insert, update, delete],
        operation.word.toList <:+: Text.lowered segment) ∧
      ¬ select.word.toList <:+: Text.lowered segment := by
  simp only [← mentions_iff, detect?]
  -- Reading is looked for first, so a segment that mentions it is never taken for a write.
  cases reads : mentions select.word.toList (Text.lowered segment) with
  | true => simp [reads, isWrite]
  | false =>
    rw [List.find?_cons_of_neg (by simp [reads])]
    simp only [Option.any_eq_true, Bool.false_eq_true, not_false_eq_true, and_true]
    have mentioned : ([insert, update, delete].find? fun operation =>
        mentions operation.word.toList (Text.lowered segment)).isSome = true ↔ _ :=
      List.find?_isSome
    rw [← mentioned]
    constructor
    · rintro ⟨operation, found, -⟩
      exact Option.isSome_of_mem found
    · intro found
      obtain ⟨first, isFirst⟩ := Option.isSome_iff_exists.mp found
      have isWrite : ∀ operation ∈ [insert, update, delete], operation.isWrite = true := by decide
      exact ⟨first, isFirst, isWrite first (List.mem_of_find?_eq_some isFirst)⟩

end Operation

namespace TableSlot

variable {word other text : List Char} {segment : String} {slot : TableSlot}

/-! ### Whole words -/

/-- The text ends with the word, and the word does not continue an identifier. -/
def EndsInWord (word text : List Char) : Prop :=
  ∃ head, text = head ++ word ∧ ∀ c ∈ head.getLast?, continuesWord c = false

theorem EndsInWord.suffix (ends : EndsInWord word text) : word <:+ text := by
  obtain ⟨head, parts, -⟩ := ends
  exact ⟨head, parts.symm⟩

theorem endsWithWord_iff : endsWithWord word text = true ↔ EndsInWord word text := by
  rw [endsWithWord, Bool.and_eq_true, List.isPrefixOf_iff_prefix, List.reverse_prefix]
  constructor
  · rintro ⟨⟨head, rfl⟩, apart⟩
    refine ⟨head, rfl, fun c last => ?_⟩
    simpa [Option.mem_def.mp last] using apart
  · rintro ⟨head, rfl, apart⟩
    refine ⟨List.suffix_append head word, ?_⟩
    cases last : head.getLast? with
    | none => simp [last]
    | some c => simp [last, apart c last]

/-- Of two words at the end of a text one ends the other. -/
theorem EndsInWord.comparable (ends : EndsInWord word text) (endsToo : EndsInWord other text) :
    other <:+ word ∨ word <:+ other :=
  List.suffix_or_suffix_of_suffix endsToo.suffix ends.suffix

/-! ### Slots -/

/-- A segment in lower case, without the blanks at its end. -/
def folded (segment : String) : List Char := Text.foldCase (Text.trimEnd segment.toList)

theorem detect?_eq (segment : String) : detect? segment =
    if endsWithWord "distinct from".toList (folded segment) then none
    else all.find? fun slot => endsWithWord (Text.lowered slot.keyword) (folded segment) := rfl

theorem infix_lowered_of_endsInWord (ends : EndsInWord word (folded segment)) :
    word <:+: Text.lowered segment := by
  obtain ⟨blanks, parts, -⟩ := Text.trimEnd_append_blanks segment.toList
  have front : folded segment <+: Text.lowered segment := by
    refine ⟨Text.foldCase blanks, ?_⟩
    rw [Text.lowered, folded, ← Text.foldCase_append, ← parts]
  exact ends.suffix.isInfix.trans front.isInfix

/-- The slot that is found is one whose keyword ends the segment. -/
theorem endsInWord_of_detect? (detected : detect? segment = some slot) :
    EndsInWord (Text.lowered slot.keyword) (folded segment) := by
  rw [detect?_eq] at detected
  split at detected
  · cases detected
  · have here := List.find?_some detected
    exact endsWithWord_iff.mp here

/-- The slot of a written table is found whenever its keyword ends the segment. -/
theorem detect?_eq_some_iff (isWrite : slot.mutation?.isSome = true) :
    detect? segment = some slot ↔ EndsInWord (Text.lowered slot.keyword) (folded segment) := by
  refine ⟨endsInWord_of_detect?, fun ends => ?_⟩
  have here : endsWithWord (Text.lowered slot.keyword) (folded segment) = true :=
    endsWithWord_iff.mpr ends
  have apart (word : List Char)
      (incomparable : ¬ (word <:+ Text.lowered slot.keyword ∨ Text.lowered slot.keyword <:+ word)) :
      endsWithWord word (folded segment) = false := by
    by_contra ending
    exact incomparable (ends.comparable (endsWithWord_iff.mp (eq_true_of_ne_false ending)))
  have distinct : endsWithWord "distinct from".toList (folded segment) = false := by
    apply apart
    cases slot <;> first | decide | cases isWrite
  -- Nothing that is looked for earlier ends the same text.
  have first : all.find? (fun slot => endsWithWord (Text.lowered slot.keyword) (folded segment)) =
      some slot := by
    cases slot with
    | insertInto => exact List.find?_cons_of_pos here
    | deleteFrom =>
      have insertInto := apart (Text.lowered TableSlot.insertInto.keyword) (by decide)
      simp [all, insertInto, here]
    | update =>
      have insertInto := apart (Text.lowered TableSlot.insertInto.keyword) (by decide)
      have deleteFrom := apart (Text.lowered TableSlot.deleteFrom.keyword) (by decide)
      simp [all, insertInto, deleteFrom, here]
    | fromClause | joinClause | usingClause => cases isWrite
  rw [detect?_eq, distinct, if_neg Bool.false_ne_true, first]

/-! ### Written tables -/

/-- A segment that a name of a written table can follow. -/
structure OpensWrite (segment : String) : Prop where
  keyword : ∃ keyword ∈ ["insert into", "update", "delete from"],
    EndsInWord keyword.toList (folded segment)
  noSelect : ¬ "select".toList <:+: Text.lowered segment

/-- What is recorded after a segment depends on the keyword at its end and on reading alone. -/
theorem opensWrite_iff :
    OpensWrite segment ↔
      ∃ slot, detect? segment = some slot ∧ slot.recordsWrite segment = true := by
  constructor
  · rintro ⟨⟨keyword, member, ends⟩, noSelect⟩
    -- Each of the three keywords mentions the operation that belongs to it.
    have writeSlot : ∃ slot : TableSlot, ∃ operation ∈ [Operation.insert, .update, .delete],
        slot.mutation?.isSome = true ∧ Text.lowered slot.keyword = keyword.toList ∧
          operation.word.toList <:+: keyword.toList := by
      simp only [List.mem_cons, List.not_mem_nil, or_false] at member
      rcases member with rfl | rfl | rfl
      · exact ⟨.insertInto, .insert, by decide⟩
      · exact ⟨.update, .update, by decide⟩
      · exact ⟨.deleteFrom, .delete, by decide⟩
    obtain ⟨slot, operation, listed, isWrite, same, mentioned⟩ := writeSlot
    refine ⟨slot, (detect?_eq_some_iff isWrite).mpr (same ▸ ends), ?_⟩
    rw [recordsWrite, isWrite, Bool.true_and, Operation.any_isWrite_detect?_iff]
    exact ⟨⟨operation, listed, mentioned.trans (infix_lowered_of_endsInWord ends)⟩, noSelect⟩
  · rintro ⟨slot, detected, records⟩
    rw [recordsWrite, Bool.and_eq_true, Operation.any_isWrite_detect?_iff] at records
    obtain ⟨isWrite, -, noSelect⟩ := records
    refine ⟨⟨String.ofList (Text.lowered slot.keyword), ?_, ?_⟩, noSelect⟩
    · cases slot <;> first | decide | cases isWrite
    · simpa using endsInWord_of_detect? detected

instance : DecidablePred OpensWrite := fun segment =>
  decidable_of_iff ((detect? segment).any (·.recordsWrite segment) = true)
    (Option.any_eq_true _ _ |>.trans opensWrite_iff.symm)

example : OpensWrite "WITH old AS (Delete From " := by decide +kernel

example : ¬ OpensWrite "SELECT 1; UPDATE " := by decide +kernel

/-- A table that is only read is not recorded, whatever the segment mentions. -/
theorem not_opensWrite_of_reads (detected : detect? segment = some slot)
    (reads : slot.mutation? = none) : ¬ OpensWrite segment := by
  rw [opensWrite_iff]
  rintro ⟨found, foundHere, records⟩
  cases Option.some.inj (foundHere.symm.trans detected)
  simp [recordsWrite, reads] at records

end TableSlot

end SqlWeave

import SqlWeave.Proofs.TableSlot
import SqlWeave.Proofs.Text.Layout

/-!
# Keywords of two words

`INSERT INTO`, `DELETE FROM` and `IS DISTINCT FROM` are recognised with one space between their last
two words only. Any other white space there splits the phrase, and the segment is read without its
first word. That is all that layout can do: of two segments that differ in layout both open the same
slot if and only if both end with a split phrase or neither does (`detect?_eq_iff_splits`).
-/
namespace SqlWeave

open SqlWeave.Text (isLayout of_isLayout layoutChars IsGap IsSolid Rewraps append_gap_inj)

namespace TableSlot

/-- The last two words of a keyword, or of the predicate that ends like one. -/
def phrases : List (String × String) :=
  [("insert", "into"), ("delete", "from"), ("distinct", "from")]

/-- The text ends with both words of a phrase and this white space between them. -/
structure EndsInPhrase (phrase : String × String) (gap text : List Char) : Prop where
  isGap : IsGap gap
  ends : EndsInWord (phrase.1.toList ++ gap ++ phrase.2.toList) text

/-- The segment ends with a phrase in which something other than one space keeps the words apart. -/
def Splits (segment : String) : Prop :=
  ∃ phrase ∈ phrases, ∃ gap, EndsInPhrase phrase gap (folded segment) ∧ gap ≠ [' ']

variable {word text other gap gap' : List Char} {phrase phrase' : String × String}
  {segment rewrapped : String}

/-! ### Words and phrases in other layouts -/

theorem continuesWord_of_isLayout {c : Char} (layout : isLayout c = true) :
    continuesWord c = false := by
  have each : (layoutChars.all fun c => !continuesWord c) = true := by decide
  simpa using of_isLayout each layout

theorem rewraps_folded (rewraps : Rewraps segment.toList rewrapped.toList) :
    Rewraps (folded segment) (folded rewrapped) :=
  rewraps.trimEnd.foldCase

/-- White space never continues a word, so it may change in front of one. -/
theorem apart_of_rewraps (rewraps : Rewraps text other)
    (apart : ∀ c ∈ text.getLast?, continuesWord c = false) :
    ∀ c ∈ other.getLast?, continuesWord c = false := by
  intro c last
  rcases rewraps.getLast? c last with layout | known
  · exact continuesWord_of_isLayout layout
  · exact apart c known

theorem EndsInWord.of_rewraps (solid : IsSolid word)
    (rewraps : Rewraps text other) (ends : EndsInWord word text) : EndsInWord word other := by
  obtain ⟨head, rfl, apart⟩ := ends
  obtain ⟨front, rfl, heads⟩ := rewraps.strip_word_end solid
  exact ⟨front, rfl, apart_of_rewraps heads apart⟩

theorem endsWithWord_eq_of_rewraps (solid : IsSolid word)
    (rewraps : Rewraps text other) : endsWithWord word text = endsWithWord word other := by
  rw [Bool.eq_iff_iff, endsWithWord_iff, endsWithWord_iff]
  exact ⟨.of_rewraps solid rewraps, .of_rewraps solid rewraps.symm⟩

theorem solid_of_mem_phrases (known : phrase ∈ phrases) :
    IsSolid phrase.1.toList ∧ IsSolid phrase.2.toList := by
  have each : ∀ phrase ∈ phrases, IsSolid phrase.1.toList ∧ IsSolid phrase.2.toList := by decide
  exact each phrase known

theorem solid_getLast? (known : phrase ∈ phrases) (head : List Char) :
    ∀ c ∈ (head ++ phrase.1.toList).getLast?, isLayout c = false := by
  intro c last
  have nonempty : ∀ phrase ∈ phrases, phrase.1.toList ≠ [] := by decide
  -- The last character in front of the white space belongs to the first word.
  rw [List.getLast?_append_of_ne_nil _ (nonempty phrase known)] at last
  exact (solid_of_mem_phrases known).1 c (List.mem_of_getLast? last)

theorem EndsInPhrase.of_rewraps (known : phrase ∈ phrases) (rewraps : Rewraps text other)
    (ends : EndsInPhrase phrase gap text) : ∃ gap', EndsInPhrase phrase gap' other := by
  obtain ⟨isGap, head, rfl, apart⟩ := ends
  obtain ⟨firstSolid, secondSolid⟩ := solid_of_mem_phrases known
  -- The words are taken off from the right: the second one, the white space, the first one.
  simp only [← List.append_assoc] at rewraps
  obtain ⟨upToGap, rfl, upToGaps⟩ := rewraps.strip_word_end secondSolid
  obtain ⟨upToFirst, gap', rfl, isGap', upToFirsts⟩ :=
    upToGaps.strip_gap_end isGap (solid_getLast? known head)
  obtain ⟨front, rfl, heads⟩ := upToFirsts.strip_word_end firstSolid
  exact ⟨gap', isGap', front, by simp, apart_of_rewraps heads apart⟩

theorem EndsInPhrase.second (ends : EndsInPhrase phrase gap text) :
    EndsInWord phrase.2.toList text := by
  obtain ⟨isGap, head, rfl, -⟩ := ends
  refine ⟨head ++ (phrase.1.toList ++ gap), by simp, fun c last => ?_⟩
  -- In front of the second word stands white space, which continues no word.
  rw [← List.append_assoc, List.getLast?_append_of_ne_nil _ isGap.nonempty] at last
  exact continuesWord_of_isLayout (isGap.layout c (List.mem_of_getLast? last))

/-- A text ends with one phrase at most, laid out in one way. -/
theorem EndsInPhrase.unique (known : phrase ∈ phrases) (knownToo : phrase' ∈ phrases)
    (ends : EndsInPhrase phrase gap text) (endsToo : EndsInPhrase phrase' gap' text) :
    phrase = phrase' ∧ gap = gap' := by
  have seconds : phrase.2 = phrase'.2 := by
    have incomparable : ∀ p ∈ phrases, ∀ q ∈ phrases,
        q.2.toList <:+ p.2.toList ∨ p.2.toList <:+ q.2.toList → p.2 = q.2 := by decide
    exact incomparable phrase known phrase' knownToo (ends.second.comparable endsToo.second)
  obtain ⟨isGap, head, whole, -⟩ := ends
  obtain ⟨isGap', head', wholeToo, -⟩ := endsToo
  rw [whole, seconds] at wholeToo
  simp only [← List.append_assoc] at wholeToo
  -- The gaps begin where the last word in front of them ends, whichever word that is.
  obtain ⟨fronts, gaps⟩ := append_gap_inj isGap isGap' (solid_getLast? known head)
    (solid_getLast? knownToo head') (List.append_cancel_right wholeToo)
  refine ⟨?_, gaps⟩
  have firsts : phrase.1.toList <:+ phrase'.1.toList ∨ phrase'.1.toList <:+ phrase.1.toList :=
    List.suffix_or_suffix_of_suffix ⟨head, fronts⟩ ⟨head', rfl⟩
  have apart : ∀ p ∈ phrases, ∀ q ∈ phrases, p.2 = q.2 →
      p.1.toList <:+ q.1.toList ∨ q.1.toList <:+ p.1.toList → p = q := by decide
  exact apart phrase known phrase' knownToo seconds firsts

/-! ### Split phrases -/

theorem endsInPhrase_space_iff :
    EndsInPhrase phrase [' '] text ↔
      endsWithWord (phrase.1.toList ++ [' '] ++ phrase.2.toList) text = true := by
  have isGap : IsGap [' '] := by decide
  rw [endsWithWord_iff]
  exact ⟨EndsInPhrase.ends, fun ends => ⟨isGap, ends⟩⟩

theorem splits_iff_of_endsInPhrase (known : phrase ∈ phrases)
    (ends : EndsInPhrase phrase gap (folded segment)) : Splits segment ↔ gap ≠ [' '] := by
  constructor
  · rintro ⟨phrase', knownToo, gap', endsToo, split⟩
    obtain ⟨-, rfl⟩ := EndsInPhrase.unique known knownToo ends endsToo
    exact split
  · exact fun split => ⟨phrase, known, gap, ends, split⟩

/-- Where both segments split a phrase or neither does, the phrases recognised are the same. -/
theorem phrase_of_splits_iff (known : phrase ∈ phrases)
    (rewraps : Rewraps segment.toList rewrapped.toList) (splits : Splits segment ↔ Splits rewrapped)
    (recognised : EndsInPhrase phrase [' '] (folded segment)) :
    EndsInPhrase phrase [' '] (folded rewrapped) := by
  obtain ⟨gap, ends⟩ := recognised.of_rewraps known (rewraps_folded rewraps)
  rw [splits_iff_of_endsInPhrase known recognised, splits_iff_of_endsInPhrase known ends] at splits
  have oneSpace : gap = [' '] := by
    by_contra split
    exact splits.mpr split rfl
  exact oneSpace ▸ ends

theorem endsWithWord_phrase_eq (known : phrase ∈ phrases)
    (rewraps : Rewraps segment.toList rewrapped.toList)
    (splits : Splits segment ↔ Splits rewrapped) :
    endsWithWord (phrase.1.toList ++ [' '] ++ phrase.2.toList) (folded segment) =
      endsWithWord (phrase.1.toList ++ [' '] ++ phrase.2.toList) (folded rewrapped) := by
  rw [Bool.eq_iff_iff, ← endsInPhrase_space_iff, ← endsInPhrase_space_iff]
  exact ⟨phrase_of_splits_iff known rewraps splits,
    phrase_of_splits_iff known rewraps.symm splits.symm⟩

/-! ### Slots in other layouts -/

theorem detect?_eq_of_splits_iff (rewraps : Rewraps segment.toList rewrapped.toList)
    (splits : Splits segment ↔ Splits rewrapped) : detect? segment = detect? rewrapped := by
  -- Each test of the search is for a phrase or for one word, and gives the same for both segments.
  have predicate : ("distinct", "from") ∈ phrases := by decide
  have distinct := endsWithWord_phrase_eq predicate rewraps splits
  have keyword (slot : TableSlot) : endsWithWord (Text.lowered slot.keyword) (folded segment) =
      endsWithWord (Text.lowered slot.keyword) (folded rewrapped) := by
    have word (solid : IsSolid (Text.lowered slot.keyword)) :=
      endsWithWord_eq_of_rewraps solid (rewraps_folded rewraps)
    cases slot with
    | insertInto =>
      have known : ("insert", "into") ∈ phrases := by decide
      exact endsWithWord_phrase_eq known rewraps splits
    | deleteFrom =>
      have known : ("delete", "from") ∈ phrases := by decide
      exact endsWithWord_phrase_eq known rewraps splits
    | update | fromClause | joinClause | usingClause => exact word (by decide)
  have tests : "distinct from".toList = "distinct".toList ++ [' '] ++ "from".toList := by decide
  rw [detect?_eq, detect?_eq, tests, distinct, funext keyword]

/-- A phrase that is recognised in one layout and split in another gives another slot. -/
theorem detect?_ne_of_split (known : phrase ∈ phrases) (split : gap ≠ [' '])
    (ends : EndsInPhrase phrase gap (folded segment))
    (recognised : EndsInPhrase phrase [' '] (folded rewrapped)) :
    detect? segment ≠ detect? rewrapped := by
  intro same
  have ending := recognised.ends
  -- The segment with the split phrase does not end with the phrase as it is recognised.
  have missed : ¬ EndsInWord (phrase.1.toList ++ [' '] ++ phrase.2.toList) (folded segment) := by
    intro found
    have whole := endsInPhrase_space_iff.mpr (endsWithWord_iff.mpr found)
    exact split (EndsInPhrase.unique known known ends whole).2
  simp only [phrases, List.mem_cons, List.not_mem_nil, or_false] at known
  rcases known with rfl | rfl | rfl
  · have slot : detect? rewrapped = some .insertInto := (detect?_eq_some_iff rfl).mpr ending
    exact missed ((detect?_eq_some_iff rfl).mp (same.trans slot))
  · have slot : detect? rewrapped = some .deleteFrom := (detect?_eq_some_iff rfl).mpr ending
    exact missed ((detect?_eq_some_iff rfl).mp (same.trans slot))
  · -- The predicate opens no slot, but a split one leaves its last word.
    have noSlot : detect? rewrapped = none := by
      rw [detect?_eq]
      exact if_pos (endsWithWord_iff.mpr ending)
    have distinct : ¬ endsWithWord "distinct from".toList (folded segment) = true :=
      fun found => missed (endsWithWord_iff.mp found)
    rw [noSlot, detect?_eq, if_neg distinct, List.find?_eq_none] at same
    exact same .fromClause (by decide) (endsWithWord_iff.mpr ends.second)

/-- Layout changes the slot behind a segment exactly when it splits a phrase at its end. -/
theorem detect?_eq_iff_splits (rewraps : Rewraps segment.toList rewrapped.toList) :
    detect? segment = detect? rewrapped ↔ (Splits segment ↔ Splits rewrapped) := by
  have whole {segment rewrapped : String} (rewraps : Rewraps segment.toList rewrapped.toList)
      (same : detect? segment = detect? rewrapped) : Splits segment → Splits rewrapped := by
    rintro ⟨phrase, known, gap, ends, split⟩
    obtain ⟨gap', ends'⟩ := ends.of_rewraps known (rewraps_folded rewraps)
    rw [splits_iff_of_endsInPhrase known ends']
    rintro rfl
    exact detect?_ne_of_split known split ends ends' same
  constructor
  · intro same
    exact ⟨whole rewraps same, whole rewraps.symm same.symm⟩
  · exact detect?_eq_of_splits_iff rewraps

end TableSlot

/-- A segment mentions the same operations in every layout. -/
theorem Operation.detect?_eq_of_rewraps {segment rewrapped : String}
    (rewraps : Rewraps segment.toList rewrapped.toList) : detect? segment = detect? rewrapped := by
  have mentioned (operation : Operation) :
      mentions operation.word.toList (Text.lowered segment) =
        mentions operation.word.toList (Text.lowered rewrapped) := by
    have solid : IsSolid operation.word.toList := by cases operation <;> decide
    have nonempty : operation.word.toList ≠ [] := by cases operation <;> decide
    rw [Bool.eq_iff_iff, mentions_iff, mentions_iff]
    exact rewraps.foldCase.word_inside_iff solid nonempty
  simp only [detect?, mentioned]

end SqlWeave

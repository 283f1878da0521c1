import SqlWeave.Text.Blank
import SqlWeave.Text.Case

/-!
# Layout

Breaking lines and indenting differently replaces runs of ASCII white space by other runs, neither
of them empty. Everything else of the text stays and keeps its order, so words without white space
are found in the one text where they are found in the other.
-/
namespace SqlWeave.Text

/-- The white space of ASCII. -/
def layoutChars : List Char := [' ', '\t', '\n', '\x0b', '\x0c', '\r']

def isLayout (c : Char) : Bool := layoutChars.contains c

/-- What holds of the six characters holds of all white space. -/
theorem of_isLayout {p : Char → Bool} {c : Char} (each : layoutChars.all p = true)
    (layout : isLayout c = true) : p c = true :=
  List.all_eq_true.mp each c (List.contains_iff_mem.mp layout)

theorem isBlank_of_isLayout {c : Char} (layout : isLayout c = true) : isBlank c = true :=
  of_isLayout (by decide) layout

/-- White space between two parts of a text. -/
structure IsGap (gap : List Char) : Prop where
  nonempty : gap ≠ []
  layout : ∀ c ∈ gap, isLayout c = true

instance : DecidablePred IsGap := fun gap =>
  decidable_of_iff (gap ≠ [] ∧ gap.all isLayout = true) (by
    rw [List.all_eq_true]
    exact ⟨fun ⟨nonempty, layout⟩ => ⟨nonempty, layout⟩,
      fun ⟨nonempty, layout⟩ => ⟨nonempty, layout⟩⟩)

/-- A text without white space. -/
def IsSolid (text : List Char) : Prop := ∀ c ∈ text, isLayout c = false

instance : DecidablePred IsSolid := fun text =>
  decidable_of_iff ((text.all fun c => !isLayout c) = true) (by simp [IsSolid])

theorem IsSolid.reverse {text : List Char} (solid : IsSolid text) : IsSolid text.reverse :=
  fun c member => solid c (List.mem_reverse.mp member)

theorem IsGap.reverse {gap : List Char} (isGap : IsGap gap) : IsGap gap.reverse :=
  ⟨by simpa using isGap.nonempty, by simpa using isGap.layout⟩

theorem dropWhile_gap {gap text : List Char} (layout : ∀ c ∈ gap, isLayout c = true)
    (solid : ∀ c ∈ text.head?, isLayout c = false) : (gap ++ text).dropWhile isLayout = text := by
  rw [List.dropWhile_append_of_pos layout]
  cases text with
  | nil => rfl
  | cons c text => rw [List.dropWhile_cons_of_neg (by simp [solid c rfl])]

/-- Where the white space at the end of a text begins is not a matter of choice. -/
theorem append_gap_inj {a b gap other : List Char} (isGap : IsGap gap) (isOther : IsGap other)
    (solid : ∀ c ∈ a.getLast?, isLayout c = false) (solidToo : ∀ c ∈ b.getLast?, isLayout c = false)
    (same : a ++ gap = b ++ other) : a = b ∧ gap = other := by
  -- What is left when all white space at the end is taken off is the text in front of it.
  have front {text gap : List Char} (isGap : IsGap gap)
      (solid : ∀ c ∈ text.getLast?, isLayout c = false) :
      (text ++ gap).reverse.dropWhile isLayout = text.reverse := by
    rw [List.reverse_append]
    exact dropWhile_gap isGap.reverse.layout (by simpa using solid)
  have fronts : a.reverse = b.reverse := by rw [← front isGap solid, same, front isOther solidToo]
  have equal : a = b := List.reverse_inj.mp fronts
  exact ⟨equal, List.append_cancel_left (equal ▸ same)⟩

/-- A text in which gaps have been replaced by other gaps. -/
inductive Rewraps : List Char → List Char → Prop
  | nil : Rewraps [] []
  | char (c : Char) {a b : List Char} : Rewraps a b → Rewraps (c :: a) (c :: b)
  | gap {r r' a b : List Char} : IsGap r → IsGap r' → Rewraps a b → Rewraps (r ++ a) (r' ++ b)

namespace Rewraps

variable {a b a' b' word : List Char}

theorem refl : ∀ a : List Char, Rewraps a a
  | [] => .nil
  | c :: a => .char c (refl a)

theorem symm (rewraps : Rewraps a b) : Rewraps b a := by
  induction rewraps with
  | nil => exact .nil
  | char c _ ih => exact .char c ih
  | gap first second _ ih => exact .gap second first ih

theorem append (first : Rewraps a b) (second : Rewraps a' b') : Rewraps (a ++ a') (b ++ b') := by
  induction first with
  | nil => exact second
  | char c _ ih => exact .char c ih
  | gap isGap isOther _ ih =>
    rw [List.append_assoc, List.append_assoc]
    exact .gap isGap isOther ih

theorem of_gap (isGap : IsGap a) (isOther : IsGap b) : Rewraps a b := by
  simpa using Rewraps.gap isGap isOther .nil

theorem reverse (rewraps : Rewraps a b) : Rewraps a.reverse b.reverse := by
  induction rewraps with
  | nil => exact .nil
  | char c _ ih =>
    rw [List.reverse_cons, List.reverse_cons]
    exact ih.append (refl [c])
  | gap isGap isOther _ ih =>
    rw [List.reverse_append, List.reverse_append]
    exact ih.append (.of_gap isGap.reverse isOther.reverse)

theorem foldCase (rewraps : Rewraps a b) : Rewraps (foldCase a) (foldCase b) := by
  have stays {r : List Char} (isGap : IsGap r) : IsGap (Text.foldCase r) := by
    constructor
    · simpa [Text.foldCase] using isGap.nonempty
    · intro c member
      obtain ⟨original, inside, rfl⟩ := List.mem_map.mp member
      have each : (layoutChars.all fun c => isLayout c.toLower) = true := by decide
      have small := of_isLayout each (isGap.layout original inside)
      exact small
  induction rewraps with
  | nil => exact .nil
  | char c _ ih => exact .char c.toLower ih
  | gap isGap isOther _ ih =>
    rw [foldCase_append, foldCase_append]
    exact .gap (stays isGap) (stays isOther) ih

/-- Taking off what is at least all layout at the front takes off the same but for layout. -/
theorem dropWhile {p : Char → Bool} (all : ∀ c, isLayout c = true → p c = true)
    (rewraps : Rewraps a b) : Rewraps (a.dropWhile p) (b.dropWhile p) := by
  induction rewraps with
  | nil => exact .nil
  | @char c _ _ rest ih =>
    cases dropped : p c with
    | true => simpa [List.dropWhile_cons, dropped] using ih
    | false => simpa [List.dropWhile_cons, dropped] using Rewraps.char c rest
  | gap isGap isOther _ ih =>
    rw [List.dropWhile_append_of_pos fun c member => all c (isGap.layout c member),
      List.dropWhile_append_of_pos fun c member => all c (isOther.layout c member)]
    exact ih

theorem trimEnd (rewraps : Rewraps a b) : Rewraps (trimEnd a) (trimEnd b) :=
  (rewraps.reverse.dropWhile fun _ => isBlank_of_isLayout).reverse

/-! ### Words -/

/-- A text that begins with a word goes on with a text laid out differently. -/
theorem strip_word (solid : IsSolid word) (rewraps : Rewraps (word ++ a) b) :
    ∃ rest, b = word ++ rest ∧ Rewraps a rest := by
  induction word generalizing b with
  | nil => exact ⟨b, rfl, rewraps⟩
  | cons c word ih =>
    obtain ⟨noLayout, solid⟩ := List.forall_mem_cons.mp solid
    generalize whole : c :: word ++ a = text at rewraps
    cases rewraps with
    | nil => cases whole
    | char other rest =>
      obtain ⟨rfl, rfl⟩ := List.cons.inj whole
      obtain ⟨others, rfl, ends⟩ := ih solid rest
      exact ⟨others, rfl, ends⟩
    | @gap r _ _ _ isGap =>
      -- A gap cannot stand where the word has a character.
      obtain ⟨first, r, rfl⟩ := List.exists_cons_of_ne_nil isGap.nonempty
      obtain ⟨rfl, -⟩ := List.cons.inj whole
      rw [isGap.layout c List.mem_cons_self] at noLayout
      cases noLayout

theorem strip_word_end (solid : IsSolid word) (rewraps : Rewraps (a ++ word) b) :
    ∃ front, b = front ++ word ∧ Rewraps a front := by
  have backwards := rewraps.reverse
  rw [List.reverse_append] at backwards
  obtain ⟨rest, parts, ends⟩ := strip_word solid.reverse backwards
  refine ⟨rest.reverse, ?_, by simpa using ends.reverse⟩
  simpa using congrArg List.reverse parts

/-- The gap at the front of a text is another gap in the other text. -/
theorem strip_gap {gap : List Char} (isGap : IsGap gap) (solid : ∀ c ∈ a.head?, isLayout c = false)
    (rewraps : Rewraps (gap ++ a) b) : ∃ other rest, b = other ++ rest ∧ IsGap other ∧
      Rewraps a rest := by
  have rest := rewraps.dropWhile fun _ => id
  rw [dropWhile_gap isGap.layout solid] at rest
  refine ⟨b.takeWhile isLayout, b.dropWhile isLayout, List.takeWhile_append_dropWhile.symm,
    ⟨?nonempty, ?layout⟩, rest⟩
  case layout => exact fun c member => List.all_eq_true.mp List.all_takeWhile c member
  case nonempty =>
    -- Both texts begin with white space, because neither a word nor the end can stand there.
    obtain ⟨c, gap, rfl⟩ := List.exists_cons_of_ne_nil isGap.nonempty
    have layout := isGap.layout c List.mem_cons_self
    generalize whole : c :: gap ++ a = text at rewraps
    cases rewraps with
    | nil => cases whole
    | char other =>
      obtain ⟨rfl, -⟩ := List.cons.inj whole
      simp [layout]
    | @gap r r' _ _ _ isOther =>
      obtain ⟨first, r', rfl⟩ := List.exists_cons_of_ne_nil isOther.nonempty
      simp [isOther.layout first List.mem_cons_self]

theorem strip_gap_end {gap : List Char} (isGap : IsGap gap)
    (solid : ∀ c ∈ a.getLast?, isLayout c = false) (rewraps : Rewraps (a ++ gap) b) :
    ∃ front other, b = front ++ other ∧ IsGap other ∧ Rewraps a front := by
  have backwards := rewraps.reverse
  rw [List.reverse_append] at backwards
  obtain ⟨other, rest, parts, isOther, ends⟩ :=
    strip_gap isGap.reverse (by simpa using solid) backwards
  refine ⟨rest.reverse, other.reverse, ?_, isOther.reverse, by simpa using ends.reverse⟩
  simpa using congrArg List.reverse parts

/-- The first characters are the same, or both are layout. -/
theorem head? (rewraps : Rewraps a b) :
    ∀ d ∈ b.head?, isLayout d = true ∨ d ∈ a.head? := by
  intro d first
  cases rewraps with
  | nil => cases first
  | char c => exact .inr first
  | @gap r r' _ _ _ isOther =>
    obtain ⟨c, r', rfl⟩ := List.exists_cons_of_ne_nil isOther.nonempty
    cases first
    exact .inl (isOther.layout d List.mem_cons_self)

theorem getLast? (rewraps : Rewraps a b) :
    ∀ d ∈ b.getLast?, isLayout d = true ∨ d ∈ a.getLast? := by
  simpa only [List.head?_reverse] using rewraps.reverse.head?

/-- A word in a text is in every text that differs in layout. -/
theorem word_inside (solid : IsSolid word) (nonempty : word ≠ [])
    (rewraps : Rewraps a b) (inside : word <:+: a) : word <:+: b := by
  induction rewraps with
  | nil => exact inside
  | @char c a b rest ih =>
    rcases List.infix_cons_iff.mp inside with ⟨others, here⟩ | later
    · -- The word starts at this character, so both texts begin with it.
      have whole : Rewraps (word ++ others) (c :: b) := here ▸ Rewraps.char c rest
      obtain ⟨others', parts, -⟩ := strip_word solid whole
      exact ⟨[], others', parts.symm⟩
    · exact List.infix_cons_iff.mpr (.inr (ih later))
  | @gap r r' a b isGap _ _ ih =>
    refine (ih ?_).trans (List.suffix_append r' b).isInfix
    -- The word starts at no character of the gap.
    have layout := isGap.layout
    clear isGap
    induction r with
    | nil => exact inside
    | cons c r others =>
      obtain ⟨here, layout⟩ := List.forall_mem_cons.mp layout
      rcases List.infix_cons_iff.mp inside with starts | later
      · obtain ⟨first, word, rfl⟩ := List.exists_cons_of_ne_nil nonempty
        obtain ⟨_, starts⟩ := starts
        obtain ⟨rfl, -⟩ := List.cons.inj starts
        rw [solid first List.mem_cons_self] at here
        cases here
      · exact others later layout

theorem word_inside_iff (solid : IsSolid word) (nonempty : word ≠ [])
    (rewraps : Rewraps a b) : word <:+: a ↔ word <:+: b :=
  ⟨word_inside solid nonempty rewraps, word_inside solid nonempty rewraps.symm⟩

end Rewraps

end SqlWeave.Text

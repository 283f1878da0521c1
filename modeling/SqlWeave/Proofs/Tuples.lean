import SqlWeave.Proofs.Text.Digits
import SqlWeave.Text.Case

/-!
# Lists of tuples

The grammar of a written batch: rows in parentheses, with commas between rows and between the cells
of a row. A cell is a placeholder, or a word of ASCII letters that spells a keyword. Cells hold
neither commas nor parentheses, so such a text can be read in one way only (`read?_text`).
-/
namespace SqlWeave

/-- A cell of a list of tuples. -/
inductive Cell where
  | slot (number : Nat)
  | keyword (word : List Char)
deriving DecidableEq, Repr

namespace Cell

def text : Cell → List Char
  | .slot number => '$' :: Text.decimal number
  | .keyword word => word

def number? : Cell → Option Nat
  | .slot number => some number
  | .keyword _ => none

/-- A word of ASCII letters that is the keyword, in whatever case. -/
def Spells (keyword : String) (word : List Char) : Prop :=
  word ≠ [] ∧ word.all Char.isAlpha = true ∧ Text.foldCase word = Text.lowered keyword

instance (keyword : String) (word : List Char) : Decidable (Spells keyword word) :=
  inferInstanceAs (Decidable (word ≠ [] ∧ word.all Char.isAlpha = true ∧ _))

/-- A placeholder, or a word that spells the keyword. -/
def Legible (keyword : String) : Cell → Prop
  | .slot _ => True
  | .keyword word => Spells keyword word

/-- Reads a text that is one cell. -/
def read? (keyword : String) : List Char → Option Cell
  | '$' :: digits => (Text.readDecimal? digits).map .slot
  | word => if Spells keyword word then some (.keyword word) else none

variable {keyword : String} {cell : Cell}

theorem read?_text (legible : cell.Legible keyword) : read? keyword cell.text = some cell := by
  cases cell with
  | slot number =>
    have digits := (Text.Digits.ofNat number).readDecimal?_chars
    rw [Text.Digits.value_ofNat, Text.Digits.chars_ofNat] at digits
    rw [text, read?, digits]
    rfl
  | keyword word =>
    -- A word of letters is not taken for a placeholder.
    have noDollar (digits : List Char) (dollar : word = '$' :: digits) : False := by
      have letter := List.all_eq_true.mp legible.2.1 '$' (by simp [dollar])
      cases letter
    have spells : Spells keyword word := legible
    rw [text, read?.eq_2 _ _ noDollar, if_pos spells]

theorem notMem_text (legible : cell.Legible keyword) {c : Char} (punctuation : c ∈ [',', ')']) :
    c ∉ cell.text := by
  have noWord : c.isAlpha = false ∧ c.isDigit = false ∧ c ≠ '$' := by
    simp only [List.mem_cons, List.not_mem_nil, or_false] at punctuation
    rcases punctuation with rfl | rfl <;> decide
  intro member
  cases cell with
  | slot number =>
    rcases List.mem_cons.mp member with dollar | digit
    · exact noWord.2.2 dollar
    · have isDigit := (Text.Digits.ofNat number).areDigits c digit
      cases noWord.2.1.symm.trans isDigit
  | keyword word => cases noWord.1.symm.trans (List.all_eq_true.mp legible.2.1 c member)

end Cell

namespace Tuples

/-- Cells with commas between them. -/
def cellsText (row : List Cell) : List Char := [','].intercalate (row.map Cell.text)

def rowText (row : List Cell) : List Char := '(' :: cellsText row ++ [')']

def text (rows : List (List Cell)) : List Char := [','].intercalate (rows.map rowText)

/-- Reads a row behind a comma and in front of its closing parenthesis. -/
def readRow? (keyword : String) : List Char → Option (List Cell)
  | ',' :: '(' :: cells => (cells.splitOn ',').mapM (Cell.read? keyword)
  | _ => none

/-- Reads a text that is a list of tuples. Each row ends with a parenthesis, and nothing follows the
last one; the comma that the first row lacks is put in front of it. -/
def read? (keyword : String) (text : List Char) : Option (List (List Cell)) :=
  match ((',' :: text).splitOn ')').reverse with
  | [] :: rows => rows.reverse.mapM (readRow? keyword)
  | _ => none

variable {keyword : String} {row : List Cell} {rows : List (List Cell)}

theorem mapM_map_eq_some {α β : Type} {read? : β → Option α} {print : α → β} {items : List α}
    (each : ∀ item ∈ items, read? (print item) = some item) :
    (items.map print).mapM read? = some items := by
  induction items with
  | nil => rfl
  | cons item items ih =>
    obtain ⟨first, others⟩ := List.forall_mem_cons.mp each
    rw [List.map_cons, List.mapM_cons, first, ih others]
    rfl

theorem readRow?_cells (legible : ∀ cell ∈ row, cell.Legible keyword) (nonempty : row ≠ []) :
    readRow? keyword (',' :: '(' :: cellsText row) = some row := by
  have separated : ∀ text ∈ row.map Cell.text, ',' ∉ text := by
    intro text member
    obtain ⟨cell, found, rfl⟩ := List.mem_map.mp member
    exact Cell.notMem_text (legible cell found) (by simp)
  rw [readRow?, cellsText, List.splitOn_intercalate ',' separated (by simpa using nonempty)]
  exact mapM_map_eq_some fun cell member => Cell.read?_text (legible cell member)

theorem parenthesis_notMem_cells (legible : ∀ cell ∈ row, cell.Legible keyword) :
    ')' ∉ cellsText row := by
  induction row with
  | nil => simp [cellsText]
  | cons cell row ih =>
    obtain ⟨first, others⟩ := List.forall_mem_cons.mp legible
    have here : ')' ∉ cell.text := Cell.notMem_text first (by simp)
    have rest := ih others
    cases row with
    | nil => simpa [cellsText] using here
    | cons next row =>
      simp only [cellsText, List.map_cons] at rest
      simp [cellsText, here, rest]

/-- Rows are what stands between closing parentheses. -/
theorem comma_text (rows_ne : rows ≠ []) :
    ',' :: text rows = [')'].intercalate
      (rows.map (fun row => ',' :: '(' :: cellsText row) ++ [[]]) := by
  induction rows with
  | nil => exact absurd rfl rows_ne
  | cons row rows ih =>
    cases rows with
    | nil => simp [text, rowText]
    | cons next rows =>
      -- The comma between two rows is the one in front of the second.
      have rest := ih (List.cons_ne_nil next rows)
      simp only [text, List.map_cons, List.cons_append] at rest ⊢
      rw [List.intercalate_cons_cons, List.intercalate_cons_cons, ← rest]
      simp [rowText]

/-- A list of tuples is read back from its text. -/
theorem read?_text (legible : ∀ row ∈ rows, ∀ cell ∈ row, cell.Legible keyword)
    (nonempty : ∀ row ∈ rows, row ≠ []) (rows_ne : rows ≠ []) :
    read? keyword (text rows) = some rows := by
  have separated : ∀ piece ∈ rows.map (fun row => ',' :: '(' :: cellsText row) ++ [[]],
      ')' ∉ piece := by
    intro piece member
    rcases List.mem_append.mp member with inside | last
    · obtain ⟨row, found, rfl⟩ := List.mem_map.mp inside
      simpa using parenthesis_notMem_cells (legible row found)
    · simp [List.mem_singleton.mp last]
  -- Nothing stands behind the last parenthesis, and everything in front of it is a row.
  rw [read?, comma_text rows_ne, List.splitOn_intercalate ')' separated (by simp)]
  simp only [List.reverse_append, List.reverse_singleton, List.singleton_append,
    List.reverse_reverse]
  exact mapM_map_eq_some fun row member =>
    readRow?_cells (legible row member) (nonempty row member)

example : read? "DEFAULT" "($1,default),($02,$3)".toList =
    some [[.slot 1, .keyword "default".toList], [.slot 2, .slot 3]] := by decide

example : read? "DEFAULT" "($1,now())".toList = none := by decide

end Tuples

end SqlWeave

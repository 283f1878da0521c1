import SqlWeave.Proofs.Json.Numerals
import SqlWeave.Proofs.Json.Ordering
import SqlWeave.Proofs.Json.Strings

/-!
# Documents read back

A document whose numbers are whole is read back from its text exactly if it is not nested too deep
(`read?_text`). Each kind of document has its own lemma about the tree that is found in its text.
-/
namespace SqlWeave.Json

/-- If it is a number, it is a whole number of 64 bits. -/
def WholeNumber (document : Json) : Prop :=
  ∀ n, document = .number n → ∃ value : Int64, n = .int value.toInt

/-- All numbers are whole numbers of 64 bits. -/
def IsWhole : Json → Prop := All WholeNumber

mutual

/-- How deep arrays and objects are nested. -/
def depth : Json → Nat
  | .array items => itemsDepth items + 1
  | .object fields => fieldsDepth fields + 1
  | _ => 0

def itemsDepth : List Json → Nat
  | [] => 0
  | item :: items => max (depth item) (itemsDepth items)

def fieldsDepth : List (String × Json) → Nat
  | [] => 0
  | (_, value) :: fields => max (depth value) (fieldsDepth fields)

end

/-! ### Trees that are read -/

/-- Behind blanks the text starts with a character that does not close an array. -/
def StartsValue (text : List Char) : Prop :=
  ∃ first rest, text = first :: rest ∧ isSpace first = false ∧ first ≠ ']'

/-- The tree is what readers with enough fuel find in the text of the document, and it becomes the
document as far as nesting is allowed. -/
structure IsRead (document : Json) (tree : Tree) : Prop where
  starts : StartsValue document.text
  read : ∀ fuel rest, EndsValue rest → 2 * document.text.length ≤ fuel →
    readTree? (fuel + 1) (document.text ++ rest) = some (tree, rest)
  value : ∀ depth, ofTree? depth tree = if document.depth ≤ depth then some document else none

structure AreRead (items : List Json) (trees : List Tree) : Prop where
  starts : StartsValue (itemsText items)
  read : ∀ fuel rest, 2 * (itemsText items).length ≤ fuel →
    readItems? (fuel + 2) (itemsText items ++ ']' :: rest) = some (trees, rest)
  value : ∀ depth, ofItems? depth trees = if itemsDepth items ≤ depth then some items else none

structure FieldsRead (fields : List (String × Json)) (trees : List (Option String × Tree)) :
    Prop where
  starts : ∃ rest, fieldsText fields = '"' :: rest
  read : ∀ fuel rest, 2 * (fieldsText fields).length ≤ fuel →
    readFields? (fuel + 2) (fieldsText fields ++ '\x7d' :: rest) = some (trees, rest)
  value : ∀ depth,
    ofTreeFields? depth trees = if fieldsDepth fields ≤ depth then some fields else none

theorem skipSpace_cons {c : Char} (noSpace : isSpace c = false) (rest : List Char) :
    skipSpace (c :: rest) = c :: rest :=
  List.dropWhile_cons_of_neg (by simp [noSpace])

/-! #### Documents without parts -/

theorem isRead_null : IsRead .null .null where
  starts := ⟨'n', _, rfl, by decide, by decide⟩
  read fuel rest _ _ := rfl
  value depth := by simp [ofTree?, Json.depth]

theorem isRead_bool (b : Bool) : IsRead (.bool b) (.bool b) where
  starts := by cases b <;> exact ⟨_, _, rfl, by decide, by decide⟩
  read fuel rest _ _ := by cases b <;> rfl
  value depth := by simp [ofTree?, Json.depth]

theorem isRead_string (s : String) : IsRead (.string s) (.string (some s)) where
  starts := ⟨'"', _, rfl, by decide, by decide⟩
  read fuel rest _ _ := by
    have body := readString?_escaped s.toList rest
    have quoted : (Json.string s).text ++ rest =
        '"' :: (s.toList.flatMap escapedChar ++ '"' :: rest) := by
      simp [text, stringText]
    rw [quoted, readTree?, skipSpace_cons (by decide)]
    simp only [body, Option.map_some, String.ofList_toList]
  value depth := by simp [ofTree?, Json.depth]

theorem decimalInt_eq_cons (n : Int) :
    ∃ first others, Text.decimalInt n = first :: others ∧ (first = '-' ∨ first.isDigit = true) := by
  unfold Text.decimalInt
  split
  next => exact ⟨'-', _, rfl, .inl rfl⟩
  next =>
    obtain ⟨first, others, digits, isDigit⟩ := Text.exists_decimal_eq_cons n.natAbs
    exact ⟨first, others, digits, .inr isDigit⟩

section Numbers

variable {first : Char} (isNumber : first = '-' ∨ first.isDigit = true)
include isNumber

theorem ne_of_number {mark : Char} (other : mark ≠ '-' ∧ mark.isDigit = false) : first ≠ mark := by
  rintro rfl
  simp [other] at isNumber

theorem isSpace_of_number : isSpace first = false := by
  have different {blank : Char} (other : blank ≠ '-' ∧ blank.isDigit = false) : first ≠ blank :=
    ne_of_number isNumber other
  simp [isSpace, different]

theorem readTree?_number (fuel : Nat) (others : List Char) :
    readTree? (fuel + 1) (first :: others) =
      (readNumber? (first :: others)).map fun (l, rest) => (.number l, rest) := by
  rw [readTree?, skipSpace_cons (isSpace_of_number isNumber)]
  -- All other values start with a mark of their own.
  split
  case h_7 => rfl
  all_goals
    rename_i same
    exact absurd (List.cons.inj same).1 (ne_of_number isNumber (by decide))

end Numbers

theorem isRead_int (value : Int64) :
    IsRead (.number (.int value.toInt)) (.number (.ofInt value.toInt)) where
  starts := by
    obtain ⟨first, others, written, isNumber⟩ := decimalInt_eq_cons value.toInt
    exact ⟨first, others, written, isSpace_of_number isNumber,
      ne_of_number isNumber (by decide)⟩
  read fuel rest ends _ := by
    have number := readNumber?_decimalInt ends value.toInt
    obtain ⟨first, others, written, isNumber⟩ := decimalInt_eq_cons value.toInt
    rw [written, List.cons_append] at number
    rw [text, numeralText, written, List.cons_append, readTree?_number isNumber, number]
    rfl
  value depth := by
    have small : -0x8000000000000000 ≤ value.toInt ∧ value.toInt ≤ maxWord := by
      have words : maxWord = 0xFFFFFFFFFFFFFFFF := rfl
      have least := value.le_toInt
      have greatest := value.toInt_lt
      omega
    simp [ofTree?, Json.depth, numeral?_ofInt small.1 small.2]

theorem isRead_emptyArray : IsRead (.array []) (.array []) where
  starts := ⟨'[', _, rfl, by decide, by decide⟩
  read fuel rest _ _ := rfl
  value depth := by
    cases depth <;> simp [ofTree?, ofItems?, Json.depth, itemsDepth]

theorem isRead_emptyObject : IsRead (.object []) (.object []) where
  starts := ⟨'\x7b', _, rfl, by decide, by decide⟩
  read fuel rest _ _ := rfl
  value depth := by
    cases depth <;> simp [ofTree?, ofTreeFields?, Json.depth, fieldsDepth, ofFields]

/-! #### Arrays -/

theorem AreRead.array {items : List Json} {trees : List Tree} (read : AreRead items trees) :
    IsRead (.array items) (.array trees) where
  starts := ⟨'[', _, rfl, by decide, by decide⟩
  read fuel rest _ enough := by
    obtain ⟨first, others, starts, noSpace, noBracket⟩ := read.starts
    have bracketed : (Json.array items).text ++ rest = '[' :: (itemsText items ++ ']' :: rest) := by
      simp [text]
    obtain ⟨fuel, rfl⟩ : ∃ less, fuel = less + 2 := ⟨fuel - 2, by simp [text] at enough; omega⟩
    have items := read.read fuel rest (by simp [text] at enough; omega)
    rw [starts, List.cons_append] at items
    rw [bracketed, starts, List.cons_append, readTree?, skipSpace_cons (by decide)]
    simp only [skipSpace_cons noSpace]
    split
    next same => exact absurd (List.cons.inj same).1 noBracket
    next =>
      rw [items]
      rfl
  value depth := by
    cases depth with
    | zero => simp [ofTree?, Json.depth]
    | succ depth =>
      simp only [ofTree?, read.value, Json.depth, Nat.add_le_add_iff_right]
      split <;> rfl

theorem IsRead.areRead {item : Json} {tree : Tree} (read : IsRead item tree) :
    AreRead [item] [tree] where
  starts := read.starts
  read fuel rest enough := by
    have item := read.read fuel (']' :: rest) (by simp [EndsValue]) enough
    rw [itemsText, readItems?, item]
    rfl
  value depth := by
    simp only [ofItems?, read.value, itemsDepth, Nat.max_zero]
    split <;> rfl

theorem AreRead.cons {item next : Json} {items : List Json} {tree : Tree} {trees : List Tree}
    (others : AreRead (next :: items) trees) (first : IsRead item tree) :
    AreRead (item :: next :: items) (tree :: trees) where
  starts := by
    obtain ⟨c, rest, starts, noSpace, noBracket⟩ := first.starts
    exact ⟨c, _, by rw [itemsText, starts, List.cons_append], noSpace, noBracket⟩
  read fuel rest enough := by
    have lengths : 2 * item.text.length ≤ fuel ∧
        2 * (itemsText (next :: items)).length + 1 ≤ fuel := by
      simp [itemsText] at enough
      omega
    obtain ⟨fuel, rfl⟩ : ∃ less, fuel = less + 1 := ⟨fuel - 1, by omega⟩
    have here := first.read (fuel + 1) (',' :: (itemsText (next :: items) ++ ']' :: rest))
      (by simp [EndsValue]) lengths.1
    have there := others.read fuel rest (by omega)
    rw [itemsText, List.append_assoc, List.cons_append, readItems?, here]
    simp only [Option.bind_eq_bind, Option.bind_some,
      skipSpace_cons (by decide : isSpace ',' = false), there]
  value depth := by
    have both : itemsDepth (item :: next :: items) ≤ depth ↔
        item.depth ≤ depth ∧ itemsDepth (next :: items) ≤ depth := Nat.max_le
    rw [ofItems?, first.value, others.value]
    by_cases here : item.depth ≤ depth <;>
      by_cases there : itemsDepth (next :: items) ≤ depth <;> simp [both, here, there]

/-! #### Objects -/

theorem FieldsRead.object {fields : List (String × Json)} {trees : List (Option String × Tree)}
    (ordered : (fields.map Prod.fst).Pairwise (· < ·)) (read : FieldsRead fields trees) :
    IsRead (.object fields) (.object trees) where
  starts := ⟨'\x7b', _, rfl, by decide, by decide⟩
  read fuel rest _ enough := by
    -- The first name is what tells the object from an empty one.
    obtain ⟨others, starts⟩ := read.starts
    have braced : (Json.object fields).text ++ rest =
        '\x7b' :: (fieldsText fields ++ '\x7d' :: rest) := by
      simp [text]
    obtain ⟨fuel, rfl⟩ : ∃ less, fuel = less + 2 := ⟨fuel - 2, by simp [text] at enough; omega⟩
    have fields := read.read fuel rest (by simp [text] at enough; omega)
    rw [starts, List.cons_append] at fields
    rw [braced, starts, List.cons_append, readTree?, skipSpace_cons (by decide)]
    simp only [skipSpace_cons (by decide : isSpace '"' = false), fields]
    rfl
  value depth := by
    cases depth with
    | zero => simp [ofTree?, Json.depth]
    | succ depth =>
      simp only [ofTree?, read.value, Json.depth, Nat.add_le_add_iff_right]
      split
      next => exact congrArg some (ofFields_of_ordered ordered)
      next => rfl

/-- Behind a name, a field is read as its value is. -/
theorem readFields?_name (fuel : Nat) (name : String) (value : List Char) :
    readFields? (fuel + 1) (stringText name.toList ++ ':' :: value) = (do
      let (tree, rest) ← readTree? fuel value
      match skipSpace rest with
      | '\x7d' :: rest => some ([(some name, tree)], rest)
      | ',' :: rest =>
        let (fields, rest) ← readFields? fuel rest
        some ((some name, tree) :: fields, rest)
      | _ => none) := by
  have quoted : stringText name.toList ++ ':' :: value =
      '"' :: (name.toList.flatMap escapedChar ++ '"' :: ':' :: value) := by
    simp [stringText]
  rw [quoted, readFields?, skipSpace_cons (by decide)]
  simp only [readString?_escaped, String.ofList_toList]
  rfl

theorem IsRead.fieldsRead (name : String) {value : Json} {tree : Tree} (read : IsRead value tree) :
    FieldsRead [(name, value)] [(some name, tree)] where
  starts := ⟨_, rfl⟩
  read fuel rest enough := by
    have value := read.read fuel ('\x7d' :: rest) (by simp [EndsValue])
      (by simp [fieldsText] at enough; omega)
    rw [fieldsText, List.append_assoc, List.cons_append, readFields?_name, value]
    rfl
  value depth := by
    simp only [ofTreeFields?, read.value, fieldsDepth, Nat.max_zero]
    split <;> rfl

theorem FieldsRead.cons {value : Json} {next : String × Json} {fields : List (String × Json)}
    {tree : Tree} {trees : List (Option String × Tree)}
    (others : FieldsRead (next :: fields) trees) (name : String) (first : IsRead value tree) :
    FieldsRead ((name, value) :: next :: fields) ((some name, tree) :: trees) where
  starts := ⟨_, by rw [fieldsText, stringText]; rfl⟩
  read fuel rest enough := by
    have lengths : 2 * value.text.length ≤ fuel ∧
        2 * (fieldsText (next :: fields)).length + 1 ≤ fuel := by
      simp [fieldsText] at enough
      omega
    obtain ⟨fuel, rfl⟩ : ∃ less, fuel = less + 1 := ⟨fuel - 1, by omega⟩
    have here := first.read (fuel + 1) (',' :: (fieldsText (next :: fields) ++ '\x7d' :: rest))
      (by simp [EndsValue]) lengths.1
    have there := others.read fuel rest (by omega)
    have joined : fieldsText ((name, value) :: next :: fields) ++ '\x7d' :: rest =
        stringText name.toList ++ ':' :: (value.text ++ ',' ::
          (fieldsText (next :: fields) ++ '\x7d' :: rest)) := by
      simp [fieldsText]
    rw [joined, readFields?_name, here]
    simp only [Option.bind_eq_bind, Option.bind_some,
      skipSpace_cons (by decide : isSpace ',' = false), there]
  value depth := by
    have both : fieldsDepth ((name, value) :: next :: fields) ≤ depth ↔
        value.depth ≤ depth ∧ fieldsDepth (next :: fields) ≤ depth := Nat.max_le
    rw [ofTreeFields?, first.value, others.value]
    by_cases here : value.depth ≤ depth <;>
      by_cases there : fieldsDepth (next :: fields) ≤ depth <;> simp [both, here, there]

/-! ### Whole texts -/

mutual

theorem exists_isRead (document : Json) (whole : document.IsWhole) (ordered : document.IsOrdered) :
    ∃ tree, IsRead document tree := by
  match document with
  | .null => exact ⟨_, isRead_null⟩
  | .bool b => exact ⟨_, isRead_bool b⟩
  | .number n =>
    obtain ⟨value, rfl⟩ := whole n rfl
    exact ⟨_, isRead_int value⟩
  | .string s => exact ⟨_, isRead_string s⟩
  | .array items =>
    by_cases empty : items = []
    · exact ⟨_, empty ▸ isRead_emptyArray⟩
    · obtain ⟨trees, read⟩ := exists_areRead items empty whole.2 ordered.2
      exact ⟨_, read.array⟩
  | .object fields =>
    by_cases empty : fields = []
    · exact ⟨_, empty ▸ isRead_emptyObject⟩
    · obtain ⟨trees, read⟩ := exists_fieldsRead fields empty whole.2 ordered.2
      exact ⟨_, read.object (ordered.1 _ rfl)⟩

theorem exists_areRead (items : List Json) (nonempty : items ≠ [])
    (whole : AllItems WholeNumber items) (ordered : AllItems NamesAscend items) :
    ∃ trees, AreRead items trees := by
  match items with
  | [] => exact absurd rfl nonempty
  | [item] =>
    obtain ⟨tree, read⟩ := exists_isRead item whole.1 ordered.1
    exact ⟨_, read.areRead⟩
  | item :: next :: items =>
    obtain ⟨tree, first⟩ := exists_isRead item whole.1 ordered.1
    obtain ⟨trees, others⟩ := exists_areRead (next :: items) nofun whole.2 ordered.2
    exact ⟨_, others.cons first⟩

theorem exists_fieldsRead (fields : List (String × Json)) (nonempty : fields ≠ [])
    (whole : AllFields WholeNumber fields) (ordered : AllFields NamesAscend fields) :
    ∃ trees, FieldsRead fields trees := by
  match fields with
  | [] => exact absurd rfl nonempty
  | [(name, value)] =>
    obtain ⟨tree, read⟩ := exists_isRead value whole.1 ordered.1
    exact ⟨_, read.fieldsRead name⟩
  | (name, value) :: next :: fields =>
    obtain ⟨tree, first⟩ := exists_isRead value whole.1 ordered.1
    obtain ⟨trees, others⟩ := exists_fieldsRead (next :: fields) nofun whole.2 ordered.2
    exact ⟨_, others.cons name first⟩

end

/-- A document is read back from its text unless it is nested too deep. -/
theorem read?_text {document : Json} (whole : document.IsWhole) (ordered : document.IsOrdered) :
    Json.read? (String.ofList document.text) =
      if document.depth ≤ maxDepth then some document else none := by
  obtain ⟨tree, read⟩ := exists_isRead document whole ordered
  have found : Tree.read? document.text = some tree := by
    have whole := read.read (2 * document.text.length + 1) [] nofun (by omega)
    rw [List.append_nil] at whole
    rw [Tree.read?, whole]
    rfl
  rw [Json.read?, String.toList_ofList, found]
  exact read.value maxDepth

end SqlWeave.Json

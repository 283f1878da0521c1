import Mathlib.Data.List.Basic
import SqlWeave.Proofs.Identifier.Reading
import SqlWeave.TableSchema

/-!
# The grammar of fragments

Fragments are lists of items with a comma and a space between each two: names, names with their
table, or fields with the columns that they are taken from. A reader that takes the text of an item
wherever no quote follows also takes a list of them (`separated_intercalate`), so the names may hold
commas, spaces, dots and quotes themselves.
-/
namespace SqlWeave.Fragment

/-- A reader takes a beginning of a text, which is not empty, and leaves the rest. -/
structure Reader (α : Type) where
  read? : List Char → Option (α × List Char)
  shorter : ∀ {text item rest}, read? text = some (item, rest) → rest.length < text.length

namespace Reader

/-- The reader takes the spelling of the item, unless a quote follows. -/
def Reads {α : Type} (reader : Reader α) (spell : α → List Char) (item : α) : Prop :=
  ∀ rest, Identifier.Follows rest → reader.read? (spell item ++ rest) = some (item, rest)

/-! ### Lists of items -/

section Separated

variable {α : Type}

/-- One item and, as long as a comma and a space follow, another one. -/
def separated (reader : Reader α) (text : List Char) : Option (List α × List Char) :=
  match _here : reader.read? text with
  | some (item, ',' :: ' ' :: others) =>
    (reader.separated others).map fun (items, rest) => (item :: items, rest)
  | some (item, rest) => some ([item], rest)
  | none => none
termination_by text.length
decreasing_by
  -- The others stand behind an item, which has taken something.
  have taken := reader.shorter _here
  simp only [List.length_cons] at taken
  omega

theorem separated_shorter (reader : Reader α) {text rest : List Char} {items : List α}
    (read : reader.separated text = some (items, rest)) : rest.length < text.length := by
  fun_induction separated reader text generalizing items rest with
  | case1 text item others here ih =>
    obtain ⟨⟨items, rest⟩, later, same⟩ := Option.map_eq_some_iff.mp read
    cases same
    have taken := reader.shorter here
    have remaining := ih later
    simp only [List.length_cons] at taken
    omega
  | case2 text item behind _ here =>
    cases read
    exact reader.shorter here
  | case3 => cases read

variable {reader : Reader α} {spell : α → List Char}

theorem separated_of_more {text others : List Char} {item : α}
    (here : reader.read? text = some (item, ',' :: ' ' :: others)) :
    reader.separated text =
      (reader.separated others).map fun (items, rest) => (item :: items, rest) := by
  rw [separated]
  -- What was read fits the first case only.
  split
  all_goals
    next taken => rw [here] at taken; grind

theorem separated_of_last {text rest : List Char} {item : α}
    (here : reader.read? text = some (item, rest)) (ends : ∀ others, rest ≠ ',' :: ' ' :: others) :
    reader.separated text = some ([item], rest) := by
  rw [separated]
  split
  all_goals
    next taken => rw [here] at taken; grind

theorem separated_intercalate {items : List α} (reads : ∀ item ∈ items, reader.Reads spell item)
    (items_ne : items ≠ []) {rest : List Char} (follows : Identifier.Follows rest)
    (ends : ∀ others, rest ≠ ',' :: ' ' :: others) :
    reader.separated ([',', ' '].intercalate (items.map spell) ++ rest) = some (items, rest) := by
  induction items with
  | nil => exact absurd rfl items_ne
  | cons item items ih =>
    obtain ⟨here, later⟩ := List.forall_mem_cons.mp reads
    cases items with
    | nil =>
      rw [List.map_singleton, List.intercalate_singleton]
      exact separated_of_last (here rest follows) ends
    | cons next items =>
      have more := ih later (List.cons_ne_nil next items)
      rw [List.map_cons, List.map_cons, List.intercalate_cons_cons, ← List.map_cons,
        List.append_assoc, List.append_assoc, List.cons_append, List.cons_append, List.nil_append]
      -- The comma ends the first item.
      rw [separated_of_more (here _ (Identifier.follows_cons.mpr (by decide))), more]
      rfl

end Separated

/-- The items of a whole text; there are none in an empty one. -/
def readAll? {α : Type} (reader : Reader α) (text : String) : Option (List α) :=
  if text = "" then some []
  else match reader.separated text.toList with
    | some (items, []) => some items
    | _ => none

theorem toList_commaSeparated {α : Type} (spell : α → String) (items : List α) :
    (commaSeparated (items.map spell)).toList =
      [',', ' '].intercalate (items.map fun item => (spell item).toList) := by
  rw [commaSeparated, String.toList_intercalate, List.map_map]
  rfl

theorem readAll?_commaSeparated {α : Type} {reader : Reader α} {spell : α → String}
    {items : List α} (reads : ∀ item ∈ items, reader.Reads (fun item => (spell item).toList) item) :
    reader.readAll? (commaSeparated (items.map spell)) = some items := by
  by_cases empty : items = []
  · subst empty
    rfl
  · have listed := separated_intercalate reads empty Identifier.follows_nil (by simp)
    rw [List.append_nil, ← toList_commaSeparated] at listed
    -- A reader leaves less than it was given, so the text is not empty.
    have nonempty : commaSeparated (items.map spell) ≠ "" := by
      intro same
      have taken := separated_shorter reader listed
      rw [same] at taken
      cases taken
    rw [readAll?, if_neg nonempty, listed]

/-! ### Items -/

def name : Reader String where
  read? := Identifier.readIdentifier?
  shorter := Identifier.readIdentifier?_shorter

theorem reads_name (item : String) :
    name.Reads (fun item => (Identifier.quote item).toList) item := by
  intro rest follows
  simp only [name]
  exact Identifier.readIdentifier?_append item follows

/-- A column and the table in front of it. -/
def column : Reader (String × String) where
  read? := Identifier.readQualified?
  shorter := Identifier.readQualified?_shorter

theorem columnOf_eq (table column : String) :
    columnOf table column = Identifier.qualify table column :=
  (Identifier.qualify_eq table column).symm

theorem reads_column (item : String × String) :
    column.Reads (fun item => (columnOf item.1 item.2).toList) item := by
  intro rest follows
  simp only [columnOf_eq, column]
  exact Identifier.readQualified?_append item.1 item.2 follows

/-- The field that a fallback is named for, and the columns that it is taken from. -/
structure Fallback where
  sources : List (String × String)
  field : String

def Fallback.text (fallback : Fallback) : String :=
  "COALESCE(" ++ commaSeparated (fallback.sources.map fun source => columnOf source.1 source.2) ++
    ") AS " ++ Identifier.quote fallback.field

def readFallback? (text : List Char) : Option (Fallback × List Char) := do
  let text ← text.dropPrefix? "COALESCE(".toList
  let (sources, text) ← column.separated text
  let text ← text.dropPrefix? ") AS ".toList
  let (field, rest) ← name.read? text
  some (⟨sources, field⟩, rest)

theorem dropPrefix?_append (front rest : List Char) :
    (front ++ rest).dropPrefix? front = some rest :=
  List.dropPrefix?_eq_some_iff.mpr ⟨front, rfl, beq_self_eq_true front⟩

theorem readFallback?_shorter {text rest : List Char} {item : Fallback}
    (read : readFallback? text = some (item, rest)) : rest.length < text.length := by
  simp only [readFallback?, Option.bind_eq_bind, Option.bind_eq_some_iff] at read
  obtain ⟨inside, opened, ⟨sources, behind⟩, listed, last, closed, ⟨field, rest⟩, named, same⟩ :=
    read
  cases same
  obtain ⟨opening, rfl, -⟩ := List.dropPrefix?_eq_some_iff.mp opened
  obtain ⟨closing, rfl, -⟩ := List.dropPrefix?_eq_some_iff.mp closed
  -- Each of the four parts leaves no more than it was given.
  have first := separated_shorter column listed
  have second := name.shorter named
  simp only [List.length_append] at first ⊢
  omega

def fallback : Reader Fallback where
  read? := readFallback?
  shorter := readFallback?_shorter

theorem reads_fallback {item : Fallback} (sources_ne : item.sources ≠ []) :
    fallback.Reads (fun item => item.text.toList) item := by
  intro rest follows
  obtain ⟨sources, field⟩ := item
  have spelled : (Fallback.text ⟨sources, field⟩).toList ++ rest =
      "COALESCE(".toList ++ ([',', ' '].intercalate
        (sources.map fun source => (columnOf source.1 source.2).toList) ++
        (") AS ".toList ++ ((Identifier.quote field).toList ++ rest))) := by
    simp only [Fallback.text, String.toList_append, toList_commaSeparated, List.append_assoc]
  -- The closing parenthesis ends the columns.
  have listed : column.separated ([',', ' '].intercalate
      (sources.map fun source => (columnOf source.1 source.2).toList) ++
      (") AS ".toList ++ ((Identifier.quote field).toList ++ rest))) =
        some (sources, ") AS ".toList ++ ((Identifier.quote field).toList ++ rest)) :=
    separated_intercalate (fun source _ => reads_column source) sources_ne
      (Identifier.follows_cons.mpr (by decide)) (fun _ same => nomatch same)
  have named := reads_name field rest follows
  show readFallback? _ = _
  rw [spelled, readFallback?, dropPrefix?_append]
  simp only [Option.bind_eq_bind, Option.bind_some, listed, dropPrefix?_append, named]

end Reader

end SqlWeave.Fragment

import SqlWeave.Proofs.Identifier

/-!
# Reading identifiers

A quoted name ends at the first quote that stands alone. So the reader accepts exactly the quoted
names that no further quote follows, each with one result (`readIdentifier?_eq_some_iff`), and a
qualified name can neither be taken for another one nor reach into the text behind it
(`readQualified?_qualify`).
-/
namespace SqlWeave.Identifier

/-- The text does not go on with a quote, which would be taken for the second of a pair. -/
def Follows (rest : List Char) : Prop := rest.head? ≠ some '"'

instance (rest : List Char) : Decidable (Follows rest) :=
  inferInstanceAs (Decidable (rest.head? ≠ some '"'))

theorem follows_nil : Follows [] := by simp [Follows]

theorem follows_cons {c : Char} {rest : List Char} : Follows (c :: rest) ↔ c ≠ '"' := by
  simp [Follows]

theorem readQuoted?_doubleQuotes {name rest : List Char} (follows : Follows rest) :
    readQuoted? (doubleQuotes name ++ '"' :: rest) = some (name, rest) := by
  induction name with
  | nil =>
    cases rest with
    | nil => rfl
    | cons c rest =>
      -- The closing quote is alone, so the case of two quotes is excluded.
      have alone : ∀ text, c :: rest ≠ '"' :: text := by
        rintro text same
        cases same
        exact follows_cons.mp follows rfl
      simpa [doubleQuotes] using readQuoted?.eq_3 '"' (c :: rest) fun text _ => alone text
  | cons c name ih =>
    by_cases isQuote : c = '"'
    · subst isQuote
      have pair : doubleQuotes ('"' :: name) = '"' :: '"' :: doubleQuotes name := rfl
      rw [pair, List.cons_append, List.cons_append, readQuoted?, ih]
      rfl
    · have single : doubleQuotes (c :: name) = c :: doubleQuotes name := by
        simp [doubleQuotes, isQuote]
      rw [single, List.cons_append, readQuoted?.eq_3 c _ fun _ same => absurd same isQuote,
        if_neg isQuote, ih]
      rfl

theorem of_readQuoted? {text name rest : List Char} (read : readQuoted? text = some (name, rest)) :
    text = doubleQuotes name ++ '"' :: rest ∧ Follows rest := by
  fun_induction readQuoted? text generalizing name rest with
  | case1 => cases read
  | case2 text ih =>
    obtain ⟨⟨inside, behind⟩, here, same⟩ := Option.map_eq_some_iff.mp read
    cases same
    obtain ⟨rfl, follows⟩ := ih here
    exact ⟨rfl, follows⟩
  | case3 text noPair =>
    -- The quote that ends a name has no second one behind it.
    cases read
    refine ⟨rfl, ?_⟩
    cases text with
    | nil => exact follows_nil
    | cons c text => exact follows_cons.mpr fun isQuote => noPair text rfl (isQuote ▸ rfl)
  | case4 c text _ isOther ih =>
    obtain ⟨⟨inside, behind⟩, here, same⟩ := Option.map_eq_some_iff.mp read
    cases same
    obtain ⟨rfl, follows⟩ := ih here
    exact ⟨by simp [doubleQuotes, isOther], follows⟩

theorem readIdentifier?_eq_some_iff {text rest : List Char} {name : String} :
    readIdentifier? text = some (name, rest) ↔
      text = (quote name).toList ++ rest ∧ Follows rest := by
  constructor
  · intro read
    unfold readIdentifier? at read
    split at read
    next text =>
      obtain ⟨⟨inside, behind⟩, here, same⟩ := Option.map_eq_some_iff.mp read
      cases same
      obtain ⟨rfl, follows⟩ := of_readQuoted? here
      exact ⟨by simp [quote], follows⟩
    next => cases read
  · rintro ⟨rfl, follows⟩
    have opened : (quote name).toList ++ rest =
        '"' :: (doubleQuotes name.toList ++ '"' :: rest) := by simp [quote]
    rw [opened, readIdentifier?, readQuoted?_doubleQuotes follows]
    simp

theorem readIdentifier?_append (name : String) {rest : List Char} (follows : Follows rest) :
    readIdentifier? ((quote name).toList ++ rest) = some (name, rest) :=
  readIdentifier?_eq_some_iff.mpr ⟨rfl, follows⟩

theorem readIdentifier?_shorter {text rest : List Char} {name : String}
    (read : readIdentifier? text = some (name, rest)) : rest.length < text.length := by
  obtain ⟨spelled, -⟩ := readIdentifier?_eq_some_iff.mp read
  simp only [spelled, quote, String.toList_ofList, List.length_append, List.length_cons]
  omega

/-- Reads a quoted name, a dot and another quoted name. -/
def readQualified? (text : List Char) : Option ((String × String) × List Char) :=
  match readIdentifier? text with
  | some (schema, '.' :: text) =>
    (readIdentifier? text).map fun (table, rest) => ((schema, table), rest)
  | _ => none

theorem readQualified?_eq_some_iff {text rest : List Char} {schema table : String} :
    readQualified? text = some ((schema, table), rest) ↔
      text = (qualify schema table).toList ++ rest ∧ Follows rest := by
  have spelled : (qualify schema table).toList ++ rest =
      (quote schema).toList ++ '.' :: ((quote table).toList ++ rest) := by simp [qualify_eq]
  constructor
  · intro read
    unfold readQualified? at read
    split at read
    next front behind first =>
      obtain ⟨⟨back, rest⟩, second, same⟩ := Option.map_eq_some_iff.mp read
      cases same
      obtain ⟨rfl, -⟩ := readIdentifier?_eq_some_iff.mp first
      obtain ⟨rfl, follows⟩ := readIdentifier?_eq_some_iff.mp second
      exact ⟨spelled.symm, follows⟩
    next => cases read
  · rintro ⟨rfl, follows⟩
    -- The dot ends the first name, whatever the second one is made of.
    have first := readIdentifier?_append schema
      (follows_cons.mpr (by decide) : Follows ('.' :: ((quote table).toList ++ rest)))
    rw [spelled, readQualified?, first]
    simp only [readIdentifier?_append table follows, Option.map_some]

theorem readQualified?_append (schema table : String) {rest : List Char} (follows : Follows rest) :
    readQualified? ((qualify schema table).toList ++ rest) = some ((schema, table), rest) :=
  readQualified?_eq_some_iff.mpr ⟨rfl, follows⟩

theorem readQualified?_shorter {text rest : List Char} {names : String × String}
    (read : readQualified? text = some (names, rest)) : rest.length < text.length := by
  obtain ⟨spelled, -⟩ := readQualified?_eq_some_iff.mp read
  simp only [spelled, qualify_eq, quote, String.toList_append, String.toList_ofList,
    List.length_append, List.length_cons]
  omega

/-- Where a qualified name ends is determined by the text. -/
theorem qualify_append_inj {schema table otherSchema otherTable : String}
    {rest otherRest : List Char} (follows : Follows rest) (otherFollows : Follows otherRest)
    (same : (qualify otherSchema otherTable).toList ++ otherRest =
      (qualify schema table).toList ++ rest) :
    otherSchema = schema ∧ otherTable = table ∧ otherRest = rest := by
  have mine := readQualified?_append schema table follows
  have other := readQualified?_append otherSchema otherTable otherFollows
  rw [same, mine] at other
  cases other
  exact ⟨rfl, rfl, rfl⟩

/-- A qualified name is read back, and nothing else is read from its text: no other names in front
of another rest give the same text. Both ways of quoting spell it alike. -/
theorem readQualified?_qualify (schema table : String) {rest : List Char}
    (alone : rest.head? ≠ some '"') :
    readQualified? ((qualify schema table).toList ++ rest) = some ((schema, table), rest) ∧
    (∀ (otherSchema otherTable : String) (otherRest : List Char),
      otherRest.head? ≠ some '"' →
      ((qualify otherSchema otherTable).toList ++ otherRest =
          (qualify schema table).toList ++ rest ↔
        otherSchema = schema ∧ otherTable = table ∧ otherRest = rest)) ∧
    (∀ otherSchema otherTable, qualify otherSchema otherTable = qualify schema table ↔
      otherSchema = schema ∧ otherTable = table) ∧
    qualify schema table = quote schema ++ "." ++ quote table ∧
    ∀ text, pushQualified text schema table = text ++ quote schema ++ "." ++ quote table := by
  refine ⟨readQualified?_append schema table alone, ?_, ?_, qualify_eq schema table, ?_⟩
  · intro otherSchema otherTable otherRest otherAlone
    constructor
    · exact qualify_append_inj alone otherAlone
    · rintro ⟨rfl, rfl, rfl⟩
      rfl
  · intro otherSchema otherTable
    constructor
    · intro same
      -- Equal names are equal texts in front of nothing.
      obtain ⟨sameSchema, sameTable, -⟩ := qualify_append_inj follows_nil follows_nil
        (congrArg (fun name : String => name.toList ++ []) same)
      exact ⟨sameSchema, sameTable⟩
    · rintro ⟨rfl, rfl⟩
      rfl
  · intro text
    rw [pushQualified_eq, qualify_eq]
    simp only [String.append_assoc]

/-- A schema that ends with a quote, an empty table name, and a rest that would close them. -/
theorem readQualified?_qualify_quotes :
    (['.', '"'] : List Char).head? ≠ some '"' ∧
    readQualified? ((qualify "a\"" "").toList ++ ['.', '"']) = some (("a\"", ""), ['.', '"']) ∧
    qualify "a\"" "" = "\"a\"\"\"" ++ "." ++ "\"\"" := by
  have alone : (['.', '"'] : List Char).head? ≠ some '"' := by decide
  obtain ⟨read, -, -, spelled, -⟩ := readQualified?_qualify "a\"" "" alone
  have quoted : quote "a\"" = "\"a\"\"\"" := by decide
  have empty : quote "" = "\"\"" := by decide
  rw [quoted, empty] at spelled
  exact ⟨alone, read, spelled⟩

end SqlWeave.Identifier

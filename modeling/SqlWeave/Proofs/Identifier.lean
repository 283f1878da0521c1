import SqlWeave.Identifier

/-!
# Quoting identifiers

Names are quoted in two ways: as a whole, and character by character onto a growing text. Both give
the same text.
-/
namespace SqlWeave.Identifier

private theorem pushQuotedChar_eq (text : String) (c : Char) :
    (pushQuotedChar text c).toList = text.toList ++ if c = '"' then ['"', '"'] else [c] := by
  unfold pushQuotedChar
  split <;> simp [*]

private theorem toList_foldl_pushQuotedChar (text : String) (name : List Char) :
    (name.foldl pushQuotedChar text).toList = text.toList ++ doubleQuotes name := by
  induction name generalizing text with
  | nil => simp [doubleQuotes]
  | cons c name ih =>
    rw [List.foldl_cons, ih, pushQuotedChar_eq]
    simp [doubleQuotes]

theorem pushQuoted_eq (text name : String) : pushQuoted text name = text ++ quote name := by
  apply String.toList_inj.mp
  simp [pushQuoted, toList_foldl_pushQuotedChar, quote]

theorem qualify_eq (schema table : String) :
    qualify schema table = quote schema ++ "." ++ quote table := by
  apply String.toList_inj.mp
  simp [qualify, pushQualified, pushQuoted_eq]

/-- Qualifying appends the same text to whatever stands in front. -/
theorem pushQualified_eq (text schema table : String) :
    pushQualified text schema table = text ++ qualify schema table := by
  apply String.toList_inj.mp
  simp [qualify_eq, pushQualified, pushQuoted_eq]

/-! ### Characters of quoted names -/

theorem mem_doubleQuotes_iff {c : Char} {name : List Char} : c ∈ doubleQuotes name ↔ c ∈ name := by
  constructor
  · intro member
    obtain ⟨d, found, copies⟩ := List.mem_flatMap.mp member
    split at copies
    next isQuote =>
      simp only [List.mem_cons, List.not_mem_nil, or_false, or_self] at copies
      exact copies ▸ isQuote ▸ found
    next => exact List.mem_singleton.mp copies ▸ found
  · intro member
    refine List.mem_flatMap.mpr ⟨c, member, ?_⟩
    split <;> simp [*]

theorem mem_quote_iff {c : Char} {name : String} :
    c ∈ (quote name).toList ↔ c = '"' ∨ c ∈ name.toList := by
  simp only [quote, String.toList_ofList, List.mem_append, List.mem_cons, mem_doubleQuotes_iff,
    List.not_mem_nil, or_false]
  grind

/-- Qualifying adds quotes and a dot to the two names and nothing else. -/
theorem mem_qualify_iff {c : Char} {schema table : String} :
    c ∈ (qualify schema table).toList ↔
      c = '"' ∨ c = '.' ∨ c ∈ schema.toList ∨ c ∈ table.toList := by
  simp only [qualify_eq, String.toList_append, List.mem_append, mem_quote_iff]
  have dot : c ∈ ".".toList ↔ c = '.' := by simp
  rw [dot]
  grind

end SqlWeave.Identifier

import Mathlib.Algebra.Group.Nat.Even
import Mathlib.Algebra.Ring.Parity
import SqlWeave.Template

/-!
# Format texts

The scanner of format texts looks one character ahead, so what a brace means depends on what follows
it. Text with doubled braces stands for itself wherever it is (`splitHoles_escape_append`). A pair
of braces inside a literal stands for itself, too, unless its second brace is taken together with
one behind it (`ofFormat_hole_in_literal_iff`).
-/
namespace SqlWeave.Template

/-- A hole of a format text. -/
def hole : String := "\x7b\x7d"

/-- The text with its braces doubled. -/
def escape (text : List Char) : List Char :=
  text.flatMap fun c => if c = '\x7b' ∨ c = '\x7d' then [c, c] else [c]

def escapeBraces (text : String) : String := String.ofList (escape text.toList)

/-- Is the end of a text inside a literal, if its beginning is or is not? -/
def literalAfter (inLiteral : Bool) (text : List Char) : Bool :=
  text.foldl (fun inside c => if c = '\'' then !inside else inside) inLiteral

/-- The number of opening braces at the end of a text. They are paired from the first one on. -/
def openingRun (text : List Char) : Nat := (text.reverse.takeWhile (· = '\x7b')).length

/-- The number of closing braces at the beginning of a text. -/
def closingRun (text : List Char) : Nat := (text.takeWhile (· = '\x7d')).length

variable {inLiteral : Bool} {text p q x y : List Char} {c : Char} {a b : List (List Char)}

theorem literalAfter_quote (inLiteral : Bool) (text : List Char) :
    literalAfter inLiteral ('\'' :: text) = literalAfter (!inLiteral) text := rfl

theorem literalAfter_cons (other : c ≠ '\'') (inLiteral : Bool) (text : List Char) :
    literalAfter inLiteral (c :: text) = literalAfter inLiteral text := by
  rw [literalAfter, List.foldl_cons, if_neg other, literalAfter]

theorem literalAfter_eq (inLiteral : Bool) (text : List Char) :
    literalAfter inLiteral text = (inLiteral ^^ decide (Odd (text.count '\''))) := by
  induction text generalizing inLiteral with
  | nil => simp [literalAfter]
  | cons c text ih =>
    by_cases quote : c = '\''
    · subst quote
      rw [literalAfter_quote, ih, List.count_cons_self]
      by_cases odd : Odd (text.count '\'') <;> simp [odd, Nat.odd_add_one]
    · rw [literalAfter_cons quote, ih, List.count_cons_of_ne quote]

/-! ### The scanner -/

theorem splitHoles_nil (inLiteral : Bool) : splitHoles inLiteral [] = [[]] := splitHoles.eq_6 _

theorem splitHoles_doubled_opening (inLiteral : Bool) (text : List Char) :
    splitHoles inLiteral ('\x7b' :: '\x7b' :: text) =
      consFirst '\x7b' (splitHoles inLiteral text) :=
  splitHoles.eq_1 _ _

theorem splitHoles_doubled_closing (inLiteral : Bool) (text : List Char) :
    splitHoles inLiteral ('\x7d' :: '\x7d' :: text) =
      consFirst '\x7d' (splitHoles inLiteral text) :=
  splitHoles.eq_2 _ _

theorem splitHoles_hole (text : List Char) :
    splitHoles false ('\x7b' :: '\x7d' :: text) = [] :: splitHoles false text :=
  (splitHoles.eq_3 false text).trans (if_neg Bool.false_ne_true)

theorem splitHoles_pair_in_literal (text : List Char) :
    splitHoles true ('\x7b' :: '\x7d' :: text) =
      consFirst '\x7b' (splitHoles true ('\x7d' :: text)) :=
  (splitHoles.eq_3 true text).trans (if_pos rfl)

theorem splitHoles_quote (inLiteral : Bool) (text : List Char) :
    splitHoles inLiteral ('\'' :: text) = consFirst '\'' (splitHoles (!inLiteral) text) :=
  splitHoles.eq_4 _ _

/-- A brace that is not taken together with the next character is read like any other one. -/
theorem splitHoles_single (inLiteral : Bool) (noQuote : c ≠ '\'')
    (opening : c = '\x7b' → ∀ d ∈ text.head?, d ≠ '\x7b' ∧ d ≠ '\x7d')
    (closing : c = '\x7d' → ∀ d ∈ text.head?, d ≠ '\x7d') :
    splitHoles inLiteral (c :: text) = consFirst c (splitHoles inLiteral text) := by
  apply splitHoles.eq_5 _ _ _ _ _ _ noQuote
  · rintro rest same rfl
    exact (opening same _ rfl).1 rfl
  · rintro rest same rfl
    exact closing same _ rfl rfl
  · rintro rest same rfl
    exact (opening same _ rfl).2 rfl

/-! ### Segments -/

theorem consFirst_ne_nil : consFirst c a ≠ [] := by
  cases a <;> exact List.cons_ne_nil _ _

theorem splitHoles_ne_nil : splitHoles inLiteral text ≠ [] := by
  fun_cases splitHoles inLiteral text <;>
    first | exact consFirst_ne_nil | exact List.cons_ne_nil _ _

/-- The same character in front does not hide a difference. -/
theorem consFirst_inj (ha : a ≠ []) (hb : b ≠ []) : consFirst c a = consFirst c b ↔ a = b := by
  cases a with
  | nil => exact absurd rfl ha
  | cons segment segments =>
    cases b with
    | nil => exact absurd rfl hb
    | cons other others => simp [consFirst]

theorem consFirst_splitHoles_inj :
    consFirst c (splitHoles inLiteral x) = consFirst c (splitHoles inLiteral y) ↔
      splitHoles inLiteral x = splitHoles inLiteral y :=
  consFirst_inj splitHoles_ne_nil splitHoles_ne_nil

theorem consFirst_ne_self (c : Char) (a : List (List Char)) : consFirst c a ≠ a := by
  cases a with
  | nil => exact List.cons_ne_nil _ _
  | cons segment segments => simp [consFirst]

theorem foldr_consFirst (text segment : List Char) (segments : List (List Char)) :
    text.foldr consFirst (segment :: segments) = (text ++ segment) :: segments := by
  induction text with
  | nil => rfl
  | cons c text ih => rw [List.foldr_cons, ih, consFirst, List.cons_append]

/-! ### Doubled braces -/

/-- Text with doubled braces stands for itself, whatever follows it. -/
theorem splitHoles_escape_append (inLiteral : Bool) (text rest : List Char) :
    splitHoles inLiteral (escape text ++ rest) =
      text.foldr consFirst (splitHoles (literalAfter inLiteral text) rest) := by
  induction text generalizing inLiteral with
  | nil => rfl
  | cons c text ih =>
    have step : escape (c :: text) =
      (if c = '\x7b' ∨ c = '\x7d' then [c, c] else [c]) ++ escape text := rfl
    rw [step, List.append_assoc, List.foldr_cons]
    by_cases opening : c = '\x7b'
    · subst opening
      exact (splitHoles_doubled_opening inLiteral _).trans (congrArg _ (ih inLiteral))
    by_cases closing : c = '\x7d'
    · subst closing
      exact (splitHoles_doubled_closing inLiteral _).trans (congrArg _ (ih inLiteral))
    rw [if_neg (not_or.mpr ⟨opening, closing⟩)]
    -- A quote is the only character that changes how the rest is read.
    by_cases quote : c = '\''
    · subst quote
      exact (splitHoles_quote inLiteral _).trans (congrArg _ (ih !inLiteral))
    have plain : splitHoles inLiteral (c :: (escape text ++ rest)) =
        consFirst c (splitHoles inLiteral (escape text ++ rest)) :=
      splitHoles_single inLiteral quote (fun same => absurd same opening)
        fun same => absurd same closing
    rw [literalAfter_cons quote]
    exact plain.trans (congrArg _ (ih inLiteral))

theorem splitHoles_escape (inLiteral : Bool) (text : List Char) :
    splitHoles inLiteral (escape text) = [text] := by
  have whole := splitHoles_escape_append inLiteral text []
  rw [List.append_nil, splitHoles_nil, foldr_consFirst, List.append_nil] at whole
  exact whole

/-! ### Behind a text -/

theorem openingRun_append_cons (front : List Char) (other : c ≠ '\x7b') (text : List Char) :
    openingRun (front ++ c :: text) = openingRun text := by
  have stops : (c :: front.reverse).takeWhile (· = '\x7b') = [] := by simp [other]
  -- Seen from the end, the run is over at the latest when it meets the other character.
  have split : (front ++ c :: text).reverse = text.reverse ++ (c :: front.reverse) := by simp
  rw [openingRun, openingRun, split, List.takeWhile_append, stops]
  split
  next all => rw [List.append_nil, all]
  next => rfl

theorem even_openingRun_pair (text : List Char) :
    Even (openingRun ('\x7b' :: '\x7b' :: text)) ↔ Even (openingRun text) := by
  have split : ('\x7b' :: '\x7b' :: text).reverse = text.reverse ++ ['\x7b', '\x7b'] := by simp
  rw [openingRun, openingRun, split, List.takeWhile_append]
  split
  next all => simp [all, Nat.even_add]
  next => rfl

/-- A character that is not part of a pair of opening braces can be left out. -/
theorem even_openingRun_of_cons (single : c = '\x7b' → ∀ rest, text ≠ '\x7b' :: rest)
    (between : Even (openingRun (c :: text))) : Even (openingRun text) := by
  by_cases opening : c = '\x7b'
  · cases text with
    | nil => exact ⟨0, rfl⟩
    | cons d rest =>
      have other : d ≠ '\x7b' := fun same => single opening rest (by rw [same])
      have whole : openingRun (c :: d :: rest) = openingRun rest :=
        openingRun_append_cons [c] other rest
      have part : openingRun (d :: rest) = openingRun rest := openingRun_append_cons [] other rest
      rwa [part, ← whole]
  · have part : openingRun (c :: text) = openingRun text := openingRun_append_cons [] opening text
    rwa [← part]

/-- What two texts that begin with an opening brace are split into differs behind a text as it does
behind the state that the text leaves, if the text does not end in an unpaired opening brace. -/
theorem splitHoles_append_inj (between : Even (openingRun p)) :
    splitHoles inLiteral (p ++ '\x7b' :: x) = splitHoles inLiteral (p ++ '\x7b' :: y) ↔
      splitHoles (literalAfter inLiteral p) ('\x7b' :: x) =
        splitHoles (literalAfter inLiteral p) ('\x7b' :: y) := by
  -- Each case of the scanner puts the same thing in front of both sides. Only a last opening brace
  -- would be taken together with the one behind the text.
  fun_induction splitHoles inLiteral p with
  | case1 inLiteral text ih =>
    simp only [List.cons_append, splitHoles_doubled_opening, consFirst_splitHoles_inj]
    exact ih ((even_openingRun_pair text).mp between)
  | case2 inLiteral text ih =>
    simp only [List.cons_append, splitHoles_doubled_closing, consFirst_splitHoles_inj]
    exact ih (even_openingRun_of_cons (by simp) (even_openingRun_of_cons (by simp) between))
  | case3 text ih =>
    simp only [List.cons_append, splitHoles_pair_in_literal, consFirst_splitHoles_inj]
    exact ih (even_openingRun_of_cons (by simp) between)
  | case4 inLiteral text outside ih =>
    obtain rfl := Bool.eq_false_iff.mpr outside
    simp only [List.cons_append, splitHoles_hole, List.cons.injEq, true_and]
    exact ih (even_openingRun_of_cons (by simp) (even_openingRun_of_cons (by simp) between))
  | case5 inLiteral text ih =>
    simp only [List.cons_append, splitHoles_quote, consFirst_splitHoles_inj]
    exact ih (even_openingRun_of_cons (by simp) between)
  | case6 inLiteral c text noOpening noClosing noHole noQuote ih =>
    -- The character is read alone, also if the brace behind the text is the next one.
    have alone (z : List Char) : splitHoles inLiteral (c :: (text ++ '\x7b' :: z)) =
        consFirst c (splitHoles inLiteral (text ++ '\x7b' :: z)) := by
      apply splitHoles_single inLiteral noQuote
      · rintro rfl d isHead
        cases text with
        | nil => exact absurd between (by decide)
        | cons first rest =>
          cases isHead
          refine ⟨?_, ?_⟩
          · rintro rfl
            exact noOpening rest rfl rfl
          · rintro rfl
            exact noHole rest rfl rfl
      · rintro rfl d isHead rfl
        cases text with
        | nil => cases isHead
        | cons first rest =>
          cases isHead
          exact noClosing rest rfl rfl
    rw [List.cons_append, List.cons_append, alone, alone, consFirst_splitHoles_inj,
      literalAfter_cons noQuote]
    exact ih (even_openingRun_of_cons (fun opening rest => noOpening rest opening) between)
  | case7 inLiteral => rfl

/-! ### Inside a literal -/

theorem closingRun_closing (q : List Char) : closingRun ('\x7d' :: q) = closingRun q + 1 := by
  simp [closingRun]

theorem exists_of_odd_closingRun (odd : Odd (closingRun q)) :
    ∃ rest, q = '\x7d' :: rest ∧ Even (closingRun rest) := by
  cases q with
  | nil => exact absurd odd (by decide)
  | cons c rest =>
    by_cases closing : c = '\x7d'
    · subst closing
      rw [closingRun_closing, Nat.odd_add_one, Nat.not_odd_iff_even] at odd
      exact ⟨rest, rfl, odd⟩
    · have none : closingRun (c :: rest) = 0 := by simp [closingRun, closing]
      rw [none] at odd
      exact absurd odd (by decide)

/-- In front of an even number of closing braces, one more stands for itself. -/
theorem splitHoles_closing (inLiteral : Bool) (q : List Char) (even : Even (closingRun q)) :
    splitHoles inLiteral ('\x7d' :: q) = consFirst '\x7d' (splitHoles inLiteral q) := by
  match q with
  | [] => exact splitHoles_single inLiteral (by decide) (by simp) (by simp)
  | c :: rest =>
    by_cases closing : c = '\x7d'
    · subst closing
      rw [closingRun_closing, Nat.even_add_one, Nat.not_even_iff_odd] at even
      obtain ⟨behind, rfl, fewer⟩ := exists_of_odd_closingRun even
      -- The brace is paired with the first one, and the last one is left in its place.
      rw [splitHoles_doubled_closing, splitHoles_closing inLiteral behind fewer,
        splitHoles_doubled_closing]
    · exact splitHoles_single inLiteral (by decide) (by simp) (by simpa using closing)
termination_by q.length

/-- A pair of braces in a literal is read as a doubled one is, or else as a doubled one in front of
one closing brace less. -/
theorem splitHoles_hole_inside (q : List Char) :
    (splitHoles true ('\x7b' :: '\x7d' :: q) =
        splitHoles true ('\x7b' :: '\x7b' :: '\x7d' :: '\x7d' :: q) ↔ Even (closingRun q)) ∧
    (Odd (closingRun q) → ∃ rest, q = '\x7d' :: rest ∧
      splitHoles true ('\x7b' :: '\x7d' :: q) =
        splitHoles true ('\x7b' :: '\x7b' :: '\x7d' :: '\x7d' :: rest)) := by
  have doubled (q : List Char) : splitHoles true ('\x7b' :: '\x7b' :: '\x7d' :: '\x7d' :: q) =
      consFirst '\x7b' (consFirst '\x7d' (splitHoles true q)) := by
    rw [splitHoles_doubled_opening, splitHoles_doubled_closing]
  rcases Nat.even_or_odd (closingRun q) with even | odd
  · refine ⟨⟨fun _ => even, fun _ => ?_⟩, fun odd => absurd odd (Nat.not_odd_iff_even.mpr even)⟩
    rw [splitHoles_pair_in_literal, doubled, splitHoles_closing true q even]
  · obtain ⟨rest, rfl, even⟩ := exists_of_odd_closingRun odd
    -- The brace of the pair and the first one behind it are taken for a doubled brace.
    have lost : splitHoles true ('\x7b' :: '\x7d' :: '\x7d' :: rest) =
        splitHoles true ('\x7b' :: '\x7b' :: '\x7d' :: '\x7d' :: rest) := by
      rw [splitHoles_pair_in_literal, doubled, splitHoles_doubled_closing]
    refine ⟨⟨fun same => ?_, fun even => absurd odd (Nat.not_odd_iff_even.mpr even)⟩,
      fun _ => ⟨rest, rfl, lost⟩⟩
    rw [lost, doubled, doubled, consFirst_inj consFirst_ne_nil consFirst_ne_nil,
      splitHoles_closing true rest even] at same
    exact absurd same.symm (consFirst_ne_self _ _)

theorem segments_ofFormat_eq_iff {format other : String} {values others : List Value} :
    (ofFormat format values).segments = (ofFormat other others).segments ↔
      splitHoles false format.toList = splitHoles false other.toList :=
  List.map_inj_right fun _ _ same => String.ofList_injective same

/-- A pair of braces inside a literal gives the same segments as its doubled form exactly if an even
number of closing braces follows it. If the number is odd, one of them is lost. -/
theorem ofFormat_hole_in_literal_iff (values : List Value) {p q : String}
    (between : Even (openingRun p.toList)) (inside : Odd (p.toList.count '\'')) :
    ((ofFormat (p ++ hole ++ q) values).segments =
        (ofFormat (p ++ escapeBraces hole ++ q) values).segments ↔
      Even (closingRun q.toList)) ∧
    (Odd (closingRun q.toList) → ∃ rest, q = "\x7d" ++ rest ∧
      (ofFormat (p ++ hole ++ q) values).segments =
        (ofFormat (p ++ escapeBraces hole ++ rest) values).segments) := by
  have literal : literalAfter false p.toList = true := by
    rw [literalAfter_eq, decide_eq_true inside]
    rfl
  have plain (q : String) : (p ++ hole ++ q).toList = p.toList ++ '\x7b' :: '\x7d' :: q.toList := by
    simp [hole]
  have doubled (q : String) : (p ++ escapeBraces hole ++ q).toList =
      p.toList ++ '\x7b' :: '\x7b' :: '\x7d' :: '\x7d' :: q.toList := by
    simp [hole, escapeBraces, escape]
  obtain ⟨same, lost⟩ := splitHoles_hole_inside q.toList
  constructor
  · rw [segments_ofFormat_eq_iff, plain, doubled, splitHoles_append_inj between, literal, same]
  · intro odd
    obtain ⟨rest, split, equal⟩ := lost odd
    refine ⟨String.ofList rest, String.toList_inj.mp (by simp [split]), ?_⟩
    rw [segments_ofFormat_eq_iff, plain, doubled, splitHoles_append_inj between, literal, equal,
      String.toList_ofList]

/-- An empty array, and an empty object in an object. -/
theorem ofFormat_hole_in_literal_iff_object :
    (ofFormat ("SELECT '" ++ hole ++ "' || " ++ hole) [.plain .null]).segments =
      (ofFormat ("SELECT '" ++ escapeBraces hole ++ "' || " ++ hole) [.plain .null]).segments ∧
    ∃ rest, "\x7d'" = "\x7d" ++ rest ∧
      (ofFormat ("SELECT '\x7b\"a\":" ++ hole ++ "\x7d'") []).segments =
        (ofFormat ("SELECT '\x7b\"a\":" ++ escapeBraces hole ++ rest) []).segments := by
  have array := ofFormat_hole_in_literal_iff [.plain .null] (p := "SELECT '")
    (q := "' || " ++ hole) (by decide) (by decide)
  have object := ofFormat_hole_in_literal_iff [] (p := "SELECT '\x7b\"a\":") (q := "\x7d'")
    (by decide) (by decide)
  refine ⟨?_, object.2 (by decide)⟩
  simpa only [String.append_assoc] using array.1.mpr (by decide)

/-- The brace of the outer object is lost. -/
theorem ofFormat_loses_brace :
    Even (openingRun "SELECT '\x7b\"a\":".toList) ∧ Odd ("SELECT '\x7b\"a\":".toList.count '\'') ∧
    (ofFormat ("SELECT '\x7b\"a\":" ++ hole ++ "\x7d'") []).segments ≠
      (ofFormat ("SELECT '\x7b\"a\":" ++ escapeBraces hole ++ "\x7d'") []).segments := by
  refine ⟨by decide, by decide, ?_⟩
  simp [ofFormat, splitHoles, consFirst, hole, escapeBraces, escape]

end SqlWeave.Template

import SqlWeave.Proofs.Statement.WellFormed

/-!
# Tokens

A token is a dollar sign with all the digits after it, of which there is at least one, if their
number fits in 64 bits. Scanning finds every token of a text and nothing else (`mem_scan_iff`), from
left to right (`scan_ordered`), so a text can be adopted exactly if each of its tokens refers to a
value (`adopt?_eq_none_iff`).
-/
namespace SqlWeave.Statement

open Text (Digits byteLength)

/-- The bytes of the placeholder are a token of the text, which spells its number. -/
structure IsToken (text : List Char) (p : Placeholder) : Prop where
  spelled : ∃ token, Text.slice? p.start p.stop text = some token ∧ Spells token p.index
  /-- No further digit follows. -/
  maximal : Text.digitAt p.stop text = false
  fits : p.index < Text.wordCount

/-- The placeholder is a token of a text that starts at the byte `start`, with the text `before` in
front of it and the text `after` behind it. -/
structure Between (start : Nat) (text : List Char) (p : Placeholder) (before : List Char)
    (number : Digits) (after : List Char) : Prop where
  whole : text = before ++ ('$' :: number.chars ++ after)
  placed : p = ⟨start + byteLength before,
    start + byteLength before + byteLength ('$' :: number.chars), number.value⟩
  maximal : after.head?.any Char.isDigit = false
  fits : number.value < Text.wordCount

variable {start : Nat} {text before after : List Char} {p : Placeholder} {number : Digits}

/-- A token of what follows a text is one of the whole. -/
theorem Between.append (front : List Char)
    (between : Between (start + byteLength front) text p before number after) :
    Between start (front ++ text) p (front ++ before) number after where
  whole := by rw [between.whole, List.append_assoc]
  placed := by rw [between.placed, Text.byteLength_append, ← Nat.add_assoc]
  maximal := between.maximal
  fits := between.fits

theorem Between.of_append {front : List Char}
    (between : Between start (front ++ text) p (front ++ before) number after) :
    Between (start + byteLength front) text p before number after where
  whole := by
    have whole := between.whole
    rw [List.append_assoc] at whole
    exact List.append_cancel_left whole
  placed := by rw [between.placed, Text.byteLength_append, ← Nat.add_assoc]
  maximal := between.maximal
  fits := between.fits

theorem isToken_iff :
    IsToken text p ↔ ∃ before number after, Between 0 text p before number after := by
  constructor
  · rintro ⟨⟨token, sliced, digits, rfl, nonempty, areDigits, value⟩, maximal, fits⟩
    -- The slice cuts the text in three, and the byte behind it is where the last part begins.
    obtain ⟨before, after, whole, starts, stops⟩ := Text.slice?_eq_some_iff.mp sliced
    refine ⟨before, ⟨digits, nonempty, areDigits⟩, after, ?_, ?_, ?_, ?_⟩
    · rw [whole, List.append_assoc]
    · cases p
      simp only [Placeholder.mk.injEq, Nat.zero_add]
      exact ⟨starts.symm, by rw [starts, stops], value.symm⟩
    · rw [← starts, ← Text.byteLength_append] at stops
      rwa [whole, ← stops, Text.digitAt, Text.splitBytes_byteLength] at maximal
    · rw [← value] at fits
      exact fits
  · rintro ⟨before, number, after, rfl, rfl, maximal, fits⟩
    constructor
    case spelled =>
      refine ⟨'$' :: number.chars, ?_, number.chars, rfl, number.nonempty, number.areDigits, rfl⟩
      rw [Nat.zero_add, ← List.append_assoc]
      exact Text.slice?_middle before _ after
    case maximal =>
      rw [Nat.zero_add, ← List.append_assoc, ← Text.byteLength_append, Text.digitAt,
        Text.splitBytes_byteLength]
      exact maximal
    case fits => exact fits

/-! ### What the scanner does at a character -/

/-- The token that a dollar sign at the byte `start` is the first character of, if it is one. -/
def tokenAt? (start : Nat) (text : List Char) : Option Placeholder :=
  let digits := text.takeWhile Char.isDigit
  ((Text.readDecimal? digits).filter (· < Text.wordCount)).map fun index =>
    ⟨start, start + byteLength ('$' :: digits), index⟩

theorem scan_dollar (start : Nat) (text : List Char) :
    scan start ('$' :: text) = (tokenAt? start text).toList ++
      scan (start + byteLength ('$' :: text.takeWhile Char.isDigit))
        (text.dropWhile Char.isDigit) := by
  rw [scan, if_pos rfl, tokenAt?, byteLength_dollar_digits (areDigits_takeWhile text),
    ← drop_length_takeWhile, ← Nat.add_assoc]

theorem scan_other (start : Nat) {c : Char} (plain : c ≠ '$') (text : List Char) :
    scan start (c :: text) = scan (start + byteLength [c]) text := by
  rw [scan, if_neg plain]
  rfl

theorem noDigit_dropWhile (text : List Char) :
    (text.dropWhile Char.isDigit).head?.any Char.isDigit = false := by
  have stopped := List.head?_dropWhile_not Char.isDigit text
  cases next : (text.dropWhile Char.isDigit).head? with
  | none => rfl
  | some c =>
    rw [next] at stopped
    exact stopped

/-- A text is empty, or starts with a dollar sign and all the digits after it, or with another
character: the cases in which the scanner goes on. -/
@[elab_as_elim]
theorem stretches {motive : List Char → Prop} (nil : motive [])
    (dollar : ∀ text, motive (text.dropWhile Char.isDigit) → motive ('$' :: text))
    (other : ∀ c text, c ≠ '$' → motive text → motive (c :: text)) (text : List Char) :
    motive text := by
  fun_induction scan 0 text with
  | case1 => exact nil
  | case2 position text digits stop found ih =>
    apply dollar
    rw [← drop_length_takeWhile]
    exact ih
  | case3 position c text plain ih => exact other c text plain ih

/-! ### Every token and nothing else -/

theorem between_of_mem_scan (member : p ∈ scan start text) :
    ∃ before number after, Between start text p before number after := by
  induction text using stretches generalizing start with
  | nil => simp [scan] at member
  | dollar text ih =>
    rw [scan_dollar, List.mem_append] at member
    rcases member with first | later
    · obtain ⟨index, read, rfl⟩ := Option.map_eq_some_iff.mp (Option.mem_toList.mp first)
      obtain ⟨decimal, fits⟩ := Option.filter_eq_some_iff.mp read
      obtain ⟨number, chars, rfl⟩ := Digits.of_readDecimal? decimal
      refine ⟨[], number, text.dropWhile Char.isDigit, ?_, ?_, noDigit_dropWhile text, ?_⟩
      · rw [chars, List.nil_append, List.cons_append, List.takeWhile_append_dropWhile]
      · rw [chars]
        rfl
      · simpa using fits
    -- One that comes later has the sign and its digits in front of it as well.
    · obtain ⟨before, number, after, between⟩ := ih later
      have whole := between.append ('$' :: text.takeWhile Char.isDigit)
      rw [List.cons_append, List.takeWhile_append_dropWhile] at whole
      exact ⟨_, number, after, whole⟩
  | other c text plain ih =>
    rw [scan_other start plain] at member
    obtain ⟨before, number, after, between⟩ := ih member
    exact ⟨_, number, after, between.append [c]⟩

private theorem takeWhile_append_dollar (before rest : List Char) :
    (before ++ '$' :: rest).takeWhile Char.isDigit = before.takeWhile Char.isDigit := by
  induction before with
  | nil => rfl
  | cons c before ih => simp only [List.cons_append, List.takeWhile_cons, ih]

theorem Between.mem_scan (between : Between start text p before number after) :
    p ∈ scan start text := by
  induction text using stretches generalizing start before with
  | nil => simpa using between.whole
  | dollar text ih =>
    cases before with
    | nil =>
      rw [between.whole, between.placed]
      rw [List.nil_append, scan_token between.fits between.maximal]
      exact List.mem_cons_self
    | cons c before =>
      obtain ⟨rfl, rest⟩ := List.cons_eq_cons.mp between.whole
      -- The digits that are skipped end before the dollar sign of the token.
      have skipped : text.takeWhile Char.isDigit = before.takeWhile Char.isDigit := by
        rw [rest]
        exact takeWhile_append_dollar before (number.chars ++ after)
      have behind : Between (start + byteLength ('$' :: text.takeWhile Char.isDigit))
          (text.dropWhile Char.isDigit) p (before.dropWhile Char.isDigit) number after := by
        apply Between.of_append
        rw [List.cons_append, List.takeWhile_append_dropWhile, skipped, List.cons_append,
          List.takeWhile_append_dropWhile]
        exact between
      rw [scan_dollar]
      exact List.mem_append_right _ (ih behind)
  | other c text plain ih =>
    cases before with
    | nil =>
      obtain ⟨dollar, -⟩ := List.cons_eq_cons.mp between.whole
      exact absurd dollar plain
    | cons d before =>
      obtain ⟨rfl, -⟩ := List.cons_eq_cons.mp between.whole
      have behind : Between (start + byteLength [c]) text p before number after :=
        Between.of_append between
      rw [scan_other start plain]
      exact ih behind

theorem mem_scan_iff : p ∈ scan 0 text ↔ IsToken text p := by
  rw [isToken_iff]
  constructor
  · exact between_of_mem_scan
  · rintro ⟨before, number, after, between⟩
    exact between.mem_scan

theorem scan_ordered (start : Nat) (text : List Char) :
    (scan start text).Pairwise fun p q => p.start < q.start ∧ p.stop ≤ q.start := by
  obtain ⟨glyphs, -, placed⟩ := scan_shows start text
  rw [← placed]
  exact pairwise_place start glyphs

/-! ### Adopting a text with its tokens -/

theorem refersTo_eq_false_iff {count index : Nat} :
    refersTo count index = false ↔ index = 0 ∨ count < index := by
  simp only [refersTo, Bool.and_eq_false_iff, decide_eq_false_iff_not]
  omega

variable {source : String} {values : List Scalar} {s : Statement}

theorem adopt?_eq_none_iff : adopt? source values = none ↔
    ∃ p, IsToken source.toList p ∧ (p.index = 0 ∨ values.length < p.index) := by
  constructor
  · intro refused
    cases all : (scan 0 source.toList).all fun p => refersTo values.length p.index with
    | true =>
      rw [adopt?_of_scan rfl (List.all_eq_true.mp all)] at refused
      cases refused
    | false =>
      obtain ⟨p, member, outside⟩ := List.all_eq_false.mp all
      rw [Bool.not_eq_true, refersTo_eq_false_iff] at outside
      exact ⟨p, mem_scan_iff.mp member, outside⟩
  · rintro ⟨p, token, outside⟩
    have all : ((scan 0 source.toList).all fun p => refersTo values.length p.index) = false := by
      rw [List.all_eq_false]
      exact ⟨p, mem_scan_iff.mpr token, Bool.eq_false_iff.mp (refersTo_eq_false_iff.mpr outside)⟩
    simp only [adopt?, all, Bool.false_eq_true, if_false]

theorem eq_of_adopt? (adopted : adopt? source values = some s) :
    s = ⟨source, values, scan 0 source.toList, none⟩ := by
  simp only [adopt?] at adopted
  split at adopted
  next => exact (Option.some.inj adopted).symm
  next => cases adopted

end SqlWeave.Statement

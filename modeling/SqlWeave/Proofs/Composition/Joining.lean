import SqlWeave.Proofs.Composition.Reachable
import SqlWeave.Proofs.Statement.Inlining

/-!
# Joining is associative

Joining renumbers what has been joined so far at each step. Since inlining is associative, so is
joining two statements (`joinTwo_assoc`), and it does not matter how a list is grouped
(`join_map_join`). A template with the operator between any two nested statements writes every
statement once and gives the same (`join_eq_compose`).
-/
namespace SqlWeave

namespace Statement

variable {s t u : Statement} {operator : String}

/-- Inlining two joined statements inlines both of them, with the operator between them. -/
theorem inline_joinTwo (sound : s.Sound) (left : t.Sound) (right : u.Sound) :
    s.inline (joinTwo operator t u) = ((s.inline t).pushText operator).inline u := by
  have leftAlone : (empty.inline t).Sound := sound_empty.inline left
  calc s.inline (joinTwo operator t u)
      = (s.inline ((empty.inline t).pushText operator)).inline u :=
        inline_inline sound (leftAlone.pushText operator) right
    _ = ((s.inline (empty.inline t)).pushText operator).inline u := by
        rw [inline_pushText sound leftAlone]
    _ = ((s.inline t).pushText operator).inline u := by
        rw [inline_inline sound sound_empty left, inline_empty sound]

theorem joinTwo_assoc (first : s.Sound) (second : t.Sound) (third : u.Sound) :
    joinTwo operator (joinTwo operator s t) u = joinTwo operator s (joinTwo operator t u) := by
  have front : ((empty.inline s).pushText operator).Sound :=
    (sound_empty.inline first).pushText operator
  calc joinTwo operator (joinTwo operator s t) u
      = ((((empty.inline s).pushText operator).inline t).pushText operator).inline u := by
        rw [joinTwo, inline_joinTwo sound_empty first second]
    _ = joinTwo operator s (joinTwo operator t u) := (inline_joinTwo front second third).symm

private theorem joinTwo_foldl (first : s.Sound) (second : t.Sound) {others : List Statement}
    (othersSound : ∀ u ∈ others, u.Sound) :
    others.foldl (joinTwo operator) (joinTwo operator s t) =
      joinTwo operator s (others.foldl (joinTwo operator) t) := by
  induction others generalizing t with
  | nil => rfl
  | cons u others ih =>
    obtain ⟨third, rest⟩ := List.forall_mem_cons.mp othersSound
    rw [List.foldl_cons, List.foldl_cons, joinTwo_assoc first second third]
    exact ih (invariant_sound.joinTwo operator second third) rest

/-- Joining a list is joining what its two parts join to. -/
theorem join_append_of_ne_nil {front back : List Statement} (frontFull : front ≠ [])
    (backFull : back ≠ []) (frontSound : ∀ s ∈ front, s.Sound) (backSound : ∀ s ∈ back, s.Sound) :
    join operator (front ++ back) =
      joinTwo operator (join operator front) (join operator back) := by
  have joined : (join operator front).Sound := invariant_sound.join operator frontSound
  cases front with
  | nil => exact absurd rfl frontFull
  | cons first others =>
    cases back with
    | nil => exact absurd rfl backFull
    | cons next rest =>
      obtain ⟨nextSound, restSound⟩ := List.forall_mem_cons.mp backSound
      rw [List.cons_append, join, List.foldl_append]
      exact joinTwo_foldl joined nextSound restSound

private theorem foldl_joinTwo_groups {first : List Statement} {others : List (List Statement)}
    (firstFull : first ≠ []) (othersFull : ∀ group ∈ others, group ≠ [])
    (firstSound : ∀ s ∈ first, s.Sound) (othersSound : ∀ group ∈ others, ∀ s ∈ group, s.Sound) :
    (others.map (join operator)).foldl (joinTwo operator) (join operator first) =
      join operator (first ++ others.flatten) := by
  -- The groups that have been joined already make up one longer group.
  induction others generalizing first with
  | nil => rw [List.map_nil, List.foldl_nil, List.flatten_nil, List.append_nil]
  | cons next others ih =>
    obtain ⟨nextFull, othersFull⟩ := List.forall_mem_cons.mp othersFull
    obtain ⟨nextSound, othersSound⟩ := List.forall_mem_cons.mp othersSound
    have longerFull : first ++ next ≠ [] := List.append_ne_nil_of_left_ne_nil firstFull next
    have longerSound : ∀ s ∈ first ++ next, s.Sound :=
      List.forall_mem_append.mpr ⟨firstSound, nextSound⟩
    rw [List.map_cons, List.foldl_cons, List.flatten_cons, ← List.append_assoc,
      ← join_append_of_ne_nil firstFull nextFull firstSound nextSound]
    exact ih longerFull othersFull longerSound othersSound

/-- A list may be joined in groups. -/
theorem join_map_join {groups : List (List Statement)} (full : ∀ group ∈ groups, group ≠ [])
    (sound : ∀ group ∈ groups, ∀ s ∈ group, s.Sound) :
    join operator (groups.map (join operator)) = join operator groups.flatten := by
  cases groups with
  | nil => rfl
  | cons first others =>
    obtain ⟨firstFull, othersFull⟩ := List.forall_mem_cons.mp full
    obtain ⟨firstSound, othersSound⟩ := List.forall_mem_cons.mp sound
    exact foldl_joinTwo_groups firstFull othersFull firstSound othersSound

/-! ### Joining by composing -/

/-- Writes the operator and another statement after it. -/
def pushJoined (operator : String) (s t : Statement) : Statement := (s.pushText operator).inline t

/-- The accumulated statement may be renumbered at the end instead of at each step. -/
theorem inline_foldl_joinTwo (sound : s.Sound) {others : List Statement}
    (othersSound : ∀ t ∈ others, t.Sound) :
    empty.inline (others.foldl (joinTwo operator) s) =
      others.foldl (pushJoined operator) (empty.inline s) := by
  induction others generalizing s with
  | nil => rfl
  | cons t others ih =>
    obtain ⟨tSound, rest⟩ := List.forall_mem_cons.mp othersSound
    rw [List.foldl_cons, List.foldl_cons, ih (invariant_sound.joinTwo operator sound tSound) rest,
      inline_joinTwo sound_empty sound tSound]
    rfl

/-- Two or more joined statements have been renumbered already. -/
theorem inline_join {statements : List Statement} (several : 2 ≤ statements.length)
    (sound : ∀ s ∈ statements, s.Sound) :
    empty.inline (join operator statements) = join operator statements := by
  match statements with
  | first :: second :: others =>
    obtain ⟨firstSound, rest⟩ := List.forall_mem_cons.mp sound
    rw [← List.singleton_append, join_append_of_ne_nil (List.cons_ne_nil _ _)
      (List.cons_ne_nil _ _) (List.forall_mem_singleton.mpr firstSound) rest]
    exact inline_joinTwo sound_empty firstSound (invariant_sound.join operator rest)

end Statement

/-- Nested statements with an operator between any two of them. -/
def Template.joining (operator : String) (statements : List Statement) : Template where
  segments := "" :: (List.replicate (statements.length - 1) operator ++ [""])
  values := statements.map .nested

/-- Statements that each come with the operator in front are written one after another. -/
theorem Template.run_plan_joining (settings : Settings) (operator : String)
    (statements : List Statement) (s : Statement) :
    (Template.plan settings
        ⟨List.replicate statements.length operator ++ [""], statements.map .nested⟩).run s =
      .ok (statements.foldl (Statement.pushJoined operator) s) := by
  induction statements generalizing s with
  | nil =>
    have nothing : s.pushText "" = s := by simp [Statement.pushText]
    exact congrArg Except.ok nothing
  | cons t statements ih =>
    have more : List.replicate statements.length operator ++ [""] ≠ [] := by simp
    have step := Template.run_plan_cons settings operator (.nested t)
      (t := ⟨List.replicate statements.length operator ++ [""], statements.map .nested⟩) more s
    exact step.trans (ih _)

/-- Joining two or more statements is composing a template of them. -/
theorem Statement.join_eq_compose (composer : Composer) (operator : String)
    {statements : List Statement} (several : 2 ≤ statements.length)
    (sound : ∀ s ∈ statements, s.Sound) :
    composer.compose (.joining operator statements) = .ok (join operator statements) := by
  rw [Composer.compose_eq_ok_iff_run]
  match statements with
  | first :: others =>
    obtain ⟨firstSound, rest⟩ := List.forall_mem_cons.mp sound
    constructor
    · simp [Template.isWellFormed, Template.joining]
    · have more : List.replicate others.length operator ++ [""] ≠ [] := by simp
      have step := Template.run_plan_cons composer.settings "" (.nested first)
        (t := ⟨List.replicate others.length operator ++ [""], others.map .nested⟩) more .empty
      rw [← inline_join several sound, join, inline_foldl_joinTwo firstSound rest]
      exact step.trans (Template.run_plan_joining composer.settings operator others _)

/-- Joining two or more statements gives what composing them with the operator in between gives,
and what joining any groups of them first gives. -/
theorem join_eq_of_grouping (composer : Composer) (operator : String)
    (statements : List Statement) (several : 2 ≤ statements.length)
    (reached : ∀ s ∈ statements, Reachable s) :
    composer.compose (.joining operator statements) = .ok (.join operator statements) ∧
    ∀ groups : List (List Statement), groups.flatten = statements →
      (∀ group ∈ groups, group ≠ []) →
        Statement.join operator (groups.map (Statement.join operator)) =
          Statement.join operator statements := by
  have sound : ∀ s ∈ statements, s.Sound := fun s member => (reached s member).sound
  refine ⟨Statement.join_eq_compose composer operator several sound, ?_⟩
  rintro groups rfl full
  exact Statement.join_map_join full fun group member s inside =>
    sound s (List.mem_flatten_of_mem member inside)

/-- Repeated, padded and reordered numbers, and a value that nothing refers to. -/
theorem join_eq_of_grouping_adopted :
    Statement.join " OR " [⟨"$01$1", [.null], [⟨0, 3, 1⟩, ⟨3, 5, 1⟩], none⟩,
        Statement.join " OR " [⟨"$2 $1", [.bool true, .null], [⟨0, 2, 2⟩, ⟨3, 5, 1⟩], none⟩,
          ⟨"é$1", [.int 7, .null], [⟨2, 4, 1⟩], none⟩]] =
      ⟨"$1$1 OR $3 $2 OR é$4", [.null, .bool true, .null, .int 7, .null],
        [⟨0, 2, 1⟩, ⟨2, 4, 1⟩, ⟨8, 10, 3⟩, ⟨11, 13, 2⟩, ⟨19, 21, 4⟩], none⟩ := by
  have padded : Statement.adopt? "$01$1" [.null] =
      some ⟨"$01$1", [.null], [⟨0, 3, 1⟩, ⟨3, 5, 1⟩], none⟩ :=
    Statement.adopt?_of_scan (by decide +kernel) (by decide)
  have reordered : Statement.adopt? "$2 $1" [.bool true, .null] =
      some ⟨"$2 $1", [.bool true, .null], [⟨0, 2, 2⟩, ⟨3, 5, 1⟩], none⟩ :=
    Statement.adopt?_of_scan (by decide +kernel) (by decide)
  have unused : Statement.adopt? "é$1" [.int 7, .null] =
      some ⟨"é$1", [.int 7, .null], [⟨2, 4, 1⟩], none⟩ :=
    Statement.adopt?_of_scan (by decide +kernel) (by decide)
  have reached : ∀ s ∈ [(⟨"$01$1", [.null], [⟨0, 3, 1⟩, ⟨3, 5, 1⟩], none⟩ : Statement),
      ⟨"$2 $1", [.bool true, .null], [⟨0, 2, 2⟩, ⟨3, 5, 1⟩], none⟩,
      ⟨"é$1", [.int 7, .null], [⟨2, 4, 1⟩], none⟩], Reachable s := by
    simpa using ⟨Reachable.adopted padded, Reachable.adopted reordered, Reachable.adopted unused⟩
  have grouped := (join_eq_of_grouping .standard " OR " _ (by decide) reached).2
    [[⟨"$01$1", [.null], [⟨0, 3, 1⟩, ⟨3, 5, 1⟩], none⟩],
      [⟨"$2 $1", [.bool true, .null], [⟨0, 2, 2⟩, ⟨3, 5, 1⟩], none⟩,
        ⟨"é$1", [.int 7, .null], [⟨2, 4, 1⟩], none⟩]] rfl (by decide)
  exact grouped.trans rfl

end SqlWeave

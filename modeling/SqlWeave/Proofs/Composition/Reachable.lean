import SqlWeave.Proofs.Composition.Invariant
import SqlWeave.Proofs.Statement.WellFormed

/-!
# Reachable statements

Statements come from fixed texts, from adopted texts, from composing and from joining. All of them
are well-formed (`wellFormed_of_reachable`), which is what inlining relies on: it cuts the text of a
statement at recorded positions without looking at the text. Composing and joining with checked
slices shows that no cut ever fails.
-/
namespace SqlWeave

/-- The statements that can be built, in whatever order and to whatever depth. -/
inductive Reachable : Statement → Prop
  | empty : Reachable .empty
  | literal (text : String) : Reachable (.literal text)
  | adopted {text : String} {values : List Scalar} {s : Statement} :
      Statement.adopt? text values = some s → Reachable s
  | named {s : Statement} (name : String) : Reachable s → Reachable (s.named name)
  | composed {composer : Composer} {t : Template} {s : Statement} :
      (∀ nested ∈ t.statements, Reachable nested) → composer.compose t = .ok s → Reachable s
  | joined (operator : String) {statements : List Statement} :
      (∀ s ∈ statements, Reachable s) → Reachable (.join operator statements)

/-! ### Writing with checked slices -/

namespace Statement

def joinTwo? (operator : String) (s t : Statement) : Option Statement := do
  let left ← empty.inline? s
  (left.pushText operator).inline? t

/-- Joins statements, if all of them can be cut. -/
def join? (operator : String) : List Statement → Option Statement
  | [] => some empty
  | first :: others => others.foldlM (joinTwo? operator) first

def write? (s : Statement) : Write → Option Statement
  | .statement nested => s.inline? nested
  | .text text => some (s.pushText text)
  | .value scalar => some (s.bind scalar)

end Statement

/-- Carries a plan out, if all its statements can be cut. -/
def Plan.run? (p : Plan) (s : Statement) : Option Rendering := do
  let written ← p.writes.foldlM Statement.write? s
  match p.stopped with
  | none => some (.ok written)
  | some cause => some (.error ⟨cause, written⟩)

/-- Composes a template, if all the statements in it can be cut. -/
def Composer.compose? (composer : Composer) (t : Template) :
    Option (Except QueryError Statement) :=
  if t.isWellFormed then
    ((t.plan composer.settings).run? .empty).map (·.mapError Rejection.toQueryError)
  else some (compose.arityError t)

/-! ### Soundness of everything that can be built -/

/-- The statement that a write inlines is sound. -/
abbrev Write.Sound : Write → Prop := Write.Carries Statement.Sound

namespace Statement

variable {s : Statement}

theorem invariant_sound : Invariant Sound where
  empty := sound_empty
  pushText := fun text sound => sound.pushText text
  bind := fun scalar sound => sound.bind scalar
  inline := Sound.inline

theorem foldlM_write?_eq {writes : List Write} (writesSound : ∀ write ∈ writes, write.Sound)
    (s : Statement) : writes.foldlM write? s = some (s.writeAll writes) := by
  induction writes generalizing s with
  | nil => rfl
  | cons write writes ih =>
    have step : s.write? write = some (s.write write) := by
      cases write with
      | text => rfl
      | value => rfl
      | statement nested => exact Sound.inline?_eq (writesSound _ List.mem_cons_self)
    rw [List.foldlM_cons, step]
    exact ih (fun other member => writesSound other (List.mem_cons_of_mem _ member)) _

private theorem foldlM_joinTwo?_eq (operator : String) (sound : s.Sound) {others : List Statement}
    (othersSound : ∀ t ∈ others, t.Sound) :
    others.foldlM (joinTwo? operator) s = some (others.foldl (joinTwo operator) s) := by
  induction others generalizing s with
  | nil => rfl
  | cons t others ih =>
    obtain ⟨tSound, rest⟩ := List.forall_mem_cons.mp othersSound
    have step : joinTwo? operator s t = some (joinTwo operator s t) := by
      -- Both statements are cut, the first one to be inlined into nothing.
      rw [joinTwo?, sound.inline?_eq]
      exact tSound.inline?_eq
    rw [List.foldlM_cons, step]
    exact ih (invariant_sound.joinTwo operator sound tSound) rest

/-- Joining sound statements gives a sound one, and no slice fails on the way. -/
theorem sound_join (operator : String) {statements : List Statement}
    (sound : ∀ s ∈ statements, s.Sound) :
    (join operator statements).Sound ∧
      join? operator statements = some (join operator statements) := by
  refine ⟨invariant_sound.join operator sound, ?_⟩
  cases statements with
  | nil => rfl
  | cons first others =>
    obtain ⟨firstSound, othersSound⟩ := List.forall_mem_cons.mp sound
    exact foldlM_joinTwo?_eq operator firstSound othersSound

end Statement

theorem Template.sound_of_mem_plan (settings : Settings) {t : Template}
    (sound : ∀ nested ∈ t.statements, nested.Sound) :
    ∀ write ∈ (t.plan settings).writes, write.Sound :=
  t.carries_of_mem_plan settings sound

theorem Composer.sound_compose {composer : Composer} {t : Template} {s : Statement}
    (sound : ∀ nested ∈ t.statements, nested.Sound) (composed : composer.compose t = .ok s) :
    s.Sound :=
  Statement.invariant_sound.compose sound composed

theorem Composer.compose?_eq (composer : Composer) {t : Template}
    (sound : ∀ nested ∈ t.statements, nested.Sound) :
    composer.compose? t = some (composer.compose t) := by
  rw [compose?, compose_eq_run]
  split
  · rw [Plan.run?, Plan.run,
      Statement.foldlM_write?_eq (Template.sound_of_mem_plan composer.settings sound)]
    cases (t.plan composer.settings).stopped <;> rfl
  · rfl

theorem Reachable.sound {s : Statement} (reached : Reachable s) : s.Sound := by
  -- One case for each way of building; inlined statements are sound by induction.
  induction reached with
  | empty => exact Statement.sound_empty
  | literal text => exact Statement.sound_literal text
  | adopted adopted => exact Statement.sound_of_adopt? adopted
  | named name _ sound => exact sound.named name
  | composed _ composed sound => exact Composer.sound_compose sound composed
  | joined operator _ sound => exact (Statement.sound_join operator sound).1

/-- Every reachable statement is well-formed and can be cut at its placeholders; joining reachable
statements and composing templates of them never takes a slice that is not there. -/
theorem wellFormed_of_reachable (statements : List Statement)
    (reached : ∀ s ∈ statements, Reachable s) :
    (∀ s ∈ statements, s.WellFormed ∧ s.cut? = some s.pieces) ∧
    (∀ operator, Statement.join? operator statements = some (.join operator statements)) ∧
    ∀ (composer : Composer) (t : Template), (∀ nested ∈ t.statements, nested ∈ statements) →
      composer.compose? t = some (composer.compose t) := by
  have sound : ∀ s ∈ statements, s.Sound := fun s member => (reached s member).sound
  refine ⟨fun s member => ⟨(sound s member).wellFormed, (sound s member).cut?_eq⟩,
    fun operator => (Statement.sound_join operator sound).2, fun composer t known => ?_⟩
  exact composer.compose?_eq fun nested member => sound nested (known nested member)

/-- Twice the same adopted text with a padded number, joined: the numbers lose their zeros. -/
theorem wellFormed_of_reachable_joined :
    Reachable ⟨"é$1 é$2", [.null, .null], [⟨2, 4, 1⟩, ⟨7, 9, 2⟩], none⟩ ∧
      Statement.WellFormed ⟨"é$1 é$2", [.null, .null], [⟨2, 4, 1⟩, ⟨7, 9, 2⟩], none⟩ := by
  have adopted : Statement.adopt? "é$01" [.null] =
      some ⟨"é$01", [.null], [⟨2, 5, 1⟩], none⟩ :=
    Statement.adopt?_of_scan (by decide +kernel) (by decide)
  have both : ∀ s ∈ [(⟨"é$01", [.null], [⟨2, 5, 1⟩], none⟩ : Statement),
      ⟨"é$01", [.null], [⟨2, 5, 1⟩], none⟩], Reachable s := by
    simpa using Reachable.adopted adopted
  have joined : Reachable ⟨"é$1 é$2", [.null, .null], [⟨2, 4, 1⟩, ⟨7, 9, 2⟩], none⟩ :=
    .joined " " both
  have wellFormed := (wellFormed_of_reachable [_] (List.forall_mem_singleton.mpr joined)).1 _
    List.mem_cons_self
  exact ⟨joined, wellFormed.1⟩

end SqlWeave

import SqlWeave.Proofs.Composition.Plan

/-!
# Invariants of statements

Every statement is written from nothing by three operations: a text is appended, a value is bound, a
statement is inlined. A property that survives all three survives composing
(`Invariant.compose`) and joining (`Invariant.join`), with no look at templates, plans or operators.
-/
namespace SqlWeave

/-- A property of the empty statement that texts, values and statements which have it cannot
break. -/
structure Statement.Invariant (P : Statement → Prop) : Prop where
  empty : P .empty
  pushText {s : Statement} (text : String) : P s → P (s.pushText text)
  bind {s : Statement} (scalar : Scalar) : P s → P (s.bind scalar)
  inline {s t : Statement} : P s → P t → P (s.inline t)

/-- The statement that is written, if it is one, has the property. -/
def Write.Carries (P : Statement → Prop) : Write → Prop
  | .statement nested => P nested
  | .text _ | .value _ => True

/-- Templates write no other statements than those in their values. -/
theorem Template.carries_of_mem_plan (settings : Settings) {t : Template} {P : Statement → Prop}
    (nested : ∀ s ∈ t.statements, P s) :
    ∀ write ∈ (t.plan settings).writes, write.Carries P :=
  forall_mem_plan (P := Write.Carries P) (fun _ _ => trivial) (fun _ => trivial) nested
    (fun _ _ => trivial) (fun _ _ => trivial) (fun _ _ _ _ => trivial) fun _ _ _ _ _ => trivial

namespace Statement.Invariant

variable {P : Statement → Prop} {s t : Statement}

theorem write (invariant : Invariant P) {write : Write} (holds : P s)
    (carries : write.Carries P) : P (s.write write) := by
  cases write with
  | text text => exact invariant.pushText text holds
  | value scalar => exact invariant.bind scalar holds
  | statement nested => exact invariant.inline holds carries

theorem writeAll (invariant : Invariant P) {writes : List Write} (holds : P s)
    (carry : ∀ write ∈ writes, write.Carries P) : P (s.writeAll writes) :=
  writeAll_preserves (fun _ _ before => invariant.write before) holds carry

theorem compose (invariant : Invariant P) {composer : Composer} {t : Template}
    (nested : ∀ s ∈ t.statements, P s) (composed : composer.compose t = .ok s) : P s := by
  obtain ⟨-, -, rfl⟩ := Composer.compose_eq_ok_iff.mp composed
  exact invariant.writeAll invariant.empty (t.carries_of_mem_plan composer.settings nested)

theorem joinTwo (invariant : Invariant P) (operator : String) (left : P s) (right : P t) :
    P (Statement.joinTwo operator s t) :=
  invariant.inline (invariant.pushText operator (invariant.inline invariant.empty left)) right

theorem join (invariant : Invariant P) (operator : String) {statements : List Statement}
    (each : ∀ s ∈ statements, P s) : P (Statement.join operator statements) := by
  cases statements with
  | nil => exact invariant.empty
  | cons first others =>
    obtain ⟨holds, others⟩ := List.forall_mem_cons.mp each
    -- The invariant holds of what has been joined so far.
    exact List.foldlRecOn (motive := P) _ _ holds fun joined before s member =>
      invariant.joinTwo operator before (others s member)

end Statement.Invariant

end SqlWeave

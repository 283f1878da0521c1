import Mathlib.Data.List.Forall2
import SqlWeave.Postgres.Binding

/-!
# What binding gives

A scalar binds to a type in one of three ways (`bind_eq_ok_iff`): the items of a list one by one,
null as an array that is not there, and anything else as a single value. The values of a statement
bind to the types of its parameters one by one as well (`bindAll_eq_ok_iff`).
-/
namespace SqlWeave.Postgres

/-! ### Going through lists -/

section Traversal

variable {α β ε : Type} {f : α → Except ε β}

theorem mapError_eq_ok_iff {ε' : Type} {g : ε → ε'} {result : Except ε β} {y : β} :
    result.mapError g = .ok y ↔ result = .ok y := by
  cases result <;> simp [Except.mapError]

/-- One result and then those of the others. -/
theorem cons_eq_ok_iff {head : Except ε β} {tail : Except ε (List β)} {all : List β} :
    (do let y ← head; let ys ← tail; Except.ok (y :: ys)) = .ok all ↔
      ∃ y ys, head = .ok y ∧ tail = .ok ys ∧ all = y :: ys := by
  cases head with
  | error e => simp [Bind.bind, Except.bind]
  | ok y => cases tail <;> simp [Bind.bind, Except.bind, eq_comm]

theorem mapM_eq_ok_iff {xs : List α} {ys : List β} :
    xs.mapM f = .ok ys ↔ List.Forall₂ (fun x y => f x = .ok y) xs ys := by
  induction xs generalizing ys with
  | nil => simp [pure, Except.pure, eq_comm]
  | cons x xs ih =>
    have first : (x :: xs).mapM f = (do let y ← f x; let ys ← xs.mapM f; Except.ok (y :: ys)) :=
      List.mapM_cons
    rw [first, cons_eq_ok_iff, List.forall₂_cons_left_iff]
    simp only [ih, exists_and_left]

theorem exists_of_mapM_eq_ok {xs : List α} {ys : List β} (mapped : xs.mapM f = .ok ys) :
    ∀ x ∈ xs, ∃ y ∈ ys, f x = .ok y := by
  rw [mapM_eq_ok_iff] at mapped
  induction mapped with
  | nil => simp
  | cons head _ ih =>
    rw [List.forall_mem_cons]
    refine ⟨⟨_, List.mem_cons_self, head⟩, fun x member => ?_⟩
    obtain ⟨y, found, here⟩ := ih x member
    exact ⟨y, List.mem_cons_of_mem _ found, here⟩

theorem mem_of_mapM_eq_error {xs : List α} {e : ε} (failed : xs.mapM f = .error e) :
    ∃ x ∈ xs, f x = .error e := by
  induction xs with
  | nil => cases failed
  | cons x xs ih =>
    rw [List.mapM_cons] at failed
    cases head : f x with
    | error other =>
      -- The traversal stops at the first failure, which is the one that it reports.
      rw [head] at failed
      cases failed
      exact ⟨x, List.mem_cons_self, head⟩
    | ok y =>
      cases tail : xs.mapM f with
      | error other =>
        rw [head, tail] at failed
        cases failed
        obtain ⟨later, member, here⟩ := ih tail
        exact ⟨later, List.mem_cons_of_mem x member, here⟩
      | ok ys =>
        rw [head, tail] at failed
        cases failed

theorem exists_mapM_eq_ok {xs : List α} (each : ∀ x ∈ xs, ∃ y, f x = .ok y) :
    ∃ ys, xs.mapM f = .ok ys := by
  cases mapped : xs.mapM f with
  | ok ys => exact ⟨ys, rfl⟩
  | error e =>
    obtain ⟨x, member, failed⟩ := mem_of_mapM_eq_error mapped
    obtain ⟨y, here⟩ := each x member
    cases failed.symm.trans here

end Traversal

/-! ### One scalar -/

theorem holdOptional_null (carrier : Carrier) : carrier.holdOptional .null = .ok none := rfl

theorem holdOptional_eq_ok_none_iff {carrier : Carrier} {scalar : Scalar} :
    carrier.holdOptional scalar = .ok none ↔ scalar = .null := by
  constructor
  · intro held
    rw [Carrier.holdOptional] at held
    split at held
    next null => cases scalar <;> first | rfl | cases null
    next =>
      -- A value that is held is no null.
      cases value : carrier.hold scalar <;> rw [value] at held <;> cases held
  · rintro rfl
    exact holdOptional_null carrier

/-- No list is among the items of an array. -/
theorem kind_ne_list_of_listMismatch? {items : List Scalar} (alike : listMismatch? items = none) :
    ∀ item ∈ items, item.kind ≠ .list := by
  intro item member isList
  rw [listMismatch?] at alike
  split at alike
  next absent =>
    have notNull : item.isNull = false := by cases item <;> first | rfl | cases isList
    exact List.find?_eq_none.mp absent item member (by simp [notNull])
  next first _ =>
    have fits := List.findSome?_eq_none_iff.mp alike item member
    rw [if_pos isList] at fits
    cases fits

/-- The ways in which a scalar binds to a type. -/
inductive Bound : ServerType → Scalar → Param → Prop
  | items {member : BaseType} {items : List Scalar} {held : List (Option member.carrier.Datum)} :
      listMismatch? items = none →
      List.Forall₂ (fun item held => member.carrier.holdOptional item = .ok held) items held →
      Bound (.array member) (.list items) ⟨member.carrier, .array (some held)⟩
  | noItems (member : BaseType) : Bound (.array member) .null ⟨member.carrier, .array none⟩
  | single {base : BaseType} {scalar : Scalar} {held : Option base.carrier.Datum} :
      (scalar.kind = .list → base.isDocument = true) →
      base.carrier.holdOptional scalar = .ok held →
      Bound (.base base) scalar ⟨base.carrier, .single held⟩

theorem bind_base_eq_ok_iff {base : BaseType} {scalar : Scalar} {param : Param} :
    bind (.base base) scalar = .ok param ↔ (scalar.kind = .list → base.isDocument = true) ∧
      ∃ held, base.carrier.holdOptional scalar = .ok held ∧
        param = ⟨base.carrier, .single held⟩ := by
  rw [bind]
  split
  next misfit =>
    have noDocument : base.isDocument = false := by simpa using misfit.2
    simp [misfit.1, noDocument]
  next fits =>
    have listed : scalar.kind = .list → base.isDocument = true := by simpa using fits
    cases held : base.carrier.holdOptional scalar with
    | error mismatch => simp [Bind.bind, Except.bind]
    | ok value =>
      rw [and_iff_right listed]
      simpa [Bind.bind, Except.bind] using eq_comm

theorem bind_items_eq_ok_iff {member : BaseType} {items : List Scalar} {param : Param} :
    bind (.array member) (.list items) = .ok param ↔ listMismatch? items = none ∧
      ∃ held,
        List.Forall₂ (fun item held => member.carrier.holdOptional item = .ok held) items held ∧
        param = ⟨member.carrier, .array (some held)⟩ := by
  rw [bind]
  split
  next mismatch found => simp [found]
  next alike =>
    simp only [alike, true_and, ← mapM_eq_ok_iff]
    cases held : items.mapM member.carrier.holdOptional with
    | error mismatch => simp [Bind.bind, Except.bind]
    | ok values => simp [Bind.bind, Except.bind, eq_comm]

theorem bind_eq_ok_iff {type : ServerType} {scalar : Scalar} {param : Param} :
    bind type scalar = .ok param ↔ Bound type scalar param := by
  constructor
  · intro bound
    cases type with
    | base base =>
      obtain ⟨listed, held, holds, rfl⟩ := bind_base_eq_ok_iff.mp bound
      exact .single listed holds
    | array member =>
      cases scalar with
      | null =>
        cases bound
        exact .noItems member
      | list items =>
        obtain ⟨alike, held, holds, rfl⟩ := bind_items_eq_ok_iff.mp bound
        exact .items alike holds
      | bool | int | float | uuid | timestamp | string | json => cases bound
  · intro bound
    cases bound with
    | items alike holds => exact bind_items_eq_ok_iff.mpr ⟨alike, _, holds, rfl⟩
    | noItems => rfl
    | single listed holds => exact bind_base_eq_ok_iff.mpr ⟨listed, _, holds, rfl⟩

/-! ### All values of a statement -/

theorem bindFrom_eq_ok_iff {i : Nat} {parameters : List (ServerType × Scalar)}
    {params : List Param} : bindFrom i parameters = .ok params ↔
      List.Forall₂ (fun parameter param => bind parameter.1 parameter.2 = .ok param)
        parameters params := by
  induction parameters generalizing i params with
  | nil => simp [bindFrom, eq_comm]
  | cons parameter others ih =>
    -- The number only matters for failures.
    rw [bindFrom, cons_eq_ok_iff, List.forall₂_cons_left_iff]
    simp only [mapError_eq_ok_iff, ih, exists_and_left]

theorem bindAll_eq_ok_iff {types : List ServerType} {values : List Scalar} {params : List Param} :
    bindAll types values = .ok params ↔ values.length = types.length ∧
      List.Forall₂ (fun parameter param => bind parameter.1 parameter.2 = .ok param)
        (types.zip values) params := by
  rw [bindAll]
  split
  next count => rw [bindFrom_eq_ok_iff, and_iff_right count]
  next count => simp [count]

end SqlWeave.Postgres

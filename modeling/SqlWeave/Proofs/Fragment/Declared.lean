import Mathlib.Data.List.Induction
import SqlWeave.Proofs.Fragment.Reader

/-!
# Fragments of declared names

A helper refuses the first name that is not declared and makes a fragment of names that all are. The
fragment reads back as these names and nothing else, in the order in which they were asked for
(`fragments_declared`).
-/
namespace SqlWeave

/-- What a helper makes of requested names: the error for the first one that is not declared, else a
fragment that reads back as what is meant. -/
structure Fragment.Declares {α : Type} (outcome : Except QueryError Value)
    (requested : List String) (declared : String → Prop) (failure : String → QueryError)
    (reader : Fragment.Reader α) (meant : List α) : Prop where
  accepted : (∃ value, outcome = .ok value) ↔ ∀ name ∈ requested, declared name
  refused : ∀ error, outcome = .error error ↔
    ∃ before name after, requested = before ++ name :: after ∧
      (∀ other ∈ before, declared other) ∧ ¬ declared name ∧ error = failure name
  readBack : ∀ value, outcome = .ok value →
    ∃ text, value = .raw text ∧ reader.readAll? text = some meant

namespace Fragment

/-- Either all names are declared, or there is a first one that is not. -/
theorem exists_first_undeclared (declared : String → Prop) (requested : List String) :
    (∀ name ∈ requested, declared name) ∨
      ∃ before name after, requested = before ++ name :: after ∧
        (∀ other ∈ before, declared other) ∧ ¬ declared name := by
  induction requested with
  | nil => simp
  | cons name names ih =>
    by_cases known : declared name
    · rcases ih with all | ⟨before, other, after, rfl, front, unknown⟩
      · exact .inl (List.forall_mem_cons.mpr ⟨known, all⟩)
      · exact .inr ⟨name :: before, other, after, rfl, List.forall_mem_cons.mpr ⟨known, front⟩,
          unknown⟩
    · exact .inr ⟨[], name, names, rfl, by simp, known⟩

section Declares

variable {α : Type} {outcome : Except QueryError Value} {requested : List String}
  {declared : String → Prop} {failure : String → QueryError} {reader : Reader α} {meant : List α}

theorem Declares.of_all {text : String} (all : ∀ name ∈ requested, declared name)
    (made : outcome = .ok (.raw text)) (read : reader.readAll? text = some meant) :
    Declares outcome requested declared failure reader meant where
  accepted := ⟨fun _ => all, fun _ => ⟨_, made⟩⟩
  refused error := by
    constructor
    · intro failed
      cases made.symm.trans failed
    · rintro ⟨before, name, after, rfl, -, unknown, -⟩
      exact absurd (all name (by simp)) unknown
  readBack value same := by
    cases made.symm.trans same
    exact ⟨text, rfl, read⟩

theorem Declares.of_refusal {before after : List String} {name : String}
    (front : ∀ other ∈ before, declared other) (unknown : ¬ declared name)
    (refuses : ∀ before name after, requested = before ++ name :: after →
      (∀ other ∈ before, declared other) → ¬ declared name → outcome = .error (failure name))
    (split : requested = before ++ name :: after) :
    Declares outcome requested declared failure reader meant := by
  have failed := refuses before name after split front unknown
  refine ⟨⟨?_, ?_⟩, fun error => ⟨?_, ?_⟩, ?_⟩
  · rintro ⟨value, made⟩
    cases failed.symm.trans made
  · intro all
    exact absurd (all name (by simp [split])) unknown
  · intro found
    cases failed.symm.trans found
    exact ⟨before, name, after, split, front, unknown, rfl⟩
  -- Whichever first name is given, it is the one that was refused.
  · rintro ⟨before, name, after, split, front, unknown, rfl⟩
    exact refuses before name after split front unknown
  · intro value made
    cases failed.symm.trans made

/-- A helper that refuses the first name that is not declared, and else makes a fragment. -/
theorem Declares.of_cases
    (makes : (∀ name ∈ requested, declared name) →
      ∃ text, outcome = .ok (.raw text) ∧ reader.readAll? text = some meant)
    (refuses : ∀ before name after, requested = before ++ name :: after →
      (∀ other ∈ before, declared other) → ¬ declared name → outcome = .error (failure name)) :
    Declares outcome requested declared failure reader meant := by
  rcases exists_first_undeclared declared requested with
    all | ⟨before, name, after, split, front, unknown⟩
  · obtain ⟨text, made, read⟩ := makes all
    exact .of_all all made read
  · exact .of_refusal front unknown refuses split

end Declares

end Fragment

namespace TableSchema

variable {table : TableSchema}

theorem hasColumn_iff {column : String} : table.hasColumn column = true ↔ column ∈ table.columns :=
  List.contains_iff_mem

/-- The columns that a request stands for. -/
def meant (table : TableSchema) (columns : List String) : List String :=
  if columns = [] then table.columns else columns

theorem resolve_eq_ok {columns : List String} (known : ∀ column ∈ columns, column ∈ table.columns) :
    table.resolve columns = .ok (table.meant columns) := by
  cases columns with
  | nil => rfl
  | cons column columns =>
    have noFault : (column :: columns).find? (fun column => !table.hasColumn column) = none :=
      List.find?_eq_none.mpr fun column member => by simp [hasColumn_iff.mpr (known column member)]
    simp [resolve, noFault, meant]

theorem resolve_eq_error {before after : List String} {column : String}
    (known : ∀ other ∈ before, other ∈ table.columns) (unknown : column ∉ table.columns) :
    table.resolve (before ++ column :: after) = .error (table.unknownColumn column) := by
  have fault : (before ++ column :: after).find? (fun column => !table.hasColumn column) =
      some column := by
    refine List.find?_eq_some_iff_append.mpr ⟨?_, before, after, rfl, fun other member => ?_⟩
    · simpa [hasColumn] using unknown
    · simp [hasColumn_iff.mpr (known other member)]
  simp [resolve, fault]

/-- A list of columns, each one spelled as an item of its own. -/
theorem declares_columns (table : TableSchema) {α : Type} {reader : Fragment.Reader α}
    {text : α → String} (reads : ∀ x, reader.Reads (fun x => (text x).toList) x)
    (item : String → α) (columns : List String) :
    Fragment.Declares
      ((table.resolve columns).map fun names =>
        Value.raw (commaSeparated (names.map fun column => text (item column))))
      columns (· ∈ table.columns) table.unknownColumn reader ((table.meant columns).map item) := by
  apply Fragment.Declares.of_cases
  · intro known
    have read : reader.readAll? (commaSeparated (((table.meant columns).map item).map text)) =
        some ((table.meant columns).map item) :=
      Fragment.Reader.readAll?_commaSeparated fun x _ => reads x
    rw [List.map_map] at read
    rw [resolve_eq_ok known]
    exact ⟨_, rfl, read⟩
  · rintro before column after rfl known unknown
    rw [resolve_eq_error known unknown]
    rfl

end TableSchema

/-! ### Fields of several tables -/

section Traversal

variable {α β ε : Type} {f : α → Except ε β}

theorem mapM_eq_ok_map {g : α → β} {xs : List α} (each : ∀ x ∈ xs, f x = .ok (g x)) :
    xs.mapM f = .ok (xs.map g) := by
  induction xs with
  | nil => rfl
  | cons x xs ih =>
    obtain ⟨here, later⟩ := List.forall_mem_cons.mp each
    rw [List.mapM_cons, here, ih later]
    rfl

/-- A traversal fails where it first meets a failure. -/
theorem mapM_eq_error_of_first {g : α → β} {before after : List α} {x : α} {e : ε}
    (front : ∀ other ∈ before, f other = .ok (g other)) (failed : f x = .error e) :
    (before ++ x :: after).mapM f = .error e := by
  induction before with
  | nil =>
    rw [List.nil_append, List.mapM_cons, failed]
    rfl
  | cons other before ih =>
    obtain ⟨here, later⟩ := List.forall_mem_cons.mp front
    rw [List.cons_append, List.mapM_cons, here, ih later]
    rfl

end Traversal

open Fragment.Reader (Fallback)

/-- The fallback for a field: the tables that declare it, in the order in which they are given. -/
def fallbackOf (tables : List TableSchema) (field : String) : Fallback where
  sources := (tables.filter (field ∈ ·.columns)).map fun table => (table.name, field)
  field := field

variable {tables : List TableSchema} {field : String}

theorem filter_hasColumn (tables : List TableSchema) (field : String) :
    tables.filter (·.hasColumn field) = tables.filter (field ∈ ·.columns) :=
  List.filter_congr fun table _ => by simp [TableSchema.hasColumn]

theorem sources_fallbackOf_ne_nil (known : ∃ table ∈ tables, field ∈ table.columns) :
    (fallbackOf tables field).sources ≠ [] := by
  obtain ⟨table, member, declared⟩ := known
  intro empty
  have here : table ∈ tables.filter (field ∈ ·.columns) :=
    List.mem_filter.mpr ⟨member, decide_eq_true declared⟩
  rw [List.map_eq_nil_iff.mp empty] at here
  cases here

theorem coalesceField_eq_ok (known : ∃ table ∈ tables, field ∈ table.columns) :
    coalesceField tables field = .ok (fallbackOf tables field).text := by
  have sources_ne := sources_fallbackOf_ne_nil known
  rw [coalesceField, filter_hasColumn]
  split
  next none =>
    -- Some table declares the field, so the list of sources is not empty.
    simp [fallbackOf, none] at sources_ne
  next => simp [Fallback.text, fallbackOf, Function.comp_def]

theorem coalesceField_eq_error (unknown : ¬ ∃ table ∈ tables, field ∈ table.columns) :
    coalesceField tables field = .error (QueryError.of (.untrustedIdentifier "field" field)) := by
  have none : tables.filter (·.hasColumn field) = [] :=
    List.filter_eq_nil_iff.mpr fun table member declared =>
      unknown ⟨table, member, TableSchema.hasColumn_iff.mp declared⟩
  rw [coalesceField, none]

theorem declares_coalesceFields (tables : List TableSchema) (fields : List String) :
    Fragment.Declares (coalesceFields tables fields) fields
      (fun field => ∃ table ∈ tables, field ∈ table.columns)
      (fun field => QueryError.of (.untrustedIdentifier "field" field))
      Fragment.Reader.fallback (fields.map (fallbackOf tables)) := by
  apply Fragment.Declares.of_cases
  · intro known
    have texts : fields.mapM (coalesceField tables) =
        .ok ((fields.map (fallbackOf tables)).map Fallback.text) := by
      rw [List.map_map]
      exact mapM_eq_ok_map fun field member => coalesceField_eq_ok (known field member)
    rw [coalesceFields, texts]
    refine ⟨_, rfl, Fragment.Reader.readAll?_commaSeparated fun item member => ?_⟩
    obtain ⟨field, found, rfl⟩ := List.mem_map.mp member
    exact Fragment.Reader.reads_fallback (sources_fallbackOf_ne_nil (known field found))
  · rintro before field after rfl known unknown
    have failed : (before ++ field :: after).mapM (coalesceField tables) =
        .error (QueryError.of (.untrustedIdentifier "field" field)) :=
      mapM_eq_error_of_first (fun other member => coalesceField_eq_ok (known other member))
        (coalesceField_eq_error unknown)
    rw [coalesceFields, failed]
    rfl

/-! ### Declaring a table -/

/-- Repeated names go, the others stay in the order of their first places. -/
theorem pairwise_idxOf_eraseDups (names : List String) :
    names.eraseDups.Pairwise fun a b => names.idxOf a < names.idxOf b := by
  induction names using List.reverseRecOn with
  | nil => exact .nil
  | append_singleton names name ih =>
    -- A name at the end changes no place in front of it.
    have kept : names.eraseDups.Pairwise fun a b =>
        (names ++ [name]).idxOf a < (names ++ [name]).idxOf b := by
      refine ih.imp_of_mem fun {a b} first second before => ?_
      rwa [List.idxOf_append_of_mem (List.mem_eraseDups.mp first),
        List.idxOf_append_of_mem (List.mem_eraseDups.mp second)]
    rw [List.eraseDups_append]
    by_cases known : name ∈ names
    · have nothing : [name].removeAll names = [] := by simp [List.removeAll, known]
      simpa [nothing] using kept
    · have new : [name].removeAll names = [name] := by simp [List.removeAll, known]
      rw [new, List.pairwise_append]
      refine ⟨kept, by simp [List.eraseDups_cons], fun a first b second => ?_⟩
      -- The new name comes behind all the others.
      have member := List.mem_eraseDups.mp first
      have last : b = name := List.mem_singleton.mp (List.mem_eraseDups.mp second)
      rw [last, List.idxOf_append_of_mem member, List.idxOf_append_of_notMem known]
      exact Nat.lt_of_lt_of_le (List.idxOf_lt_length_of_mem member) (Nat.le_add_right _ _)

/-- Helpers make fragments of declared names only. What they make reads back as the names that were
asked for, in their order, or as all names of a table, each at the place where it was first
declared; a field reads back with exactly the tables that declare it. -/
theorem fragments_declared (name : String) (declared columns : List String)
    (tables : List TableSchema) (fields : List String) :
    let table := TableSchema.declare name declared
    let meant := if columns = [] then table.columns else columns
    let unknownColumn column :=
      (QueryError.of (.untrustedIdentifier "column" column)).withTable name
    Fragment.Declares (selectColumns table columns) columns (· ∈ declared) unknownColumn
      Fragment.Reader.name meant ∧
    Fragment.Declares (qualifiedColumns table columns) columns (· ∈ declared) unknownColumn
      Fragment.Reader.column (meant.map fun column => (name, column)) ∧
    (∀ column, column ∈ table.columns ↔ column ∈ declared) ∧
    table.columns.Pairwise (fun a b => declared.idxOf a < declared.idxOf b) ∧
    Fragment.Declares (coalesceFields tables fields) fields
      (fun field => ∃ table ∈ tables, field ∈ table.columns)
      (fun field => QueryError.of (.untrustedIdentifier "field" field))
      Fragment.Reader.fallback
      (fields.map fun field =>
        ⟨(tables.filter (field ∈ ·.columns)).map fun table => (table.name, field), field⟩) := by
  intro table meant unknownColumn
  have members : ∀ column, column ∈ table.columns ↔ column ∈ declared :=
    fun column => List.mem_eraseDups
  -- Without repetitions a table declares the same columns.
  have same : (· ∈ table.columns) = (· ∈ declared) := funext fun column => propext (members column)
  refine ⟨?_, ?_, members, pairwise_idxOf_eraseDups declared,
    declares_coalesceFields tables fields⟩
  · have single := table.declares_columns Fragment.Reader.reads_name id columns
    rw [same, List.map_id] at single
    exact single
  · have qualified := table.declares_columns Fragment.Reader.reads_column
      (fun column => (name, column)) columns
    rw [same] at qualified
    exact qualified

end SqlWeave

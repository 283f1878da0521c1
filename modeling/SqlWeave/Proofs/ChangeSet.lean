import Mathlib.Data.List.Perm.Subperm
import SqlWeave.ChangeSet

/-!
# Recording several writes

Recording a list of tables appends those that are not there yet, each at the place of its first
occurrence (`tables_insertAll`). Two sets hold the same tables if and only if they have the same
members (`sameTables_iff`). Merging a set that a list was recorded in is recording the list after
the merge (`merge_insertAll`), so merging is associative, and the empty set is its identity.
-/
namespace SqlWeave.ChangeSet

variable {set other : ChangeSet}

theorem mem_insertAll {names : List String} {table : String} :
    table ∈ (set.insertAll names).tables ↔ table ∈ set.tables ∨ table ∈ names := by
  induction names generalizing set with
  | nil => simp [insertAll]
  | cons name names ih =>
    have rest : table ∈ ((set.insert name).insertAll names).tables ↔
        table ∈ (set.insert name).tables ∨ table ∈ names := ih
    rw [mem_insert] at rest
    rw [List.mem_cons, ← or_assoc]
    exact rest

theorem tables_insertAll (set : ChangeSet) (names : List String) :
    (set.insertAll names).tables =
      set.tables ++ (names.filter (· ∉ set.tables)).eraseDups := by
  induction names generalizing set with
  | nil => simp [insertAll]
  | cons name names ih =>
    have rest : (set.insertAll (name :: names)).tables =
        (set.insert name).tables ++ (names.filter (· ∉ (set.insert name).tables)).eraseDups :=
      ih (set.insert name)
    rw [rest, tables_insert]
    by_cases known : name ∈ set.tables
    · rw [if_pos known, List.filter_cons_of_neg (by simpa using known)]
    · -- The name comes first among the new ones, and its other occurrences go.
      rw [if_neg known, List.filter_cons_of_pos (by simpa using known), List.eraseDups_cons,
        List.append_assoc, List.singleton_append, List.filter_filter]
      congr 3
      apply List.filter_congr
      intro other _
      simp only [List.mem_append, List.mem_singleton, not_or]
      grind

theorem sameTables_iff :
    set.sameTables other = true ↔ ∀ table, table ∈ set.tables ↔ table ∈ other.tables := by
  have perm : set.tables.Perm other.tables ↔ ∀ table, table ∈ set.tables ↔ table ∈ other.tables :=
    List.perm_ext_iff_of_nodup set.nodup other.nodup
  rw [← perm, sameTables, Bool.and_eq_true, decide_eq_true_eq, List.all_eq_true]
  simp only [size, contains, List.contains_iff_mem]
  constructor
  · rintro ⟨length, members⟩
    -- Distinct members, all of them in the other set, and just as many there.
    exact (List.subperm_of_subset set.nodup members).perm_of_length_le (Nat.le_of_eq length.symm)
  · intro same
    exact ⟨same.length_eq, fun table member => same.mem_iff.mp member⟩

/-! ### Merging -/

theorem eq_of_tables (same : set.tables = other.tables) : set = other := by
  cases set
  cases other
  cases same
  rfl

theorem insert_of_mem {table : String} (known : table ∈ set.tables) : set.insert table = set :=
  eq_of_tables (by rw [tables_insert, if_pos known])

theorem insertAll_append (set : ChangeSet) (names more : List String) :
    set.insertAll (names ++ more) = (set.insertAll names).insertAll more :=
  List.foldl_append

theorem merge_insert (set later : ChangeSet) (table : String) :
    set.merge (later.insert table) = (set.merge later).insert table := by
  by_cases known : table ∈ later.tables
  · -- The table keeps its place in the later set, and so in the merged one.
    have merged : table ∈ (set.merge later).tables := mem_insertAll.mpr (.inr known)
    rw [insert_of_mem known, insert_of_mem merged]
  · rw [merge, tables_insert, if_neg known, insertAll_append]
    rfl

theorem merge_insertAll (set later : ChangeSet) (names : List String) :
    set.merge (later.insertAll names) = (set.merge later).insertAll names := by
  induction names generalizing later with
  | nil => rfl
  | cons name names ih =>
    calc set.merge ((later.insert name).insertAll names)
        = (set.merge (later.insert name)).insertAll names := ih (later.insert name)
      _ = ((set.merge later).insert name).insertAll names := by rw [merge_insert]

private theorem eraseDups_of_nodup {names : List String} (nodup : names.Nodup) :
    names.eraseDups = names := by
  induction names with
  | nil => rfl
  | cons name names ih =>
    obtain ⟨fresh, nodup⟩ := List.nodup_cons.mp nodup
    have others : names.filter (fun other => !other == name) = names :=
      List.filter_eq_self.mpr fun other member => by
        simpa using ne_of_mem_of_not_mem member fresh
    rw [List.eraseDups_cons, others, ih nodup]

@[simp] theorem merge_empty (set : ChangeSet) : set.merge .empty = set := rfl

@[simp] theorem empty_merge (set : ChangeSet) : empty.merge set = set := by
  apply eq_of_tables
  simp [merge, tables_insertAll, eraseDups_of_nodup set.nodup]

theorem merge_assoc (set later last : ChangeSet) :
    (set.merge later).merge last = set.merge (later.merge last) :=
  (merge_insertAll set later last.tables).symm

theorem touchesAny_iff {tables : List String} :
    set.touchesAny tables = true ↔ ∃ table ∈ tables, table ∈ set.tables := by
  simp [touchesAny, contains]

@[simp] theorem touchesAny_empty (tables : List String) : empty.touchesAny tables = false := by
  simp [touchesAny, contains]

theorem touchesAny_merge (set later : ChangeSet) (tables : List String) :
    (set.merge later).touchesAny tables = (set.touchesAny tables || later.touchesAny tables) := by
  rw [Bool.eq_iff_iff, Bool.or_eq_true]
  simp only [touchesAny_iff, merge, mem_insertAll, and_or_left, exists_or]

theorem touchesAny_foldl_merge (set : ChangeSet) (sets : List ChangeSet) (tables : List String) :
    (sets.foldl merge set).touchesAny tables =
      (set.touchesAny tables || sets.any (·.touchesAny tables)) := by
  induction sets generalizing set with
  | nil => simp
  | cons later sets ih =>
    rw [List.foldl_cons, ih, touchesAny_merge, List.any_cons, Bool.or_assoc]

end SqlWeave.ChangeSet

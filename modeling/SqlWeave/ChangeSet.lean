/-!
# Change sets

The tables written during one unit of work, each once, in the order of the first write. Caches
compare the set with the tables that a cached read depends on.
-/
namespace SqlWeave

/-- Distinct table names in the order of their first insertion. -/
structure ChangeSet where
  tables : List String
  nodup : tables.Nodup
deriving DecidableEq

namespace ChangeSet

def empty : ChangeSet := ⟨[], List.nodup_nil⟩

instance : Inhabited ChangeSet := ⟨empty⟩

def contains (set : ChangeSet) (table : String) : Bool := set.tables.contains table

/-- Records a write; a table that is already there keeps its place. -/
def insert (set : ChangeSet) (table : String) : ChangeSet :=
  if known : table ∈ set.tables then set
  else ⟨set.tables ++ [table], by
    rw [List.nodup_append]
    refine ⟨set.nodup, List.pairwise_singleton _ _, ?_⟩
    intro a member b isTable same
    rw [List.mem_singleton] at isTable
    exact known (isTable ▸ same ▸ member)⟩

def insertAll (set : ChangeSet) (tables : List String) : ChangeSet := tables.foldl insert set

/-- Adds the tables of a later unit of work. -/
def merge (set later : ChangeSet) : ChangeSet := set.insertAll later.tables

def ofList (tables : List String) : ChangeSet := empty.insertAll tables

def size (set : ChangeSet) : Nat := set.tables.length

def isEmpty (set : ChangeSet) : Bool := set.tables.isEmpty

def touchesAny (set : ChangeSet) (tables : List String) : Bool := tables.any set.contains

/-- The same tables, in whatever order. -/
def sameTables (set other : ChangeSet) : Bool :=
  set.size = other.size && set.tables.all other.contains

@[simp] theorem tables_empty : empty.tables = [] := rfl

theorem tables_insert (set : ChangeSet) (table : String) :
    (set.insert table).tables =
      if table ∈ set.tables then set.tables else set.tables ++ [table] := by
  unfold insert
  split <;> rfl

theorem mem_insert {set : ChangeSet} {table other : String} :
    other ∈ (set.insert table).tables ↔ other ∈ set.tables ∨ other = table := by
  rw [tables_insert]
  split
  · next known => exact ⟨.inl, fun either => either.elim id fun same => same ▸ known⟩
  · simp

end ChangeSet

end SqlWeave

import Mathlib.Data.String.Basic
import SqlWeave.Json.Reader

/-!
# Fields in order

The fields of an object are kept in the order of their names. Setting fields one after another keeps
that order whatever theirs is, so it holds of every document that is read (`isOrdered_of_read?`).
-/
namespace SqlWeave.Json

/-! ### Documents and their parts -/

mutual

/-- Every document in the document has the property, and so has the document itself. -/
def All (holds : Json → Prop) : Json → Prop
  | .null => holds .null
  | .bool b => holds (.bool b)
  | .number n => holds (.number n)
  | .string s => holds (.string s)
  | .array items => holds (.array items) ∧ AllItems holds items
  | .object fields => holds (.object fields) ∧ AllFields holds fields

def AllItems (holds : Json → Prop) : List Json → Prop
  | [] => True
  | item :: items => All holds item ∧ AllItems holds items

def AllFields (holds : Json → Prop) : List (String × Json) → Prop
  | [] => True
  | (_, value) :: fields => All holds value ∧ AllFields holds fields

end

/-- If it is an object, the names of its fields ascend. -/
def NamesAscend (document : Json) : Prop :=
  ∀ fields, document = .object fields → (fields.map Prod.fst).Pairwise (· < ·)

/-- The fields of all objects are in the order of their names. -/
def IsOrdered : Json → Prop := All NamesAscend

/-! ### Setting fields -/

theorem insertField_of_lt {name : String} {value : Json} {fields : List (String × Json)}
    (behind : ∀ other ∈ fields.map Prod.fst, other < name) :
    insertField name value fields = fields ++ [(name, value)] := by
  induction fields with
  | nil => rfl
  | cons field fields ih =>
    obtain ⟨first, others⟩ := List.forall_mem_cons.mp behind
    rw [insertField, if_neg (ne_of_gt first), if_neg (not_lt_of_gt first), ih others,
      List.cons_append]

theorem foldl_insertField {known fields : List (String × Json)}
    (ordered : ((known ++ fields).map Prod.fst).Pairwise (· < ·)) :
    fields.foldl (fun known field => insertField field.1 field.2 known) known =
      known ++ fields := by
  induction fields generalizing known with
  | nil => simp
  | cons field fields ih =>
    obtain ⟨name, value⟩ := field
    have behind : ∀ other ∈ known.map Prod.fst, other < name := by
      rw [List.map_append, List.pairwise_append] at ordered
      exact fun other member => ordered.2.2 other member name (by simp)
    rw [List.foldl_cons, insertField_of_lt behind, ih (by simpa using ordered),
      List.append_assoc, List.singleton_append]

theorem ofFields_of_ordered {fields : List (String × Json)}
    (ordered : (fields.map Prod.fst).Pairwise (· < ·)) : ofFields fields = .object fields := by
  rw [ofFields, foldl_insertField (by simpa using ordered), List.nil_append]

theorem fst_mem_insertField {name other : String} {value : Json} {fields : List (String × Json)}
    (member : other ∈ (insertField name value fields).map Prod.fst) :
    other = name ∨ other ∈ fields.map Prod.fst := by
  induction fields with
  | nil => exact .inl (by simpa [insertField] using member)
  | cons field fields ih =>
    unfold insertField at member
    split at member
    next same =>
      rcases List.mem_cons.mp member with rfl | later
      · exact .inl rfl
      · exact .inr (List.mem_cons_of_mem _ later)
    next =>
      split at member
      next => exact List.mem_cons.mp member
      next =>
        rcases List.mem_cons.mp member with rfl | later
        · exact .inr List.mem_cons_self
        · exact (ih later).imp_right (List.mem_cons_of_mem _)

theorem pairwise_insertField {name : String} {value : Json} {fields : List (String × Json)}
    (ordered : (fields.map Prod.fst).Pairwise (· < ·)) :
    ((insertField name value fields).map Prod.fst).Pairwise (· < ·) := by
  induction fields with
  | nil => exact List.pairwise_singleton _ _
  | cons field fields ih =>
    obtain ⟨first, others⟩ := List.pairwise_cons.mp ordered
    unfold insertField
    split
    next same => exact List.pairwise_cons.mpr ⟨same ▸ first, others⟩
    next different =>
      split
      next before =>
        refine List.pairwise_cons.mpr ⟨fun other member => ?_, ordered⟩
        rcases List.mem_cons.mp member with rfl | later
        · exact before
        · exact lt_trans before (first other later)
      next notBefore =>
        refine List.pairwise_cons.mpr ⟨fun other member => ?_, ih others⟩
        -- Whatever is behind the first field, the new one included, is greater than it.
        rcases fst_mem_insertField member with rfl | later
        · exact lt_of_le_of_ne (not_lt.mp notBefore) (Ne.symm different)
        · exact first other later

theorem allFields_insertField {holds : Json → Prop} {name : String} {value : Json}
    {fields : List (String × Json)} (here : All holds value) (others : AllFields holds fields) :
    AllFields holds (insertField name value fields) := by
  induction fields with
  | nil => exact ⟨here, trivial⟩
  | cons field fields ih =>
    unfold insertField
    split
    next => exact ⟨here, others.2⟩
    next =>
      split
      next => exact ⟨here, others⟩
      next => exact ⟨others.1, ih others.2⟩

/-- Whatever the order in which fields are set, and however often, they end up in order. -/
theorem isOrdered_ofFields {fields : List (String × Json)} (values : AllFields NamesAscend fields) :
    (ofFields fields).IsOrdered := by
  have step (known : List (String × Json)) (ordered : (known.map Prod.fst).Pairwise (· < ·))
      (all : AllFields NamesAscend known) : IsOrdered (.object
        (fields.foldl (fun known field => insertField field.1 field.2 known) known)) := by
    induction fields generalizing known with
    | nil => exact ⟨fun _ same => by cases same; exact ordered, all⟩
    | cons field fields ih =>
      exact ih values.2 _ (pairwise_insertField ordered) (allFields_insertField values.1 all)
  exact step [] List.Pairwise.nil trivial

/-! ### Documents that are read -/

mutual

theorem isOrdered_of_ofTree? {tree : Tree} {depth : Nat} {document : Json}
    (value : ofTree? depth tree = some document) : document.IsOrdered := by
  match tree with
  | .null | .bool b =>
    cases value
    exact nofun
  | .number l =>
    obtain ⟨n, -, rfl⟩ := Option.map_eq_some_iff.mp value
    exact nofun
  | .string s =>
    obtain ⟨text, -, rfl⟩ := Option.map_eq_some_iff.mp value
    exact nofun
  | .array trees =>
    match depth with
    | depth + 1 =>
      obtain ⟨items, values, rfl⟩ := Option.map_eq_some_iff.mp value
      exact ⟨nofun, allItems_of_ofItems? values⟩
  | .object trees =>
    match depth with
    | depth + 1 =>
      obtain ⟨fields, values, rfl⟩ := Option.map_eq_some_iff.mp value
      exact isOrdered_ofFields (allFields_of_ofTreeFields? values)

theorem allItems_of_ofItems? {trees : List Tree} {depth : Nat} {items : List Json}
    (value : ofItems? depth trees = some items) : AllItems NamesAscend items := by
  match trees with
  | [] =>
    cases value
    trivial
  | tree :: trees =>
    obtain ⟨item, first, value⟩ := Option.bind_eq_some_iff.mp value
    obtain ⟨items, others, value⟩ := Option.bind_eq_some_iff.mp value
    cases value
    exact ⟨isOrdered_of_ofTree? first, allItems_of_ofItems? others⟩

theorem allFields_of_ofTreeFields? {trees : List (Option String × Tree)} {depth : Nat}
    {fields : List (String × Json)} (value : ofTreeFields? depth trees = some fields) :
    AllFields NamesAscend fields := by
  match trees with
  | [] =>
    cases value
    trivial
  | (name, tree) :: trees =>
    obtain ⟨name, -, value⟩ := Option.bind_eq_some_iff.mp value
    obtain ⟨document, first, value⟩ := Option.bind_eq_some_iff.mp value
    obtain ⟨fields, others, value⟩ := Option.bind_eq_some_iff.mp value
    cases value
    exact ⟨isOrdered_of_ofTree? first, allFields_of_ofTreeFields? others⟩

end

/-- What is read has its fields in order, whatever their order in the text. -/
theorem isOrdered_of_read? {text : String} {document : Json}
    (read : Json.read? text = some document) : document.IsOrdered := by
  obtain ⟨tree, -, value⟩ := Option.bind_eq_some_iff.mp read
  exact isOrdered_of_ofTree? value

end SqlWeave.Json

import SqlWeave.Template

/-!
# Templates one after another

In a well-formed template segments and values take turns, with a segment at both ends. Two templates
are put one after the other by gluing the ends that meet, and one template is spliced into another
in the place of a value: the last segment before it is continued by the first one inside, and the
last one inside by the next one outside.
-/
namespace SqlWeave.Template

/-- Segments and values take turns. -/
inductive Alternates : Template → Prop
  | last (segment : String) : Alternates ⟨[segment], []⟩
  | cons (segment : String) (v : Value) {t : Template} :
      Alternates t → Alternates ⟨segment :: t.segments, v :: t.values⟩

/-- Segments and further segments; the two that meet become one. -/
def glue : List String → List String → List String
  | [], others => others
  | [segment], [] => [segment]
  | [segment], other :: others => (segment ++ other) :: others
  | segment :: next :: segments, others => segment :: glue (next :: segments) others

/-- One template after another. -/
instance : Append Template where
  append t u := ⟨glue t.segments u.segments, t.values ++ u.values⟩

/-- The template up to its value number `i`, counted from zero. -/
def before (t : Template) (i : Nat) : Template := ⟨t.segments.take (i + 1), t.values.take i⟩

/-- The template from the segment behind its value number `i` on. -/
def after (t : Template) (i : Nat) : Template :=
  ⟨t.segments.drop (i + 1), t.values.drop (i + 1)⟩

/-- The template with another one in the place of its value number `i`. -/
def splice (t : Template) (i : Nat) (inner : Template) : Template :=
  t.before i ++ inner ++ t.after i

example (a b c d x y : String) (v w inner : Value) :
    (⟨[a, b, c, d], [v, w, v]⟩ : Template).splice 1 ⟨[x, y], [inner]⟩ =
      ⟨[a, b ++ x, y ++ c, d], [v, inner, v]⟩ := rfl

example (a b c x : String) (v w : Value) :
    (⟨[a, b, c], [v, w]⟩ : Template).splice 1 ⟨[x], []⟩ = ⟨[a, b ++ x ++ c], [v]⟩ := rfl

variable {t u : Template}

theorem alternates_iff : t.Alternates ↔ t.isWellFormed = true := by
  rw [isWellFormed, decide_eq_true_eq]
  constructor
  · intro alternates
    induction alternates with
    | last => rfl
    | cons _ _ _ ih => simpa using ih
  · obtain ⟨segments, values⟩ := t
    intro count
    induction values generalizing segments with
    | nil =>
      obtain ⟨segment, rfl⟩ := List.length_eq_one_iff.mp count
      exact .last segment
    | cons v values ih =>
      cases segments with
      | nil => cases count
      | cons segment segments => exact .cons segment v (ih segments (Nat.succ.inj count))

theorem Alternates.length_segments (alternates : t.Alternates) :
    t.segments.length = t.values.length + 1 := by
  simpa [isWellFormed] using alternates_iff.mp alternates

theorem alternates_of_length (count : t.segments.length = t.values.length + 1) : t.Alternates :=
  alternates_iff.mpr (decide_eq_true count)

theorem Alternates.segments_ne_nil (alternates : t.Alternates) : t.segments ≠ [] := by
  cases alternates <;> exact List.cons_ne_nil _ _

/-! ### Gluing -/

@[simp] theorem values_append (t u : Template) : (t ++ u).values = t.values ++ u.values := rfl

theorem cons_append (segment : String) (v : Value) (more : t.segments ≠ []) (u : Template) :
    (⟨segment :: t.segments, v :: t.values⟩ : Template) ++ u =
      ⟨segment :: (t ++ u).segments, v :: (t ++ u).values⟩ := by
  obtain ⟨segments, values⟩ := t
  cases segments with
  | nil => exact absurd rfl more
  | cons => rfl

theorem Alternates.append (first : t.Alternates) (second : u.Alternates) :
    (t ++ u).Alternates := by
  induction first with
  | last segment =>
    cases second with
    | last other => exact .last (segment ++ other)
    | cons other v rest => exact .cons (segment ++ other) v rest
  | cons segment v alternates ih =>
    rw [cons_append segment v alternates.segments_ne_nil]
    exact .cons segment v ih

/-! ### Taking apart -/

theorem Alternates.before (alternates : t.Alternates) (i : Nat) : (t.before i).Alternates := by
  apply alternates_of_length
  have count := alternates.length_segments
  simp only [Template.before, List.length_take]
  omega

theorem Alternates.after (alternates : t.Alternates) {i : Nat} (inside : i < t.values.length) :
    (t.after i).Alternates := by
  apply alternates_of_length
  have count := alternates.length_segments
  simp only [Template.after, List.length_drop]
  omega

theorem Alternates.splice (alternates : t.Alternates) {i : Nat} (inside : i < t.values.length)
    (inner : u.Alternates) : (t.splice i u).Alternates :=
  ((alternates.before i).append inner).append (alternates.after inside)

theorem mem_values_splice {i : Nat} {v : Value} (member : v ∈ (t.splice i u).values) :
    v ∈ t.values ∨ v ∈ u.values := by
  simp only [splice, values_append, List.mem_append] at member
  rcases member with (front | inside) | back
  · exact .inl (List.mem_of_mem_take front)
  · exact .inr inside
  · exact .inl (List.mem_of_mem_drop back)

end SqlWeave.Template

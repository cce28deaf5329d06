import BeanGen.TypeText.Outline

/-!
# The names of a type expression

What relabels or writes a type expression does so name by name: it asks for the names at the leaves of
the outlines and looks at nothing else in the expression (`TypeText.names`).
-/

namespace BeanGen.TypeText

open Text

/-- An expression whose outline is a name is this name. -/
theorem eq_of_outline_eq_simple {cs name : List Char} (h : outline cs = .simple name) :
    name = cs := by
  unfold outline at h
  split at h
  · cases h
  split at h
  · cases h
  · cases h
    rfl

/-- The names in a type expression: those behind which type arguments stand, and the innermost ones. -/
def names (type : List Char) : List (List Char) :=
  if allBlank type then []
  else
    match _h : outline (trim type) with
    | .applied name args => name :: args.attach.flatMap fun arg => names arg.1
    | .array element => names element
    | .simple name => [name]
termination_by type.length
decreasing_by
  all_goals refine Nat.lt_of_lt_of_le (length_lt_of_mem_parts_outline ?_) (length_trim_le type)
  · rw [_h]
    exact arg.2
  · simp [_h, Outline.parts]

section
variable {type name : List Char}

/-- The parts of an expression are shorter than the expression with the white space around it. -/
theorem length_lt_of_mem_parts {part : List Char} (h : part ∈ (outline (trim type)).parts) :
    part.length < type.length :=
  Nat.lt_of_lt_of_le (length_lt_of_mem_parts_outline h) (length_trim_le type)

/-- A blank expression names nothing. -/
theorem names_of_allBlank (h : allBlank type = true) : names type = [] := by
  rw [names, if_pos h]

/-- Behind a name with type arguments the names of the arguments follow. -/
theorem names_of_applied {args : List (List Char)} (hblank : allBlank type = false)
    (h : outline (trim type) = .applied name args) : names type = name :: args.flatMap names := by
  rw [names, if_neg (by rw [hblank]; exact Bool.false_ne_true)]
  split
  · next houtline =>
    rw [h] at houtline
    cases houtline
    rw [← List.flatMap_map Subtype.val names, List.attach_map_subtype_val]
  · next houtline => rw [h] at houtline; cases houtline
  · next houtline => rw [h] at houtline; cases houtline

/-- An array has the names of its element. -/
theorem names_of_array {element : List Char} (hblank : allBlank type = false)
    (h : outline (trim type) = .array element) : names type = names element := by
  rw [names, if_neg (by rw [hblank]; exact Bool.false_ne_true)]
  split
  · next houtline => rw [h] at houtline; cases houtline
  · next houtline =>
    rw [h] at houtline
    cases houtline
    rfl
  · next houtline => rw [h] at houtline; cases houtline

/-- Anything else is one name. -/
theorem names_of_simple (hblank : allBlank type = false)
    (h : outline (trim type) = .simple name) : names type = [name] := by
  rw [names, if_neg (by rw [hblank]; exact Bool.false_ne_true)]
  split
  · next houtline => rw [h] at houtline; cases houtline
  · next houtline => rw [h] at houtline; cases houtline
  · next houtline =>
    rw [h] at houtline
    cases houtline
    rfl

/-- The names of a part are names of the expression. -/
theorem mem_names_of_mem_parts {part : List Char} (hblank : allBlank type = false)
    (hpart : part ∈ (outline (trim type)).parts) (hname : name ∈ names part) : name ∈ names type := by
  cases houtline : outline (trim type) with
  | applied label args =>
    rw [houtline] at hpart
    rw [names_of_applied hblank houtline]
    exact List.mem_cons_of_mem _ (List.mem_flatMap.2 ⟨part, hpart, hname⟩)
  | array element =>
    rw [houtline] at hpart
    rw [names_of_array hblank houtline, ← List.mem_singleton.1 hpart]
    exact hname
  | simple label =>
    rw [houtline] at hpart
    cases hpart

end

end BeanGen.TypeText

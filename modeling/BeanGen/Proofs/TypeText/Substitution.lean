import BeanGen.Proofs.Text.Blank
import BeanGen.Proofs.TypeText.Names
import BeanGen.TypeText.Substitution

/-!
# What a substitution puts in place of a type

A substitution yields only what differs from the type (`ne_of_substitute?`). For a type expression that
is a name it is the trimmed entry of this name (`substitute?_of_outline`). For any expression it is what
stands there when every name is replaced and the whole is printed anew (`relabeled`, `substituteText?_eq`).
-/

namespace BeanGen.TypeText

open Text Config

section
variable {table : Table} {type new : String}

/-- What replaces a name is what the table has for it. -/
theorem exists_of_replacement? {name new : List Char} (h : replacement? table name = some new) :
    ∃ value, table.get? (String.ofList name) = some value ∧ nonBlank? value = some (String.ofList new) := by
  unfold replacement? at h
  split at h
  · cases h
  · obtain ⟨text, htext, rfl⟩ := Option.map_eq_some_iff.1 h
    rw [String.ofList_toList]
    exact Option.bind_eq_some_iff.1 htext

/-- What replaces a name has no white space around it. -/
theorem trim_of_replacement? {name new : List Char} (h : replacement? table name = some new) :
    trim new = new := by
  obtain ⟨value, -, hvalue⟩ := exists_of_replacement? h
  have htrimmed := congrArg String.toList (trimmed_of_nonBlank? hvalue)
  rwa [trimmed, String.toList_ofList, String.toList_ofList] at htrimmed

/-- A substitution that changes nothing yields nothing. -/
theorem ne_of_substitute? (h : substitute? table (some type) = some new) : new ≠ type := by
  rw [substitute?, Option.bind_some, Option.map_eq_some_iff] at h
  obtain ⟨cs, hcs, rfl⟩ := h
  rw [substituteText?] at hcs
  split at hcs
  · cases hcs
  · have hchanged := (Option.filter_eq_some_iff.1 hcs).2
    rw [bne_iff_ne] at hchanged
    rintro rfl
    exact hchanged String.toList_ofList.symm

/-- A name is replaced by what the table has for it. -/
theorem substitute?_of_outline (hname : outline (trim type.toList) = .simple (trim type.toList))
    (h : substitute? table (some type) = some new) :
    (table.get? (trimmed type)).bind nonBlank? = some new := by
  rw [substitute?, Option.bind_some, Option.map_eq_some_iff] at h
  obtain ⟨cs, hcs, rfl⟩ := h
  rw [substituteText?] at hcs
  split at hcs
  · cases hcs
  · have hreplaced := (Option.filter_eq_some_iff.1 hcs).1
    split at hreplaced
    · next houtline => rw [hname] at houtline; cases houtline
    · next houtline => rw [hname] at houtline; cases houtline
    · next houtline =>
      rw [hname] at houtline
      cases houtline
      exact Option.bind_eq_some_iff.2 (exists_of_replacement? hreplaced)

end

/-! ## Relabelled expressions -/

/-- A type expression with its names replaced and printed anew. A name on its own stays, with the white space
around it, if it is not replaced. -/
def relabeled (replace : List Char → Option (List Char)) (type : List Char) : List Char :=
  if allBlank type then type
  else
    match _h : outline (trim type) with
    | .applied name args =>
      (replace name).getD name ++ '<' ::
        ", ".toList.intercalate (args.attach.map fun arg => relabeled replace arg.1) ++ ['>']
    | .array element => relabeled replace element ++ ['[', ']']
    | .simple name => (replace name).getD type
termination_by type.length
decreasing_by
  all_goals refine Nat.lt_of_lt_of_le (length_lt_of_mem_parts_outline ?_) (length_trim_le type)
  · rw [_h]
    exact arg.2
  · simp [_h, Outline.parts]

section
variable {replace : List Char → Option (List Char)} {table : Table} {type name : List Char}

/-- A blank expression stays. -/
theorem relabeled_of_allBlank (h : allBlank type = true) : relabeled replace type = type := by
  rw [relabeled, if_pos h]

/-- Type arguments are relabelled behind the name, each on its own. -/
theorem relabeled_of_applied {args : List (List Char)} (hblank : allBlank type = false)
    (h : outline (trim type) = .applied name args) :
    relabeled replace type = (replace name).getD name ++ '<' ::
      ", ".toList.intercalate (args.map (relabeled replace)) ++ ['>'] := by
  rw [relabeled, if_neg (by rw [hblank]; exact Bool.false_ne_true)]
  split
  · next houtline =>
    rw [h] at houtline
    cases houtline
    rw [List.attach_map_val]
  · next houtline => rw [h] at houtline; cases houtline
  · next houtline => rw [h] at houtline; cases houtline

/-- An array is relabelled in its element. -/
theorem relabeled_of_array {element : List Char} (hblank : allBlank type = false)
    (h : outline (trim type) = .array element) :
    relabeled replace type = relabeled replace element ++ ['[', ']'] := by
  rw [relabeled, if_neg (by rw [hblank]; exact Bool.false_ne_true)]
  split
  · next houtline => rw [h] at houtline; cases houtline
  · next houtline =>
    rw [h] at houtline
    cases houtline
    rfl
  · next houtline => rw [h] at houtline; cases houtline

/-- A name on its own is replaced, or stays as it is. -/
theorem relabeled_of_simple (hblank : allBlank type = false) (h : outline (trim type) = .simple name) :
    relabeled replace type = (replace name).getD type := by
  rw [relabeled, if_neg (by rw [hblank]; exact Bool.false_ne_true)]
  split
  · next houtline => rw [h] at houtline; cases houtline
  · next houtline => rw [h] at houtline; cases houtline
  · next houtline =>
    rw [h] at houtline
    cases houtline
    rfl

/-- What replaces the names of an expression alike relabels it alike. -/
theorem relabeled_congr {other : List Char → Option (List Char)} (type : List Char)
    (h : ∀ name ∈ names type, replace name = other name) : relabeled replace type = relabeled other type := by
  cases hblank : allBlank type with
  | true => rw [relabeled_of_allBlank hblank, relabeled_of_allBlank hblank]
  | false =>
    cases houtline : outline (trim type) with
    | applied name args =>
      rw [names_of_applied hblank houtline] at h
      have hargs : args.map (relabeled replace) = args.map (relabeled other) := by
        refine List.map_congr_left fun arg harg => ?_
        have hlength : arg.length < type.length := length_lt_of_mem_parts (by rw [houtline]; exact harg)
        exact relabeled_congr arg fun name hname =>
          h name (List.mem_cons_of_mem _ (List.mem_flatMap.2 ⟨arg, harg, hname⟩))
      rw [relabeled_of_applied hblank houtline, relabeled_of_applied hblank houtline, hargs,
        h name List.mem_cons_self]
    | array element =>
      rw [names_of_array hblank houtline] at h
      have hlength : element.length < type.length :=
        length_lt_of_mem_parts (by rw [houtline]; exact List.mem_singleton_self _)
      rw [relabeled_of_array hblank houtline, relabeled_of_array hblank houtline, relabeled_congr element h]
    | simple name =>
      rw [names_of_simple hblank houtline] at h
      rw [relabeled_of_simple hblank houtline, relabeled_of_simple hblank houtline,
        h name (List.mem_singleton_self _)]
termination_by type.length

/-- A substitution relabels an expression by its table, and yields the result if that is another one. -/
theorem substituteText?_eq (htable : table.isEmpty = false) (type : List Char) :
    substituteText? table type =
      if relabeled (replacement? table) type = type then none
      else some (relabeled (replacement? table) type) := by
  have hparts : ∀ part ∈ (outline (trim type)).parts,
      (substituteText? table part).getD part = relabeled (replacement? table) part := by
    intro part hpart
    have hlength : part.length < type.length := length_lt_of_mem_parts hpart
    rw [substituteText?_eq htable part]
    split
    · next hsame => rw [hsame, Option.getD_none]
    · rfl
  have hfilter : ∀ new : List Char,
      (some new).filter (· != type) = if new = type then none else some new := by
    intro new
    rw [Option.filter_some]
    by_cases hsame : new = type <;> simp [hsame]
  cases hblank : allBlank type with
  | true =>
    rw [substituteText?, hblank, relabeled_of_allBlank hblank]
    simp
  | false =>
    rw [substituteText?, hblank, htable, if_neg (by simp)]
    dsimp only
    split
    · next name args houtline =>
      have hargs : (args.attach.map fun arg => (substituteText? table arg.1).getD arg.1) =
          args.map (relabeled (replacement? table)) := by
        rw [houtline] at hparts
        exact (List.attach_map_val (f := fun arg => (substituteText? table arg).getD arg)).trans
          (List.map_congr_left hparts)
      rw [hargs, relabeled_of_applied hblank houtline]
      exact hfilter _
    · next element houtline =>
      rw [houtline] at hparts
      rw [hparts element (List.mem_singleton_self _), relabeled_of_array hblank houtline]
      exact hfilter _
    · next name houtline =>
      rw [relabeled_of_simple hblank houtline]
      cases hnew : replacement? table name with
      | none => simp
      | some new => exact hfilter new
termination_by type.length

end

end BeanGen.TypeText

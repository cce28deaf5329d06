import BeanGen.Proofs.Text.Squeeze
import BeanGen.Proofs.TypeText.Expressions
import BeanGen.Proofs.TypeText.Kept

/-!
# The layout of printed types

Mapped types are printed with names, angle brackets, and commas with a space behind them, and begin with a
name. So the text of a printed type is balanced (`IsCanonical.isBalanced_print`), it stands as one argument
among others (`IsCanonical.isArgument_print`), and bringing it into normal form changes nothing
(`IsCanonical.normalize_print`). Name and arguments of a generic type are found again in its text
(`IsCanonical.generic?_print`).
-/

namespace BeanGen

open Java Text

/-! ## Characters of qualified names -/

namespace TypeText

/-- A character that may begin a name is part of one. -/
theorem isWordPart_of_isNameStart {c : Char} (h : isNameStart c = true) : isWordPart c = true := by
  simp only [isNameStart, Bool.or_eq_true] at h
  simp only [isWordPart, isWordChar, Bool.or_eq_true]
  tauto

/-- Parts of names open and close nothing. -/
theorem isStructural_of_isWordPart {c : Char} (h : isWordPart c = true) : isStructural c = false :=
  isStructural_eq_false h (by decide)

/-- Parts of names are no white space. -/
theorem isBlank_of_isWordPart {c : Char} (h : isWordPart c = true) : isBlank c = false := by
  rw [← Bool.not_eq_true]
  intro hblank
  rw [isWordPart_of_isBlank hblank] at h
  cases h

section
variable {name : List Char} (h : isQualifiedName name = true)
include h

theorem notMem_of_isQualifiedName {c : Char} (hc : isWordPart c = false) : c ∉ name := by
  intro hmem
  rw [isWordPart_of_isQualifiedName h hmem] at hc
  cases hc

/-- A qualified name has no marks in it. -/
theorem isUnmarked_of_isQualifiedName : IsUnmarked name :=
  fun _ hc => isMark_eq_false (isWordPart_of_isQualifiedName h hc) (by decide)

/-- A qualified name is balanced text. -/
theorem isBalanced_of_isQualifiedName : IsBalanced name :=
  (isUnmarked_of_isQualifiedName h).isBalanced

/-- There is no white space in a qualified name. -/
theorem isBlank_of_mem_qualifiedName {c : Char} (hc : c ∈ name) : isBlank c = false :=
  isBlank_of_isWordPart (isWordPart_of_isQualifiedName h hc)

end

end TypeText

namespace Java.TypeExpr

open TypeText

/-! ## Characters of printed types -/

/-- A character of printed types. -/
def isPrintedPart (c : Char) : Bool :=
  isWordPart c || ['<', '>', ',', ' '].contains c

/-- The name that the text of a type begins with. -/
def head : TypeExpr → String
  | prim p => p.keyword
  | named name => name
  | applied name _ => name

namespace IsCanonical

section
variable {type : TypeExpr} {name : String} {args : List TypeExpr}

/-- A canonical type begins with a qualified name. -/
theorem isQualifiedName_head (h : type.IsCanonical) : isQualifiedName type.head.toList = true := by
  cases h with
  | prim p => cases p <;> rfl
  | named hname _ => exact hname.qualified
  | applied hname _ _ => exact hname

/-- What stands behind the name that a type begins with are its arguments, if anything. -/
theorem exists_print (h : type.IsCanonical) :
    ∃ rest, type.print.toList = type.head.toList ++ rest ∧ ∀ c ∈ rest.head?, c = '<' := by
  cases h with
  | prim p => exact ⟨[], by rw [print, head, List.append_nil], by simp⟩
  | named _ _ => exact ⟨[], by rw [print, head, List.append_nil], by simp⟩
  | @applied name args _ _ _ =>
    refine ⟨_, by rw [toList_print_applied, List.append_assoc, head], ?_⟩
    rintro c ⟨⟩
    rfl

/-- A printed type begins with a character that may begin a name. -/
theorem exists_print_eq_cons (h : type.IsCanonical) :
    ∃ c cs, type.print.toList = c :: cs ∧ isNameStart c = true := by
  obtain ⟨rest, hprint, -⟩ := h.exists_print
  obtain ⟨c, cs, hname, hc⟩ := exists_of_isQualifiedName h.isQualifiedName_head
  exact ⟨c, cs ++ rest, by rw [hprint, hname, List.cons_append], hc⟩

/-- Printed types consist of parts of names and the marks for arguments. -/
theorem isPrintedPart_of_mem (h : type.IsCanonical) : ∀ c ∈ type.print.toList, isPrintedPart c = true := by
  have hqualified : ∀ name : String, isQualifiedName name.toList = true →
      ∀ c ∈ name.toList, isPrintedPart c = true := by
    intro name hname c hc
    rw [isPrintedPart, isWordPart_of_isQualifiedName hname hc, Bool.true_or]
  induction h with
  | prim p =>
    rw [print]
    exact hqualified _ (by cases p <;> rfl)
  | named hname _ =>
    rw [print]
    exact hqualified _ hname.qualified
  | @applied name args hname hargs hboxed ih =>
    intro c hc
    rw [toList_print_applied, List.mem_append, List.mem_append, List.mem_cons, List.mem_singleton] at hc
    rcases hc with (hc | rfl | hc) | rfl
    · exact hqualified name hname c hc
    · rfl
    · rcases of_mem_intercalate hc with hmark | ⟨piece, hpiece, hc⟩
      · have hmarks : [',', ' '].all isPrintedPart = true := rfl
        exact List.all_eq_true.1 hmarks c hmark
      · obtain ⟨arg, harg, rfl⟩ := List.mem_map.1 hpiece
        exact ih arg harg c hc
    · rfl

/-- Other characters do not occur in printed types. -/
theorem notMem_print (h : type.IsCanonical) {c : Char} (hc : isPrintedPart c = false) :
    c ∉ type.print.toList := by
  intro hmem
  rw [h.isPrintedPart_of_mem c hmem] at hc
  cases hc

/-- A printed type neither begins nor ends with white space. -/
theorem trim_print (h : type.IsCanonical) : trim type.print.toList = type.print.toList := by
  refine trim_of_ends (fun c hc => ?_) fun c hc => ?_
  · obtain ⟨first, cs, hprint, hfirst⟩ := h.exists_print_eq_cons
    obtain rfl : first = c := by simpa [hprint] using hc
    exact isBlank_of_isWordPart (isWordPart_of_isNameStart hfirst)
  · cases h with
    | prim p =>
      rw [print] at hc
      have hqualified : isQualifiedName p.keyword.toList = true := by cases p <;> rfl
      exact isBlank_of_mem_qualifiedName hqualified (List.mem_of_getLast? hc)
    | named hname _ =>
      rw [print] at hc
      exact isBlank_of_mem_qualifiedName hname.qualified (List.mem_of_getLast? hc)
    | applied _ _ _ =>
      rw [toList_print_applied, List.getLast?_concat] at hc
      obtain rfl := Option.some.inj hc
      rfl

/-! ## Printed types as arguments -/

/-- There is no arrow at the end of printed arguments. -/
theorem notMem_arguments (hargs : ∀ arg ∈ args, arg.IsCanonical) :
    '=' ∉ ", ".toList.intercalate (args.map fun arg => arg.print.toList) := by
  intro hmem
  rcases of_mem_intercalate hmem with hmark | ⟨piece, hpiece, hmem⟩
  · exact absurd hmark (by decide)
  · obtain ⟨arg, harg, rfl⟩ := List.mem_map.1 hpiece
    exact (hargs arg harg).notMem_print (by decide) hmem

/-- Balanced arguments are balanced with commas between them. -/
theorem isBalanced_arguments (hargs : ∀ arg ∈ args, arg.IsCanonical)
    (h : ∀ arg ∈ args, IsBalanced arg.print.toList) :
    IsBalanced (", ".toList.intercalate (args.map fun arg => arg.print.toList)) := by
  refine isBalanced_intercalate (fun piece hpiece => ?_) fun piece hpiece => ?_
  · obtain ⟨arg, harg, rfl⟩ := List.mem_map.1 hpiece
    exact h arg harg
  · obtain ⟨arg, harg, rfl⟩ := List.mem_map.1 hpiece
    exact (hargs arg harg).notMem_print (by decide)

/-- The text of a printed type is balanced. -/
theorem isBalanced_print (h : type.IsCanonical) : IsBalanced type.print.toList := by
  induction h with
  | prim p =>
    rw [print]
    exact isBalanced_of_isQualifiedName (by cases p <;> rfl)
  | named hname _ =>
    rw [print]
    exact isBalanced_of_isQualifiedName hname.qualified
  | @applied name args hname hargs hboxed ih =>
    have hseam : JoinsNoArrow _ ['>'] := joinsNoArrow_of_notMem (notMem_arguments hargs)
    rw [toList_print_applied, List.append_assoc]
    exact (isBalanced_of_isQualifiedName hname).append
      ((isBalanced_arguments hargs ih).bracket (by decide) (by decide) hseam)
      (joinsNoArrow_of_notMem (notMem_of_isQualifiedName hname (by decide)))

/-- A printed type is one argument: the commas in it stand in its brackets. -/
theorem isArgument_print (h : type.IsCanonical) : IsArgument type.print.toList := by
  refine ⟨h.isBalanced_print, ?_, h.trim_print⟩
  cases h with
  | prim p =>
    rw [print]
    exact splitTop_of_notMem (by cases p <;> decide)
  | named hname _ =>
    rw [print]
    exact splitTop_of_notMem (notMem_of_isQualifiedName hname.qualified (by decide))
  | @applied name args hname hargs hboxed =>
    have hinner := isBalanced_arguments hargs fun arg harg => (hargs arg harg).isBalanced_print
    rw [toList_print_applied]
    exact splitTop_angles (isUnmarked_of_isQualifiedName hname) hinner (notMem_arguments hargs)

/-- Name and arguments of a generic type are found again in its text. -/
theorem generic?_print (h : (TypeExpr.applied name args).IsCanonical) :
    generic? (TypeExpr.applied name args).print.toList =
      some (name.toList, args.map fun arg => arg.print.toList) := by
  cases h with
  | applied hname hargs hboxed =>
    have hinner := isBalanced_arguments hargs fun arg harg => (hargs arg harg).isBalanced_print
    have hfound : ((splitTop ',' (", ".toList.intercalate (args.map fun arg => arg.print.toList))).map
        trim).filter (!·.isEmpty) = args.map fun arg => arg.print.toList := by
      cases args with
      | nil => rfl
      | cons first rest =>
        rw [map_trim_splitTop_intercalate (by simp) fun piece hpiece => ?_]
        · refine List.filter_eq_self.2 fun piece hpiece => ?_
          obtain ⟨arg, harg, rfl⟩ := List.mem_map.1 hpiece
          obtain ⟨c, cs, hprint, -⟩ := (hargs arg harg).exists_print_eq_cons
          rw [hprint]
          rfl
        · obtain ⟨arg, harg, rfl⟩ := List.mem_map.1 hpiece
          exact (hargs arg harg).isArgument_print
    rw [toList_print_applied, generic?_angles hname (notMem_of_isQualifiedName hname (by decide))
      (trim_of_forall fun c hc => isBlank_of_mem_qualifiedName hname hc) hinner
      (joinsNoArrow_of_notMem (notMem_arguments hargs)), hfound]

/-! ## Normal form -/

/-- There is no white space in a printed type that squeezing takes away. -/
theorem squeeze_print (h : type.IsCanonical) : squeeze type.print.toList = type.print.toList := by
  have hqualified : ∀ name : String, isQualifiedName name.toList = true →
      squeeze name.toList = name.toList := by
    intro name hname
    have hsqueeze := squeeze_append_of_forall (k := []) fun c hc => isBlank_of_mem_qualifiedName hname hc
    rwa [List.append_nil, squeeze, List.append_nil] at hsqueeze
  induction h with
  | prim p =>
    rw [print]
    exact hqualified _ (by cases p <;> rfl)
  | named hname _ =>
    rw [print]
    exact hqualified _ hname.qualified
  | applied hname hargs _ ih =>
    rw [toList_print_applied, List.append_assoc, List.cons_append, squeeze_append_cons rfl,
      squeeze_append_cons rfl, hqualified _ hname,
      squeeze_intercalate (fun piece hpiece => ?_) fun piece hpiece => ?_]
    · rfl
    · obtain ⟨arg, harg, rfl⟩ := List.mem_map.1 hpiece
      exact ih arg harg
    · obtain ⟨arg, harg, rfl⟩ := List.mem_map.1 hpiece
      obtain ⟨c, cs, hprint, hc⟩ := (hargs arg harg).exists_print_eq_cons
      rw [hprint]
      refine ⟨List.cons_ne_nil _ _, ?_⟩
      rintro d ⟨⟩
      exact isBlank_of_isWordPart (isWordPart_of_isNameStart hc)

/-- A printed type is in normal form. -/
theorem normalize_print (h : type.IsCanonical) : normalize type.print.toList = type.print.toList := by
  obtain ⟨c, cs, hprint, hc⟩ := h.exists_print_eq_cons
  have hbar : ¬ isLeadingBar c = true := by
    rw [isLeadingBar]
    rintro hbar
    simp only [Bool.or_eq_true, beq_iff_eq] at hbar
    rcases hbar with (rfl | rfl) | rfl <;> exact absurd hc (by decide)
  have hparen : ¬ (type.print.toList.head? = some '(' ∧ closesAtEnd type.print.toList = true) := by
    rintro ⟨hhead, -⟩
    exact h.notMem_print (by decide) (List.mem_of_mem_head? hhead)
  rw [TypeText.normalize, collapse, h.squeeze_print, h.trim_print, hprint,
    List.dropWhile_cons_of_neg hbar, ← hprint, unwrapParens, if_neg hparen]

end

end IsCanonical

end Java.TypeExpr

end BeanGen

import BeanGen.Proofs.TypeText.Expressions
import BeanGen.Proofs.TypeText.Substitution

/-!
# Expression trees

A Java type expression is a tree of names, generic types with arguments, and arrays (`Tree`). Its text is a
part that can stand in other expressions (`Tree.isPart_text`), and the outline of the text is the uppermost node
of the tree (`Tree.outline_text_applied`, `Tree.outline_text_array`). So what goes from outline to outline goes
from node to node: relabelling the text is relabelling the tree (`Tree.relabeled_text`).
-/

namespace BeanGen.TypeText

open Text

/-- A type expression: names, generic types with at least one argument, and arrays. -/
inductive Tree (α : Type) where
  | name (name : α)
  | applied (name : α) (first : Tree α) (rest : List (Tree α))
  | array (element : Tree α)

/-- A name in a type expression, such as a qualified name: nothing in it opens or closes anything or separates
arguments, and there is no white space around it. -/
structure TypeName where
  text : String
  nonempty : text ≠ ""
  unmarked : IsUnmarked text.toList
  trimmed : trim text.toList = text.toList

/-- Java names with dots between them are such a name. -/
def TypeName.ofDotted (name : String) (h : Java.isDottedName name = true) : TypeName where
  text := name
  nonempty := Java.ne_empty_of_isDottedName h
  unmarked := by
    intro c hc
    by_cases hdot : c = '.'
    · rw [hdot]
      rfl
    · exact isMark_eq_false (Java.isNamePart_of_isDottedName h hc hdot) (by decide)
  trimmed := Java.trim_of_isDottedName h

/-- What stands for a name when names are replaced. -/
def TypeName.relabeled (replace : List Char → Option (List Char)) (label : TypeName) : String :=
  String.ofList ((replace label.text.toList).getD label.text.toList)

namespace Tree

section
variable {α β : Type}

/-- The tree with its names replaced. -/
def map (f : α → β) : Tree α → Tree β
  | name label => name (f label)
  | applied label first rest => applied (f label) (first.map f) (rest.map fun tree => tree.map f)
  | array element => array (element.map f)

end

/-- The text of an expression, a comma and a space between arguments. -/
def print : Tree String → String
  | name label => label
  | applied label first rest => label ++ "<" ++ ", ".intercalate (first.print :: rest.map print) ++ ">"
  | array element => element.print ++ "[]"

/-- The text of an expression of given names. -/
def text (tree : Tree TypeName) : String :=
  (tree.map TypeName.text).print

example : (applied (.ofDotted "Map" (by decide)) (.array (.name (.ofDotted "Foo" (by decide))))
    [.name (.ofDotted "x.Foo" (by decide))]).text = "Map<Foo[], x.Foo>" := by
  cbv

section
variable {α : Type} (f : α → String) (label : α) (first element : Tree α) (rest : List (Tree α))

theorem print_map_name : ((name label).map f).print = f label := by
  rw [map, print]

theorem toList_print_map_applied : ((applied label first rest).map f).print.toList = (f label).toList ++
    '<' :: ", ".toList.intercalate ((first :: rest).map fun tree => (tree.map f).print.toList) ++ ['>'] := by
  simp [map, print, Function.comp_def]

theorem toList_print_map_array :
    ((array element).map f).print.toList = (element.map f).print.toList ++ ['[', ']'] := by
  simp [map, print]

end

/-- The text of a tree may stand in another expression. -/
theorem isPart_text : ∀ tree : Tree TypeName, IsPart tree.text.toList
  | name label => by
    rw [text, print_map_name]
    exact label.unmarked.isPart label.trimmed
  | applied label first rest => by
    rw [text, toList_print_map_applied]
    refine isPart_angles label.unmarked label.trimmed fun arg harg => ?_
    obtain ⟨tree, htree, rfl⟩ := List.mem_map.1 harg
    exact tree.isPart_text
  | array element => by
    rw [text, toList_print_map_array]
    exact isPart_brackets element.isPart_text

/-- There is something in the text of a tree. -/
theorem nonblank_text : ∀ tree : Tree TypeName, allBlank tree.text.toList = false
  | name label => by
    rw [text, print_map_name]
    cases hblank : allBlank label.text.toList with
    | false => rfl
    | true =>
      have hnil : trim label.text.toList = [] := by
        rw [trim, trimStart_of_allBlank hblank]
        rfl
      rw [label.trimmed, String.toList_eq_nil_iff] at hnil
      exact absurd hnil label.nonempty
  | applied label first rest => by
    rw [text, toList_print_map_applied]
    exact List.all_eq_false.2 ⟨'<', by simp, by decide⟩
  | array element => by
    rw [text, toList_print_map_array]
    exact List.all_eq_false.2 ⟨'[', by simp, by decide⟩

theorem text_ne_empty (tree : Tree TypeName) : tree.text ≠ "" := by
  intro hempty
  have hblank := tree.nonblank_text
  rw [hempty] at hblank
  cases hblank

/-! ## Outlines -/

section
variable (label : TypeName) (first element : Tree TypeName) (rest : List (Tree TypeName))

theorem outline_text_name : outline (trim (name label).text.toList) = .simple label.text.toList := by
  rw [(isPart_text _).trimmed, text, print_map_name]
  exact outline_of_isUnmarked label.unmarked

theorem outline_text_applied : outline (trim (applied label first rest).text.toList) =
    .applied label.text.toList ((first :: rest).map fun tree => tree.text.toList) := by
  rw [(isPart_text _).trimmed, text, toList_print_map_applied]
  refine outline_angles label.unmarked label.trimmed (by simp) fun arg harg => ?_
  obtain ⟨tree, -, rfl⟩ := List.mem_map.1 harg
  exact tree.isPart_text

theorem outline_text_array : outline (trim (array element).text.toList) = .array element.text.toList := by
  rw [(isPart_text _).trimmed, text, toList_print_map_array]
  exact outline_brackets element.isPart_text.trimmed

end

/-- Relabelling the text of a tree is relabelling the tree. -/
theorem relabeled_text (replace : List Char → Option (List Char)) : ∀ tree : Tree TypeName,
    relabeled replace tree.text.toList = (tree.map (·.relabeled replace)).print.toList
  | name label => by
    rw [relabeled_of_simple (nonblank_text _) (outline_text_name label), text, print_map_name, print_map_name,
      TypeName.relabeled, String.toList_ofList]
  | applied label first rest => by
    have hlabel : (label.relabeled replace).toList = (replace label.text.toList).getD label.text.toList :=
      String.toList_ofList
    have hargs : ((first :: rest).map fun tree => relabeled replace tree.text.toList) =
        (first :: rest).map fun tree => (tree.map (·.relabeled replace)).print.toList :=
      List.map_congr_left fun tree _ => tree.relabeled_text replace
    rw [relabeled_of_applied (nonblank_text _) (outline_text_applied label first rest), List.map_map,
      toList_print_map_applied, hlabel, ← hargs]
    rfl
  | array element => by
    rw [relabeled_of_array (nonblank_text _) (outline_text_array element), element.relabeled_text,
      toList_print_map_array]

end Tree

end BeanGen.TypeText

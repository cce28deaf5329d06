import BeanGen.Proofs.Render.Congruence
import BeanGen.Proofs.TypeText.Tree

/-!
# Relabelling expression trees

The configuration replaces the names in a type expression, and the writer qualifies them. Both read the text of
the expression from the outside in, each in its own way. On the text of an expression tree both come to the
same: they replace the names of the tree and leave the tree as it is (`rewriters_relabel`).
-/

namespace BeanGen

open Text Config

namespace TypeText

/-- What a table has for an undotted name, trimmed, unless it is blank. Any other name stays. -/
def rename (table : Table) (name : String) : String :=
  if '.' ∈ name.toList then name else ((table.get? name).bind nonBlank?).getD name

/-- A name in an expression is renamed by the table. -/
theorem TypeName.relabeled_replacement? (table : Table) (label : TypeName) :
    label.relabeled (replacement? table) = rename table label.text := by
  have hnonempty : label.text.toList.isEmpty = false :=
    List.isEmpty_eq_false_iff.2 (mt String.toList_eq_nil_iff.1 label.nonempty)
  rw [TypeName.relabeled, replacement?, rename, hnonempty, Bool.false_or, String.ofList_toList]
  by_cases hdot : '.' ∈ label.text.toList
  · rw [if_pos (List.contains_iff_mem.2 hdot), if_pos hdot, Option.getD_none, String.ofList_toList]
  · rw [if_neg (mt List.contains_iff_mem.1 hdot), if_neg hdot]
    cases (table.get? label.text).bind nonBlank? <;> simp

namespace Tree

/-- Without entries nothing is renamed. -/
theorem print_map_rename_of_isEmpty {table : Table} (h : table.isEmpty = true) (tree : Tree TypeName) :
    (tree.map fun label => rename table label.text).print = tree.text := by
  have hnone : ∀ name, table.get? name = none := by
    intro name
    rw [Table.get?, List.isEmpty_iff.1 h]
    rfl
  have hsame : (fun label : TypeName => rename table label.text) = TypeName.text := by
    funext label
    rw [rename, hnone, Option.bind_none, Option.getD_none, ite_self]
  rw [hsame, text]

/-- A substitution renames the names of a tree. -/
theorem substitute?_text (table : Table) (tree : Tree TypeName) :
    substitute? table (some tree.text) =
      let renamed := (tree.map fun label => rename table label.text).print
      if renamed = tree.text then none else some renamed := by
  dsimp only
  cases hempty : table.isEmpty with
  | true =>
    rw [if_pos (print_map_rename_of_isEmpty hempty tree), substitute?, Option.bind_some, substituteText?, hempty]
    simp
  | false =>
    have hrenamed : relabeled (replacement? table) tree.text.toList =
        (tree.map fun label => rename table label.text).print.toList := by
      rw [tree.relabeled_text]
      simp only [TypeName.relabeled_replacement?]
    rw [substitute?, Option.bind_some, substituteText?_eq hempty, hrenamed]
    simp only [String.toList_inj]
    split
    · rfl
    · rw [Option.map_some, String.ofList_toList]

/-- The writer qualifies the names of a tree. -/
theorem qualifyText_text (writer : Writer) (package inside : String) : ∀ tree : Tree TypeName,
    writer.qualifyText package inside tree.text.toList =
      (tree.map fun label => writer.qualifyName package inside label.text).print.toList
  | name label => by
    rw [Writer.qualifyText_of_simple _ _ (nonblank_text _) (outline_text_name label), print_map_name,
      String.ofList_toList]
  | applied label first rest => by
    have hkept : (((first :: rest).map fun tree => tree.text.toList).filter (!·.isEmpty)) =
        (first :: rest).map fun tree => tree.text.toList := by
      refine List.filter_eq_self.2 fun arg harg => ?_
      obtain ⟨tree, -, rfl⟩ := List.mem_map.1 harg
      simp [tree.text_ne_empty]
    have hargs : ((first :: rest).map fun tree => writer.qualifyText package inside tree.text.toList) =
        (first :: rest).map fun tree =>
          (tree.map fun label => writer.qualifyName package inside label.text).print.toList :=
      List.map_congr_left fun tree _ => qualifyText_text writer package inside tree
    rw [Writer.qualifyText_of_applied _ _ (nonblank_text _) (outline_text_applied label first rest), hkept,
      List.map_map, toList_print_map_applied, ← hargs, String.ofList_toList]
    rfl
  | array element => by
    rw [Writer.qualifyText_of_array _ _ (nonblank_text _) (outline_text_array element),
      qualifyText_text writer package inside element, toList_print_map_array]

end Tree

/-- **Type expressions are rewritten name by name.** A substitution renames every name of the tree that its
table has something for, all at once, and yields the text of the result if it is another one. The writer
qualifies every name of the tree for the place where it stands. -/
theorem rewriters_relabel (tree : Tree TypeName) :
    (∀ table : Table, substitute? table (some tree.text) =
      let renamed := (tree.map fun label => rename table label.text).print
      if renamed = tree.text then none else some renamed) ∧
    ∀ (writer : Writer) (package inside : String), writer.qualify package inside tree.text =
      (tree.map fun label => writer.qualifyName package inside label.text).print := by
  refine ⟨fun table => tree.substitute?_text table, fun writer package inside => ?_⟩
  rw [Writer.qualify, tree.qualifyText_text, String.ofList_toList]

end TypeText

end BeanGen

import BeanGen.Proofs.Bean.Registry
import BeanGen.Proofs.Java.Name
import BeanGen.Proofs.TypeText.Names
import BeanGen.Render.Writer

/-!
# Written types that are qualified names

What the writer makes of one name ends with that name (`suffix_qualifyName`). So a type expression that
is written as a qualified name is itself one name (`outline_of_isDottedName_qualify`), with the same
simple name (`simpleName_qualify`).
-/

namespace BeanGen

open Text
open Java (isDottedName isRootObject simpleName)

/-- The class that every class extends is known by its simple name. -/
theorem Java.isRootObject_eq (type : String) :
    isRootObject type = rootObjectNames.contains (simpleName type) := by
  have hspelling : ∀ root ∈ rootObjectNames, rootObjectNames.contains (simpleName root) = true := by
    decide
  rw [isRootObject, Bool.eq_iff_iff, Bool.or_eq_true]
  exact or_iff_right_of_imp fun h => hspelling type (by simpa using h)

namespace Writer

section
variable (writer : Writer) (package inside : String)

/-- A name is written as it is, or with a qualifier and a dot in front. -/
theorem qualifyName_cases {name : String} (hname : name ≠ "") :
    writer.qualifyName package inside name = name ∨
      ∃ qualifier, writer.qualifyName package inside name = qualifier ++ "." ++ name := by
  unfold qualifyName
  rw [if_neg hname]
  split
  · exact .inl rfl
  split
  · exact .inr ⟨"java.util", rfl⟩
  split
  · next outer _ =>
    split
    · exact .inl rfl
    split
    · exact .inr ⟨outer.name, rfl⟩
    · exact .inr ⟨outer.qualifiedName, rfl⟩
  · split
    · next bean hget =>
      obtain ⟨-, rfl, -⟩ := Registry.mem_of_get? hget
      split
      · next hpackage =>
        have hnonempty : bean.package ≠ "" := by
          rw [Bool.and_eq_true, bne_iff_ne] at hpackage
          exact hpackage.1
        exact .inr ⟨bean.package, by rw [Bean.qualifiedName, if_neg hnonempty]⟩
      · exact .inl rfl
    · exact .inl rfl

/-- What is written for a name ends with the name. -/
theorem suffix_qualifyName {name : String} (hname : name ≠ "") :
    name.toList <:+ (writer.qualifyName package inside name).toList := by
  rcases writer.qualifyName_cases package inside hname with heq | ⟨qualifier, heq⟩
  · exact ⟨[], by rw [heq, List.nil_append]⟩
  · rw [heq, String.toList_append]
    exact List.suffix_append _ _

/-- A qualifier does not change what stands behind the last dot. -/
theorem afterLast_qualifyName {name : String} (hname : name ≠ "") :
    afterLast '.' (writer.qualifyName package inside name).toList = afterLast '.' name.toList := by
  rcases writer.qualifyName_cases package inside hname with heq | ⟨qualifier, heq⟩
  · rw [heq]
  · have hlist : (writer.qualifyName package inside name).toList =
        qualifier.toList ++ '.' :: name.toList := by
      rw [heq]
      simp
    rw [hlist, afterLast_append_cons]

/-- A name with a dot is written as it is. -/
theorem qualifyName_of_dot {name : String} (h : '.' ∈ name.toList) :
    writer.qualifyName package inside name = name := by
  have hnonempty : name ≠ "" := by
    rintro rfl
    cases h
  rw [qualifyName, if_neg hnonempty, if_pos (by simp [h])]

variable {type : String} (hblank : isBlankText type = false)
include hblank

/-- A type expression that is one name is written as this name is written. -/
theorem qualify_of_outline (h : TypeText.outline (trim type.toList) = .simple (trim type.toList)) :
    writer.qualify package inside type = writer.qualifyName package inside (trimmed type) := by
  rw [qualify, qualifyText, if_neg (by rw [← isBlankText, hblank]; exact Bool.false_ne_true)]
  split
  · next houtline => rw [h] at houtline; cases houtline
  · next houtline => rw [h] at houtline; cases houtline
  · next houtline =>
    rw [h] at houtline
    cases houtline
    exact String.ofList_toList

variable {writer package inside}
  (hdotted : isDottedName (writer.qualify package inside type) = true)
include hdotted

/-- A type expression that is written as a qualified name has no structure. -/
theorem outline_of_isDottedName_qualify :
    TypeText.outline (trim type.toList) = .simple (trim type.toList) := by
  have hwritten : (writer.qualify package inside type).toList =
      writer.qualifyText package inside type.toList := String.toList_ofList
  rw [qualifyText, if_neg (by rw [← isBlankText, hblank]; exact Bool.false_ne_true)] at hwritten
  split at hwritten
  · refine absurd ?_ (Java.notMem_of_isDottedName (c := '<') hdotted (by decide) (by decide))
    rw [hwritten]
    simp
  · refine absurd ?_ (Java.notMem_of_isDottedName (c := ']') hdotted (by decide) (by decide))
    rw [hwritten]
    simp
  · next name houtline =>
    rw [houtline, TypeText.eq_of_outline_eq_simple houtline]

/-- Writing a type expression as a qualified name keeps its simple name. -/
theorem simpleName_qualify :
    simpleName (writer.qualify package inside type) = simpleName type := by
  have hname : trimmed type ≠ "" := fun heq =>
    trim_ne_nil hblank (String.ofList_eq_empty_iff.1 heq)
  have hwritten := qualify_of_outline writer package inside hblank
    (outline_of_isDottedName_qualify hblank hdotted)
  have hangle : '<' ∉ type.toList := by
    intro hmem
    refine Java.notMem_of_isDottedName (c := '<') hdotted (by decide) (by decide) ?_
    rw [hwritten]
    refine (writer.suffix_qualifyName package inside hname).subset ?_
    rw [trimmed, String.toList_ofList]
    exact mem_trim hmem (by decide)
  rw [Java.simpleName_of_isDottedName hdotted, hwritten,
    writer.afterLast_qualifyName package inside hname, simpleName, before_of_notMem hangle, trimmed,
    String.toList_ofList]

/-- Writing a type expression as a qualified name keeps whether it is the class that every class
extends. -/
theorem isRootObject_qualify :
    isRootObject (writer.qualify package inside type) = isRootObject type := by
  rw [Java.isRootObject_eq, Java.isRootObject_eq, simpleName_qualify hblank hdotted]

end

end Writer

end BeanGen

import BeanGen.Proofs.Render.Qualify

/-!
# References to generated types

A generated type is referred to by its name inside its own package, with its package from any other
one, and behind the class it is nested in from outside of that class (`Writer.reference`). The writer
asks the names of the Java library first: a name that the library has is written as that of the
library, whatever else is generated under it (`Java.libraryName?`). For every other name of a generated
type it writes the reference to this type (`qualify_eq_reference`).
-/

namespace BeanGen

open Text
open Java (isName languageTypes collectionTypes)

/-- What is written for a name of the Java library: names that need no import stay, collections get
their package. -/
def Java.libraryName? (name : String) : Option String :=
  if languageTypes.contains name then some name
  else if collectionTypes.contains name then some ("java.util." ++ name)
  else none

namespace Writer

section
variable (writer : Writer) (package inside : String)

/-- The reference to a bean from class `inside` of a package. -/
def reference (bean : Bean) : String :=
  match writer.outerOf? bean with
  | none =>
    if bean.package = "" ∨ bean.package = package then bean.name
    else bean.package ++ "." ++ bean.name
  | some outer =>
    if inside = outer.name ∨ inside = bean.name then bean.name
    else
      (if outer.package = "" ∨ outer.package = package then "" else outer.package ++ ".") ++
        outer.name ++ "." ++ bean.name

/-- A name is written as a name. -/
theorem qualify_of_isName {name : String} (h : isName name = true) :
    writer.qualify package inside name = writer.qualifyName package inside name := by
  have hblank : ∀ c ∈ name.toList, isBlank c = false := fun c hc =>
    Java.isBlank_of_isNamePart (Java.isNamePart_of_isName h hc)
  have htrim : trim name.toList = name.toList := trim_of_forall hblank
  have hdotted : Java.isDottedName name = true := Java.isDottedName_of_isName h
  rw [qualify_of_outline, trimmed, htrim, String.ofList_toList]
  · obtain ⟨c, cs, hlist, -⟩ := Java.exists_of_isName h
    rw [isBlankText, allBlank, hlist, List.all_cons, hblank c (by simp [hlist]), Bool.false_and]
  · rw [htrim]
    exact Java.outline_of_isDottedName hdotted

/-- A name without a dot is written as the Java library has it, else as the reference to the bean of the
name, and as it is where there is no bean. -/
theorem qualifyName_eq {name : String} (hempty : name ≠ "") (hdot : '.' ∉ name.toList) :
    writer.qualifyName package inside name =
      (Java.libraryName? name).getD
        ((writer.registry.bean? name).elim name (writer.reference package inside)) := by
  rw [qualifyName, if_neg hempty, List.contains_eq_mem, decide_eq_false hdot, Bool.false_or,
    Java.libraryName?]
  split
  · rfl
  split
  · rfl
  rw [Option.getD_none, outer?, Registry.get?, if_neg hempty, Registry.bean?]
  cases hfind : writer.registry.beans.find? (·.name == name) with
  | none => rfl
  | some bean =>
    obtain rfl : bean.name = name := by simpa using List.find?_some hfind
    have hunlinked : writer.reference package inside bean.unlinked =
        writer.reference package inside bean := rfl
    rw [Option.bind_some, Option.map_some, Option.elim_some, hunlinked, reference]
    cases writer.outerOf? bean with
    | none =>
      dsimp only
      by_cases hunnamed : bean.package = ""
      · simp [hunnamed]
      · by_cases hsame : bean.package = package <;> simp [hunnamed, hsame, Bean.qualifiedName]
    | some outer =>
      dsimp only
      by_cases hinside : inside = outer.name ∨ inside = bean.name
      · simp [hinside]
      · simp only [Bool.or_eq_true, decide_eq_true_eq, hinside, if_false]
        by_cases hnear : outer.package = "" ∨ outer.package = package
        · simp [hnear]
        · rw [not_or] at hnear
          simp [Bean.qualifiedName, hnear.1, hnear.2]

/-- The name of a generated type is written as the reference to this type, unless it is a name of the
Java library. -/
theorem qualify_eq_reference {bean : Bean} (hmem : bean ∈ writer.registry.beans)
    (hname : isName bean.name = true) :
    writer.qualify package inside bean.name =
      (Java.libraryName? bean.name).getD (writer.reference package inside bean) := by
  have hempty : bean.name ≠ "" := fun heq => absurd hname (by rw [heq]; decide)
  rw [qualify_of_isName writer package inside hname,
    qualifyName_eq writer package inside hempty (Java.notMem_of_isName hname (by decide)),
    Registry.bean?_of_mem hmem]
  rfl

end

/-- A class `A` of package `p` with a helper `AB`. -/
def ownerAndHelper : Writer :=
  .of (Registry.empty.addAll
    [{ name := "A", kind := .javaClass, package := "p" },
     { name := "AB", kind := .javaClass, package := "p", owner := some "A" }]) default

/-- From another package the helper is `p.A.AB`. -/
theorem qualify_ownerAndHelper :
    { name := "AB", kind := .javaClass, package := "p", owner := some "A" : Bean } ∈
        ownerAndHelper.registry.beans ∧
      isName "AB" = true ∧ ownerAndHelper.qualify "q" "C" "AB" = "p.A.AB" := by
  have hmem : { name := "AB", kind := .javaClass, package := "p", owner := some "A" : Bean } ∈
      ownerAndHelper.registry.beans := by
    decide
  refine ⟨hmem, by decide, ?_⟩
  rw [qualify_eq_reference ownerAndHelper "q" "C" hmem (by decide)]
  decide

/-- A class `List` of package `p`. -/
def libraryNamesake : Writer :=
  .of (Registry.empty.add { name := "List", kind := .javaClass, package := "p" }) default

/-- Not every generated type is referred to: from another package, `p.List` is written as the class of
the Java library. -/
theorem not_forall_qualify_eq_reference :
    ¬∀ (writer : Writer) (package inside : String) (bean : Bean), bean ∈ writer.registry.beans →
      isName bean.name = true →
        writer.qualify package inside bean.name = writer.reference package inside bean := by
  intro h
  have hreference := h libraryNamesake "q" "B"
    { name := "List", kind := .javaClass, package := "p" } (by decide) (by decide)
  rw [qualify_of_isName _ _ _ (by decide)] at hreference
  exact absurd hreference (by decide)

end Writer

end BeanGen

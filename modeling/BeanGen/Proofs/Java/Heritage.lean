import BeanGen.Bean.Basic
import BeanGen.Proofs.Java.Unit
import BeanGen.Text.Blank
import BeanGen.Text.Slice

/-!
# Heritage clauses and what they denote

The source files of a run declare types (`SourceUnit.declaredTypes`), and classes and enums among them
name others in their `extends` and `implements` clauses (`SourceUnit.heritage`). A name denotes a type
by its qualified name, inside its package by the names from the outermost class on, and next to it by
its own name alone (`Heritage.Denotes`). The Java language wants an interface behind `implements` and a
class behind the `extends` of a class (`RespectsKinds`).
-/

namespace BeanGen.Java

/-- A type that a file declares: its package, the names of the classes around it and its own, and its
kind. -/
structure DeclaredType where
  package : String
  path : List String
  kind : Bean.Kind
  deriving DecidableEq, Repr

/-- The name of the type from everywhere. -/
def DeclaredType.qualifiedName (type : DeclaredType) : String :=
  ".".intercalate (if type.package = "" then type.path else type.package :: type.path)

/-- The head of a class or an enum: where it stands, and what it extends and implements. -/
structure Heritage where
  package : String
  path : List String
  base : Option String
  interfaces : List String
  deriving DecidableEq, Repr

/-- The name in front of the type arguments of a written type. -/
def rawName (type : String) : String :=
  String.ofList (Text.trim (Text.before '<' type.toList))

/-- A written type denotes a declared one. -/
def Heritage.Denotes (clause : Heritage) (written : String) (type : DeclaredType) : Prop :=
  rawName written = type.qualifiedName ∨
    type.package = clause.package ∧
      (rawName written = ".".intercalate type.path ∨
        ∃ around, type.path = around ++ [rawName written] ∧ around <+: clause.path)

namespace SourceUnit

/-- The types that a file declares. -/
def declaredTypes (unit : SourceUnit) : List DeclaredType :=
  match unit.type with
  | .ofClass decl => (decl.located []).map fun entry => ⟨unit.package, entry.1, .javaClass⟩
  | .ofInterface decl => [⟨unit.package, [decl.name], .javaInterface⟩]
  | .ofEnum decl => [⟨unit.package, [decl.name], .javaEnum⟩]

/-- The heads of the classes and enums of a file. -/
def heritage (unit : SourceUnit) : List Heritage :=
  match unit.type with
  | .ofClass decl => (decl.located []).map fun entry =>
      ⟨unit.package, entry.1, entry.2.base, entry.2.interfaces⟩
  | .ofInterface _ => []
  | .ofEnum decl => [⟨unit.package, [decl.name], none, decl.interfaces⟩]

end SourceUnit

section
variable (units : List SourceUnit) (clause : Heritage) (type : DeclaredType)

/-- The clause is in one of the files, and the type is declared in one of them. -/
def IsHeritageOf : Prop :=
  (∃ unit ∈ units, clause ∈ unit.heritage) ∧ ∃ unit ∈ units, type ∈ unit.declaredTypes

/-- In the files, the type stands behind the `implements` of the clause. -/
def Implements : Prop :=
  IsHeritageOf units clause type ∧ ∃ written ∈ clause.interfaces, clause.Denotes written type

/-- In the files, the type stands behind the `extends` of the clause. -/
def Extends : Prop :=
  IsHeritageOf units clause type ∧ ∃ written ∈ clause.base, clause.Denotes written type

end

/-- In the files, the types behind `implements` are interfaces, and those behind `extends` classes. -/
def RespectsKinds (units : List SourceUnit) : Prop :=
  ∀ clause type, (Implements units clause type → type.kind = .javaInterface) ∧
    (Extends units clause type → type.kind = .javaClass)

end BeanGen.Java

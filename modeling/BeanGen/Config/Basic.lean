import BeanGen.Config.Table

/-!
# Configuration

The rules that a run consults. They are read once and never change; every rule is optional, and a
configuration without any rule is a valid one.
-/

namespace BeanGen

open Config (Table)

/-- Files in directories that end with `dirEndsWith` go into the package `pkg`. -/
structure PackageRule where
  dirEndsWith : String := ""
  pkg : String := ""
  deriving DecidableEq, Repr

/-- The rules of a run. -/
structure Config where
  /-- Names of declarations that are left out. -/
  ignoreTsItems : List String := []
  /-- Directories whose files are left out. -/
  excludeDirSuffixes : List String := []
  /-- The package above all packages derived from directories. -/
  basePackage : Option String := none
  /-- Packages of particular directories. -/
  packageRules : List PackageRule := []
  /-- Qualified names of simple type names. -/
  typeMappings : Table := .empty
  /-- Types of particular fields. -/
  fieldTypeMappings : Table := .empty
  /-- Replacements of unknown base types. -/
  interfaceExtendsMappings : Table := .empty
  /-- The base of classes that have no other. -/
  defaultBaseClass : Option String := none
  /-- Interfaces of enums by name or package. -/
  enumInterfaceMapping : Table := .empty
  /-- Annotations of every class. -/
  additionalClassAnnotations : List String := []
  /-- Annotations of every field. -/
  additionalFieldAnnotations : List String := []
  /-- Annotations of every optional field. -/
  additionalOptionalFieldAnnotations : List String := []
  /-- Annotations of every required field. -/
  additionalNonOptionalFieldAnnotations : List String := []

instance : Inhabited Config := ⟨{}⟩

end BeanGen

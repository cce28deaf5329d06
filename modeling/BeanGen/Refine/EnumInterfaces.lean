import BeanGen.Bean.Registry
import BeanGen.Config.Basic
import BeanGen.Text.Blank

/-!
# Interfaces of enums

The configuration may let enums implement an interface: one enum by its name, all enums of the
packages that begin with a text, or every enum.
-/

namespace BeanGen

open Config (Table)

/-- A key that stands for packages, such as `com.example.*`: what their names begin with. -/
def packagePattern? (key : String) : Option (List Char) :=
  if ".*".toList.isSuffixOf key.toList then some key.toList.dropLast.dropLast else none

/-- The entry for packages that a package falls under. -/
def packageInterface? (table : Table) (package : String) : Option String :=
  if package = "" then none
  else (table.entries.find? fun (key, _) =>
    match packagePattern? key with
    | some beginning => beginning.isPrefixOf package.toList
    | none => false).map (·.2)

/-- The interface of an enum: by its name, else by its package, else the one for all. A blank entry
means that it has none. -/
def enumInterface? (table : Table) (name package : String) : Option String :=
  (((table.get? name).or (packageInterface? table package)).or (table.get? "*")).bind Text.nonBlank?

/-- Lets an enum implement its interface. Counts the enums that get one. -/
def Bean.withEnumInterface (table : Table) (bean : Bean) : Bean × Nat :=
  if bean.kind = .javaEnum then
    match enumInterface? table bean.name bean.package with
    | some interface => ({ bean with interfaces := bean.interfaces ++ [interface] }, 1)
    | none => (bean, 0)
  else (bean, 0)

end BeanGen

import BeanGen.Bean.Registry
import BeanGen.Config.Basic
import BeanGen.Java.Name
import BeanGen.Text.Blank

/-!
# Base classes

A declared base stays if it is a bean or a qualified name. Any other base is replaced as the
configuration says, or dropped and noted. The class that every class extends is no base. Classes that
are left without a base get the default one.
-/

namespace BeanGen

open Config (Table)
open Java (isRootObject simpleName)

/-- Declarations that have a base of their own: interfaces and classes, but no helpers. -/
def Bean.declaresBase (bean : Bean) : Bool :=
  (bean.origin == some .interfaceDecl || bean.origin == some .classDecl) && !bean.isHelper

/-- A base that needs no repair: a bean, or a qualified name. -/
def isKnownBase (registry : Registry) (base : String) : Bool :=
  registry.contains base || base.toList.contains '.'

/-- Keeps, replaces or drops the declared base. -/
def Bean.withKnownBase (registry : Registry) (table : Table) (bean : Bean) : Bean × Nat :=
  match bean.base with
  | none => (bean, 0)
  | some base =>
    if Text.isBlankText base || isKnownBase registry base then (bean, 0)
    else match (table.get? base).bind Text.nonBlank? with
      | some new =>
        ({ bean with base := some new, baseLink := registry.linkTo? (some new) }, 1)
      | none =>
        ({ bean with
            base := none
            baseLink := none
            unresolvedBases := bean.unresolvedBases ++ [base] }, 1)

/-- Removes a base that every class has anyway. -/
def Bean.withoutRootBase (bean : Bean) : Bean × Nat :=
  match bean.base with
  | some base =>
    if base != "" && isRootObject base then ({ bean with base := none, baseLink := none }, 1)
    else (bean, 0)
  | none => (bean, 0)

/-- The bean may get the default base: a class without a base, no helper, and not the default base
itself. -/
def Bean.lacksBase (default : String) (bean : Bean) : Bool :=
  default != "" && bean.kind == .javaClass && (bean.base.getD "") == "" && !bean.isHelper &&
    !isRootObject default && simpleName default != bean.name

/-- Gives a class without a base the default one. -/
def Bean.withDefaultBase (registry : Registry) (default : String) (bean : Bean) : Bean × Nat :=
  if bean.lacksBase default then
    ({ bean with base := some default, baseLink := registry.linkTo? (some default) }, 1)
  else (bean, 0)

/-- Settles the base of a bean. Counts the steps that change it. -/
def Bean.withBase (registry : Registry) (config : Config) (bean : Bean) : Bean × Nat :=
  let default := Text.trimmed (config.defaultBaseClass.getD "")
  let (bean, known) :=
    if bean.declaresBase then bean.withKnownBase registry config.interfaceExtendsMappings
    else (bean, 0)
  let (bean, root) := bean.withoutRootBase
  let (bean, added) := bean.withDefaultBase registry default
  (bean, known + root + added)

end BeanGen

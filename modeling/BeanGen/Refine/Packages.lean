import BeanGen.Bean.Registry
import BeanGen.Config.Basic
import BeanGen.Place.Roots
import BeanGen.Text.Blank
import BeanGen.Text.Slice

/-!
# Packages

The package of a bean follows the directory of its declaration. Rules are tried on the directory
relative to its root first, then on the one relative to the common ancestor of all roots. Without a
rule the directory itself becomes the package below the base package.
-/

namespace BeanGen

open Text

/-- The rule applies to files in this directory. -/
def PackageRule.appliesTo (rule : PackageRule) (dir : String) : Bool :=
  let suffix := replaceChar '\\' '/' rule.dirEndsWith.toList
  !allBlank suffix && !isBlankText rule.pkg && suffix.isSuffixOf dir.toList

/-- The package that the first applicable rule gives a directory. -/
def rulePackage? (config : Config) (dir : String) : Option String :=
  (config.packageRules.find? (·.appliesTo dir)).map fun rule => trimmed rule.pkg

/-- A directory as a package below `base`. A base that ends with a dot gets no second one. -/
def packageBelow (base dir : String) : String :=
  let segments := String.ofList (replaceChar '/' '.' dir.toList)
  if base.toList.getLast? == some '.' then base ++ segments else base ++ "." ++ segments

/-- The package for declarations of a file, if the configuration gives one. -/
def packageOf? (config : Config) (roots : Roots) (sourcePath : Option String) : Option String :=
  match sourcePath.filter (· != "") with
  | none => config.basePackage
  | some path =>
    let dirs := [roots.relativeDir? path, roots.commonDir? path].filterMap id
    match dirs.findSome? (rulePackage? config) with
    | some pkg => some pkg
    | none => config.basePackage.map fun base =>
        match dirs with
        | [] => base
        | dir :: _ => packageBelow base dir

/-- Puts a bean into its package. Counts the beans that get one. -/
def Bean.placed (config : Config) (roots : Roots) (bean : Bean) : Bean × Nat :=
  match (packageOf? config roots bean.sourcePath).bind nonBlank? with
  | some pkg => ({ bean with package := pkg }, 1)
  | none => (bean, 0)

end BeanGen

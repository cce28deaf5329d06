import BeanGen.Bean.Registry

/-!
# Linking

Every bean is there before names are resolved, so that a declaration may refer to a later one and two
may refer to each other. A name without a bean stays a name.
-/

namespace BeanGen

/-- The elements without those that occurred before. -/
def distinctTexts (texts : List String) : List String :=
  Bean.firstByKey id [] texts

/-- The link for a reference, or the one it had if the name refers to no bean. Counts the references
that are resolved. -/
def relinked (registry : Registry) (name : Option String) (before : Option Link) :
    Option Link × Nat :=
  match registry.linkTo? name with
  | some link => (some link, 1)
  | none => (before, 0)

/-- Resolves the references of one bean. -/
def Bean.linked (registry : Registry) (bean : Bean) : Bean × Nat :=
  let base := relinked registry bean.base bean.baseLink
  let interfaces :=
    (distinctTexts bean.interfaces).filterMap fun name => registry.linkTo? (some name)
  let target := relinked registry bean.aliasTarget bean.aliasLink
  ({ bean with baseLink := base.1, interfaceLinks := interfaces, aliasLink := target.1 },
    base.2 + interfaces.length + target.2)

/-- Resolves the references of all beans. The number is that of the references that lead to a
bean. -/
def Registry.link (registry : Registry) : Registry × Nat :=
  registry.update (Bean.linked registry)

end BeanGen

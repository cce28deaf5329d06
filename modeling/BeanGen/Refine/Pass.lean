import BeanGen.Refine.Packages
import BeanGen.Refine.EnumInterfaces
import BeanGen.Refine.TypeNames
import BeanGen.Refine.FieldTypes
import BeanGen.Refine.Bases

/-!
# Refining the registry

The configuration is applied to all beans in five passes, each over the whole registry before the
next begins. Later passes see what earlier ones did: fields are looked up with the package that their
bean was given.
-/

namespace BeanGen

/-- A pass over the registry. -/
inductive Pass where
  | packages | enumInterfaces | typeNames | fieldTypes | bases
  deriving DecidableEq, Repr

namespace Pass

/-- All passes in their order. -/
def all : List Pass :=
  [packages, enumInterfaces, typeNames, fieldTypes, bases]

/-- Runs a pass. The number is that of the changes; a pass whose rules are empty makes none. -/
def run (config : Config) (roots : Roots) (registry : Registry) : Pass → Registry × Nat
  | packages => registry.update (Bean.placed config roots)
  | enumInterfaces => registry.update (Bean.withEnumInterface config.enumInterfaceMapping)
  | typeNames =>
    if config.typeMappings.isEmpty then (registry, 0)
    else registry.update (Bean.withTypeNames registry config.typeMappings)
  | fieldTypes => registry.update (Bean.withFieldTypes config.fieldTypeMappings)
  | bases => registry.update (Bean.withBase registry config)

end Pass

/-- Runs the passes from left to right. -/
def Registry.runPasses (config : Config) (roots : Roots) :
    List Pass → Registry → Registry × List (Pass × Nat)
  | [], registry => (registry, [])
  | pass :: passes, registry =>
    let (registry, count) := pass.run config roots registry
    let (registry, counts) := registry.runPasses config roots passes
    (registry, (pass, count) :: counts)

/-- Runs all passes, and says of each how much it changed. -/
def Registry.refine (config : Config) (roots : Roots) (registry : Registry) :
    Registry × List (Pass × Nat) :=
  registry.runPasses config roots Pass.all

end BeanGen

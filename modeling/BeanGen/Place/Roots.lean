import BeanGen.Place.Path

/-!
# Source roots

The directories that declarations are read from, and where a file lies with respect to them. Rules of
a configuration see two directories of a file: the one relative to the first root that contains it,
and the one relative to the deepest directory above all roots.
-/

namespace BeanGen

/-- The source roots, and the directory that relative paths are seen from. -/
structure Roots where
  workDir : Place
  dirs : List Place
  deriving DecidableEq, Repr

namespace Roots

/-- The roots that path texts denote. -/
def ofTexts (workDir : Place) (paths : List String) : Roots :=
  ⟨workDir, paths.map (Place.resolve workDir)⟩

/-- The deepest directory that contains every root. -/
def common? (roots : Roots) : Option Place :=
  match roots.dirs with
  | [] => none
  | dir :: dirs => some (dirs.foldl Place.commonWith dir)

/-- The first root that is the place or lies above it. -/
def rootOf? (roots : Roots) (place : Place) : Option Place :=
  roots.dirs.find? (·.isPrefixOf place)

/-- The directory of a file seen from `base`: nothing if the file is not below `base`, or directly
in it. -/
def directoryIn? (base : Option Place) (place : Place) : Option String :=
  match base.bind (Place.relativeTo? · place) with
  | none => none
  | some names =>
    match names.dropLast with
    | [] => none
    | dirs => some ("/".intercalate dirs)

/-- The directory of a file relative to the root it lies in. -/
def relativeDir? (roots : Roots) (path : String) : Option String :=
  let place := Place.resolve roots.workDir path
  directoryIn? (roots.rootOf? place) place

/-- The directory of a file relative to the deepest directory above all roots. -/
def commonDir? (roots : Roots) (path : String) : Option String :=
  directoryIn? roots.common? (Place.resolve roots.workDir path)

end Roots

end BeanGen

import BeanGen.Config.Basic
import BeanGen.Place.Roots
import BeanGen.Place.DirMatch
import BeanGen.Source.Basic
import BeanGen.Text.Blank

/-!
# Leaving declarations out

Before beans are made of the declarations, the files of excluded directories and the declarations
with ignored names are taken out. Each filter gives what stays and how much it removed.
-/

namespace BeanGen.Source

/-- The file lies in one of the directories, seen from its root or from above all roots. -/
def File.isExcluded (roots : Roots) (suffixes : List String) (file : File) : Bool :=
  suffixes.any (matchesDir (roots.relativeDir? file.path)) ||
    suffixes.any (matchesDir (roots.commonDir? file.path))

/-- The files outside the excluded directories, and the number of the others. -/
def Files.withoutExcluded (config : Config) (roots : Roots) (files : Files) : Files × Nat :=
  let suffixes := config.excludeDirSuffixes.filter (!Text.isBlankText ·)
  let kept := files.filter (!·.isExcluded roots suffixes)
  (kept, files.length - kept.length)

/-- The files without the ignored declarations, and the number of the ignored ones. -/
def Files.withoutIgnored (config : Config) (files : Files) : Files × Nat :=
  let kept : Files := files.map (File.withoutNames config.ignoreTsItems)
  (kept, files.declarationCount - kept.declarationCount)

end BeanGen.Source

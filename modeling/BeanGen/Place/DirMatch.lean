import BeanGen.Text.Slice

/-!
# Matching directories

An excluded directory is given by one or more path segments. A file is excluded if these segments
stand in a row in its relative directory, at the beginning, at the end or in between.
-/

namespace BeanGen

open Text

/-- The text without the slashes at its two ends. -/
def trimSlashes (cs : List Char) : List Char :=
  (((cs.dropWhile (· == '/')).reverse).dropWhile (· == '/')).reverse

/-- The segments of `suffix` stand in a row in `dir`. Backslashes separate segments too. -/
def matchesDir (dir : Option String) (suffix : String) : Bool :=
  let rel := replaceChar '\\' '/' (dir.getD "").toList
  let suf := trimSlashes (replaceChar '\\' '/' suffix.toList)
  !rel.isEmpty && !suf.isEmpty &&
    (rel == suf || ('/' :: suf).isSuffixOf rel || (suf ++ ['/']).isPrefixOf rel ||
      hasInfix ('/' :: suf ++ ['/']) rel)

end BeanGen

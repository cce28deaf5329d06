import BeanGen.Proofs.Place.Common
import BeanGen.Proofs.Place.DirMatch
import BeanGen.Refine.Packages

/-!
# The two directories of a file

A file has a directory relative to the root that it lies in and one relative to the common ancestor of the
roots. The second is the first with what leads from the common ancestor to the root in front of it, if that is
anything (`Roots.views_agree`). Excluded directories stand anywhere between slashes (`Place.HasRow.below`) and
package rules look at the end of a directory only (`PackageRule.appliesTo_below`), so what captures the first
directory captures the second.
-/

namespace BeanGen

open Text

/-! ## Directories farther away -/

section
variable {dir suffix : String} {rule : PackageRule}

/-- Segments that stand in a row in a directory do so when the directory is seen from farther away. -/
theorem Place.HasRow.below (h : HasRow dir suffix) (front : String) : HasRow (front ++ "/" ++ dir) suffix := by
  obtain ⟨core, hstrips, hcore, hrow⟩ := h.row
  have hslashed : slashed (front ++ "/" ++ dir) = slashed front ++ '/' :: slashed dir := by
    simp [slashed, replaceChar]
  refine ⟨?_, h.suffix_ne, core, hstrips, hcore, ?_⟩
  · rw [ne_eq, ← slashed_eq_nil_iff, hslashed]
    simp
  · rw [hslashed, splitOn_append_cons]
    exact hrow.trans (List.suffix_append _ _).isInfix

/-- A rule that applies to a directory does so when the directory is seen from farther away. -/
theorem PackageRule.appliesTo_below (h : rule.appliesTo dir = true) (front : String) :
    rule.appliesTo (front ++ "/" ++ dir) = true := by
  simp only [appliesTo, Bool.and_eq_true, List.isSuffixOf_iff_suffix] at h ⊢
  refine ⟨h.1, ?_⟩
  rw [String.toList_append]
  exact h.2.trans (List.suffix_append _ _)

end

/-! ## Both directories of a file -/

section
variable {roots : Roots} {path dir : String}

/-- Between the common ancestor and the directory relative to the root stands what leads to the root. -/
theorem Roots.commonDir?_eq (h : roots.relativeDir? path = some dir) : ∃ common root front,
    roots.common? = some common ∧ roots.IsRootOf (Place.resolve roots.workDir path) root ∧
      common ++ front = root ∧
      roots.commonDir? path = some (if front = [] then dir else "/".intercalate front ++ "/" ++ dir) := by
  obtain ⟨common, root, front, names, hcommon, hroot, hfront, hne, rfl, hdir⟩ := commonDir?_of_relativeDir? h
  refine ⟨common, root, front, hcommon, hroot, hfront, ?_⟩
  rw [hdir]
  split
  · next hempty => rw [hempty, List.nil_append]
  · next hempty => rw [String.intercalate_append_of_ne_nil hempty hne]

/-- What captures a directory and the same directory seen from farther away captures the directory relative to
the common ancestor if it captures the one relative to the root. -/
theorem Roots.captures_commonDir? {P : String → Prop} (h : roots.relativeDir? path = some dir)
    (hbelow : ∀ front, P (front ++ "/" ++ dir)) (hdir : P dir) :
    ∃ far, roots.commonDir? path = some far ∧ P far := by
  obtain ⟨-, -, front, -, -, -, hcommon⟩ := commonDir?_eq h
  refine ⟨_, hcommon, ?_⟩
  split
  · exact hdir
  · exact hbelow _

/-- **The two directories of a file.** Roots have a deepest common ancestor. The root of a file is the first one
that is the file or lies above it. When the file has a directory relative to its root, it has one relative to the
common ancestor: the same one if the root is the common ancestor, and otherwise the one with what leads to the
root in front. So each excluded directory that matches the first one matches the second one, and each package rule
that applies to the first one applies to the second one. -/
theorem Roots.views_agree (roots : Roots) (hroots : roots.dirs ≠ []) (path : String) :
    ∃ common, roots.common? = some common ∧ roots.IsCommon common ∧
      (∀ root, roots.rootOf? (Place.resolve roots.workDir path) = some root ↔
        roots.IsRootOf (Place.resolve roots.workDir path) root) ∧
      (∀ dir, roots.relativeDir? path = some dir →
        ∃ root front, roots.rootOf? (Place.resolve roots.workDir path) = some root ∧
          Place.relativeTo? common root = some front ∧
          roots.commonDir? path =
            some (if root = common then dir else "/".intercalate front ++ "/" ++ dir)) ∧
      (∀ suffix, matchesDir (roots.relativeDir? path) suffix = true →
        matchesDir (roots.commonDir? path) suffix = true) ∧
      ∀ (rule : PackageRule) (dir : String), roots.relativeDir? path = some dir → rule.appliesTo dir = true →
        ∃ far, roots.commonDir? path = some far ∧ rule.appliesTo far = true := by
  obtain ⟨common, hcommon, hdeepest⟩ := exists_isCommon hroots
  refine ⟨common, hcommon, hdeepest, fun root => rootOf?_eq_some_iff, fun dir hdir => ?_, fun suffix h => ?_,
    fun rule dir hdir h => captures_commonDir? hdir (PackageRule.appliesTo_below h) h⟩
  · obtain ⟨other, root, front, hother, hroot, hfront, hfar⟩ := commonDir?_eq hdir
    obtain rfl : other = common := Option.some.inj (hother.symm.trans hcommon)
    have hsame : front = [] ↔ root = other := by
      rw [← hfront, List.append_right_eq_self]
    refine ⟨root, front, rootOf?_eq_some_iff.2 hroot, Place.relativeTo?_eq_some_iff.2 hfront, ?_⟩
    simpa only [hsame] using hfar
  · obtain ⟨dir, hdir, hrow⟩ := matchesDir_iff.1 h
    exact matchesDir_iff.2 (captures_commonDir? hdir hrow.below hrow)

/-- Three roots, one of them in another. -/
def nestedRoots : Roots :=
  ⟨[], [["p", "a"], ["p", "a", "b"], ["p", "c"]]⟩

/-- A rule for directories that end with `b/x`. -/
def endingRule : PackageRule where
  dirEndsWith := "b\\x"
  pkg := "com.x"

theorem views_agree_nestedRoots :
    nestedRoots.dirs ≠ [] ∧ nestedRoots.relativeDir? "/p/a/b/x/f.ts" = some "b/x" ∧
      matchesDir (some "b/x") "/b/" = true ∧ endingRule.appliesTo "b/x" = true ∧
      (∃ common root front, nestedRoots.common? = some common ∧
        nestedRoots.rootOf? ["p", "a", "b", "x", "f.ts"] = some root ∧
        Place.relativeTo? common root = some front ∧ root ≠ common ∧
        nestedRoots.commonDir? "/p/a/b/x/f.ts" = some ("/".intercalate front ++ "/" ++ "b/x")) ∧
      matchesDir (nestedRoots.commonDir? "/p/a/b/x/f.ts") "/b/" = true ∧
      ∃ far, nestedRoots.commonDir? "/p/a/b/x/f.ts" = some far ∧ endingRule.appliesTo far = true := by
  have hdir : nestedRoots.relativeDir? "/p/a/b/x/f.ts" = some "b/x" := by decide
  have hmatches : matchesDir (some "b/x") "/b/" = true := by decide
  have happlies : endingRule.appliesTo "b/x" = true := by decide
  have hresolve : Place.resolve nestedRoots.workDir "/p/a/b/x/f.ts" = ["p", "a", "b", "x", "f.ts"] := by decide
  have hroots : nestedRoots.dirs ≠ [] := by decide
  obtain ⟨common, hcommon, -, -, hviews, hexcluded, hrules⟩ :=
    Roots.views_agree nestedRoots hroots "/p/a/b/x/f.ts"
  obtain ⟨root, front, hroot, hfront, hfar⟩ := hviews "b/x" hdir
  obtain rfl : common = ["p"] := Option.some.inj (hcommon.symm.trans (by decide))
  obtain rfl : root = ["p", "a"] := Option.some.inj (hroot.symm.trans (by decide))
  rw [hresolve] at hroot
  rw [if_neg (by decide)] at hfar
  exact ⟨hroots, hdir, hmatches, happlies, ⟨_, _, front, hcommon, hroot, hfront, by decide, hfar⟩,
    hexcluded "/b/" (by rw [hdir]; exact hmatches), hrules endingRule "b/x" hdir happlies⟩

end

end BeanGen

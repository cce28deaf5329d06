import BeanGen.Proofs.Place.Roots
import Mathlib.Data.List.Infix

/-!
# The directory above all roots

The common ancestor of the roots is above each of them, and each other place above them all is above it
(`Roots.exists_isCommon`). So a file that is in a directory of its root is in a directory of the common
ancestor, too, and that one ends with the other: what leads from the common ancestor to the root stands in front
(`Roots.commonDir?_of_relativeDir?`).
-/

namespace BeanGen

namespace Place

/-- What two places have in common is above the first. -/
theorem commonWith_prefix_left (place other : Place) : commonWith place other <+: place := by
  fun_induction commonWith place other with
  | case1 name rest others ih => exact List.cons_prefix_cons.2 ⟨rfl, ih⟩
  | case2 => exact List.nil_prefix
  | case3 => exact List.nil_prefix

/-- What two places have in common is above the second. -/
theorem commonWith_prefix_right (place other : Place) : commonWith place other <+: other := by
  fun_induction commonWith place other with
  | case1 name rest others ih => exact List.cons_prefix_cons.2 ⟨rfl, ih⟩
  | case2 => exact List.nil_prefix
  | case3 => exact List.nil_prefix

/-- What a list of places has in common is above each of them. -/
theorem foldl_commonWith_prefix {first place : Place} {places : List Place} (h : place ∈ first :: places) :
    places.foldl commonWith first <+: place := by
  induction places generalizing first place with
  | nil =>
    obtain rfl := List.mem_singleton.1 h
    exact List.prefix_rfl
  | cons next rest ih =>
    have habove : (next :: rest).foldl commonWith first <+: commonWith first next := ih List.mem_cons_self
    rcases List.mem_cons.1 h with rfl | h
    · exact habove.trans (commonWith_prefix_left _ _)
    · rcases List.mem_cons.1 h with rfl | h
      · exact habove.trans (commonWith_prefix_right _ _)
      · exact ih (List.mem_cons_of_mem _ h)

/-- What is above two places is above what they have in common. -/
theorem prefix_commonWith {place other above : Place} (h : above <+: place) (h' : above <+: other) :
    above <+: commonWith place other := by
  induction above generalizing place other with
  | nil => exact List.nil_prefix
  | cons name rest ih =>
    obtain ⟨more, rfl⟩ := h
    obtain ⟨more', rfl⟩ := h'
    rw [List.cons_append, List.cons_append, commonWith, if_pos rfl, List.prefix_cons_inj]
    exact ih (List.prefix_append _ _) (List.prefix_append _ _)

/-- What is above each of a list of places is above what they have in common. -/
theorem prefix_foldl_commonWith {first above : Place} {places : List Place}
    (h : ∀ place ∈ first :: places, above <+: place) : above <+: places.foldl commonWith first := by
  induction places generalizing first with
  | nil => exact h first List.mem_cons_self
  | cons next rest ih =>
    refine ih fun place hplace => ?_
    rcases List.mem_cons.1 hplace with rfl | hrest
    · exact prefix_commonWith (h first List.mem_cons_self) (h next (by simp))
    · exact h place (List.mem_cons_of_mem _ (List.mem_cons_of_mem _ hrest))

end Place

namespace Roots

variable {roots : Roots} {path dir : String}

/-- The place is above each root, and no place farther down is. -/
structure IsCommon (roots : Roots) (common : Place) : Prop where
  above : ∀ root ∈ roots.dirs, common <+: root
  deepest : ∀ other, (∀ root ∈ roots.dirs, other <+: root) → other <+: common

/-- Roots have a deepest common ancestor, if there are any. -/
theorem exists_isCommon (h : roots.dirs ≠ []) :
    ∃ common, roots.common? = some common ∧ roots.IsCommon common := by
  obtain ⟨first, rest, hdirs⟩ := List.exists_cons_of_ne_nil h
  refine ⟨rest.foldl Place.commonWith first, by rw [common?, hdirs], ?_, ?_⟩
  · rw [hdirs]
    exact fun root => Place.foldl_commonWith_prefix
  · rw [hdirs]
    exact fun other => Place.prefix_foldl_commonWith

/-- A file that has a directory relative to its root has one relative to the common ancestor: the names that lead
from there to the root stand in front of it. -/
theorem commonDir?_of_relativeDir? (h : roots.relativeDir? path = some dir) :
    ∃ common root front names, roots.common? = some common ∧
      roots.IsRootOf (Place.resolve roots.workDir path) root ∧ common ++ front = root ∧ names ≠ [] ∧
      dir = "/".intercalate names ∧ roots.commonDir? path = some ("/".intercalate (front ++ names)) := by
  obtain ⟨before, root, behind, hsplit, hfirst, hdir⟩ := relativeDir?_eq_some_iff.1 h
  obtain ⟨names, file, hplace, hne, rfl⟩ := directoryIn?_eq_some_iff.1 hdir
  have hroot : root ∈ roots.dirs := by
    rw [hsplit]
    exact List.mem_append_right _ List.mem_cons_self
  obtain ⟨common, hcommon, hdeepest⟩ := exists_isCommon (List.ne_nil_of_mem hroot)
  obtain ⟨front, hfront⟩ := hdeepest.above root hroot
  refine ⟨common, root, front, names, hcommon, ⟨⟨_, hplace⟩, before, behind, hsplit, hfirst⟩, hfront, hne, rfl, ?_⟩
  rw [commonDir?, hcommon]
  refine directoryIn?_eq_some_iff.2 ⟨front ++ names, file, ?_, ?_, rfl⟩
  · rw [← hplace, ← hfront]
    simp only [List.append_assoc]
  · exact List.append_ne_nil_of_right_ne_nil front hne

/-- The directory that a file has relative to the common ancestor ends with the one relative to its root. -/
theorem exists_commonDir? (h : roots.relativeDir? path = some dir) :
    ∃ front names, names ≠ [] ∧ dir = "/".intercalate names ∧
      roots.commonDir? path = some ("/".intercalate (front ++ names)) := by
  obtain ⟨-, -, front, names, -, -, -, hne, hdir, hcommon⟩ := commonDir?_of_relativeDir? h
  exact ⟨front, names, hne, hdir, hcommon⟩

end Roots

end BeanGen

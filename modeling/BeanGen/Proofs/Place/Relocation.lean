import BeanGen.Place.Roots
import BeanGen.Proofs.Place.Path
import Mathlib.Data.List.Induction

/-!
# Paths below another directory

A relative path that never leads above where it starts (`Place.IsInside`) can be put below any
directory (`Place.under`). What it denotes there is what it denotes below the top of the tree, behind the
place of the directory (`Place.resolve_under`). All that rules see of a file is how its place lies to the
places of the roots, so they see the same wherever the files and the roots are put together
(`Roots.relativeDir?_under`, `Roots.commonDir?_under`).
-/

namespace BeanGen

namespace Place

/-- Every name of the place is the name of a step down. -/
def IsNormal (place : Place) : Prop :=
  ∀ name ∈ place, '/' ∉ name.toList ∧ name ≠ "" ∧ name ≠ "." ∧ name ≠ ".."

/-- Steps from `depth` levels below some place never lead above this place. -/
def staysBelow : Nat → List String → Bool
  | _, [] => true
  | depth, piece :: rest =>
    if piece = ".." then depth != 0 && staysBelow (depth - 1) rest else staysBelow (depth + 1) rest

/-- The path text is relative and never leads above where it starts. -/
def IsInside (path : String) : Prop :=
  isAbsoluteText path = false ∧ staysBelow 0 (pieces path) = true

/-- The path text put below a place. -/
def under (base : Place) (path : String) : String :=
  joinText base.text path

section
variable {base : Place} {path : String}

/-- The pieces of the text of a place are its names. -/
theorem pieces_text (h : base.IsNormal) : pieces base.text = base := by
  have htext : base.text = String.ofList ([] ++ '/' :: ("/".intercalate base).toList) := by
    rw [← String.toList_inj]
    simp [text]
  rw [htext, pieces_append_cons, String.ofList_toList,
    pieces_intercalate fun name hname => ⟨(h name hname).1, (h name hname).2.1, (h name hname).2.2.1⟩]
  rfl

/-- A path below a place has the names of the place in front of its pieces. -/
theorem pieces_under (hbase : base.IsNormal) (hpath : IsInside path) :
    pieces (under base path) = base ++ pieces path := by
  rw [under, pieces_joinText_of_relative _ hpath.1, pieces_text hbase]

/-- A path below a place starts at the top. -/
theorem isAbsoluteText_under (base : Place) (h : isAbsoluteText path = false) :
    isAbsoluteText (under base path) = true := by
  have hfront : ∀ rest : String, isAbsoluteText (base.text ++ rest) = true := by
    intro rest
    simp [isAbsoluteText, text]
  rw [under, joinText, if_neg (by rw [h]; exact Bool.false_ne_true)]
  split
  · exact hfront path
  · rw [String.append_assoc]
    exact hfront ("/" ++ path)

/-- Steps that stay below a place do not depend on where this is. -/
theorem foldl_step_append (base place : Place) {steps : List String}
    (h : staysBelow place.length steps = true) :
    steps.foldl step (base ++ place) = base ++ steps.foldl step place := by
  induction steps generalizing place with
  | nil => rfl
  | cons piece rest ih =>
    unfold staysBelow at h
    rw [List.foldl_cons, List.foldl_cons]
    by_cases hup : piece = ".."
    · rw [if_pos hup, Bool.and_eq_true, bne_iff_ne] at h
      have hne : place ≠ [] := fun heq => h.1 (by rw [heq]; rfl)
      rw [step, step, if_pos hup, if_pos hup, List.dropLast_append_of_ne_nil hne]
      exact ih _ (by rw [List.length_dropLast]; exact h.2)
    · rw [if_neg hup] at h
      rw [step, step, if_neg hup, if_neg hup, List.append_assoc]
      exact ih _ (by rw [List.length_append]; exact h)

/-- The names of a place lead there from the top. -/
theorem foldl_step_of_isNormal (h : base.IsNormal) : base.foldl step [] = base := by
  induction base using List.reverseRecOn with
  | nil => rfl
  | append_singleton front name ih =>
    have hname := h name (by simp)
    rw [List.foldl_append, ih fun other hother => h other (List.mem_append_left _ hother),
      List.foldl_cons, List.foldl_nil, step, if_neg hname.2.2.2]

/-- A path below a place denotes what it denotes below the top, behind the place. -/
theorem resolve_under (workDir : Place) (hbase : base.IsNormal) (hpath : IsInside path) :
    resolve workDir (under base path) = base ++ resolve [] path := by
  rw [resolve, isAbsoluteText_under base hpath.1, if_pos rfl, pieces_under hbase hpath,
    List.foldl_append, foldl_step_of_isNormal hbase, resolve, hpath.1]
  have hsteps := foldl_step_append base [] hpath.2
  rwa [List.append_nil] at hsteps

/-- A path that has pieces has the same last name below a place. -/
theorem fileName_under (hbase : base.IsNormal) (hpath : IsInside path) (hpieces : pieces path ≠ []) :
    fileName (under base path) = fileName path := by
  rw [fileName, pieces_under hbase hpath, List.getLast?_append_of_ne_nil _ hpieces, fileName]

/-! ## Places behind a common front -/

variable (base) (place other : Place)

/-- What places have in common behind a front they have in common. -/
theorem commonWith_append : commonWith (base ++ place) (base ++ other) =
    base ++ commonWith place other := by
  induction base with
  | nil => rfl
  | cons name rest ih =>
    rw [List.cons_append, List.cons_append, commonWith, if_pos rfl, ih]
    rfl

/-- A front that two places share does not matter for the way from one to the other. -/
theorem relativeTo?_append : relativeTo? (base ++ place) (base ++ other) = relativeTo? place other := by
  have hprefix : (base ++ place).isPrefixOf (base ++ other) = place.isPrefixOf other := by
    rw [Bool.eq_iff_iff, List.isPrefixOf_iff_prefix, List.isPrefixOf_iff_prefix,
      List.prefix_append_right_inj]
  rw [relativeTo?, hprefix, List.length_append, List.drop_length_add_append, relativeTo?]

end

end Place

/-! ## What rules see of a file -/

namespace Roots

open Place

section
variable {base : Place} {rootPaths : List String} {path : String} (workDir : Place)

/-- The roots that relative paths denote below a place. -/
def under (workDir base : Place) (rootPaths : List String) : Roots :=
  .ofTexts workDir (rootPaths.map (Place.under base))

/-- Roots below a place are the roots below the top, behind the place. -/
theorem dirs_under (hbase : base.IsNormal) (hroots : ∀ root ∈ rootPaths, IsInside root) :
    (under workDir base rootPaths).dirs =
      (rootPaths.map (resolve [])).map (base ++ ·) := by
  rw [under, ofTexts, List.map_map, List.map_map]
  exact List.map_congr_left fun root hroot => resolve_under workDir hbase (hroots root hroot)

/-- Behind a front that roots share stands the deepest directory above all of them. -/
theorem common?_append (base workDir workDir' : Place) (dirs : List Place) :
    (Roots.mk workDir (dirs.map (base ++ ·))).common? =
      (Roots.mk workDir' dirs).common?.map (base ++ ·) := by
  cases dirs with
  | nil => rfl
  | cons dir dirs =>
    show some ((dirs.map (base ++ ·)).foldl commonWith (base ++ dir)) =
      some (base ++ dirs.foldl commonWith dir)
    refine congrArg some ?_
    induction dirs generalizing dir with
    | nil => rfl
    | cons next rest ih =>
      rw [List.map_cons, List.foldl_cons, List.foldl_cons, commonWith_append, ih]

/-- Behind a front that roots and a place share stands the root that the place lies in. -/
theorem rootOf?_append (base workDir workDir' : Place) (dirs : List Place) (place : Place) :
    (Roots.mk workDir (dirs.map (base ++ ·))).rootOf? (base ++ place) =
      ((Roots.mk workDir' dirs).rootOf? place).map (base ++ ·) := by
  have htest : ((fun dir : Place => dir.isPrefixOf (base ++ place)) ∘ fun dir => base ++ dir) =
      fun dir => dir.isPrefixOf place := by
    funext dir
    rw [Function.comp_apply, Bool.eq_iff_iff, List.isPrefixOf_iff_prefix,
      List.isPrefixOf_iff_prefix, List.prefix_append_right_inj]
  rw [rootOf?, List.find?_map, htest]
  rfl

/-- The directory of a file seen from another one does not depend on a front that both share. -/
theorem directoryIn?_append (base : Place) (dir : Option Place) (place : Place) :
    directoryIn? (dir.map (base ++ ·)) (base ++ place) = directoryIn? dir place := by
  cases dir with
  | none => rfl
  | some dir =>
    unfold directoryIn?
    rw [Option.map_some, Option.bind_some, Option.bind_some, relativeTo?_append]

/-- Below any place a file has the directory relative to its root that it has below the top. -/
theorem relativeDir?_under (hbase : base.IsNormal) (hroots : ∀ root ∈ rootPaths, IsInside root)
    (hpath : IsInside path) :
    (under workDir base rootPaths).relativeDir? (Place.under base path) =
      (ofTexts [] rootPaths).relativeDir? path := by
  have hroots : under workDir base rootPaths =
      ⟨workDir, (rootPaths.map (resolve [])).map (base ++ ·)⟩ := by
    rw [← dirs_under workDir hbase hroots]
    rfl
  rw [relativeDir?, hroots]
  dsimp only
  rw [resolve_under workDir hbase hpath, rootOf?_append base workDir [], directoryIn?_append]
  rfl

/-- Below any place a file has the directory relative to the one above all roots that it has below the
top. -/
theorem commonDir?_under (hbase : base.IsNormal) (hroots : ∀ root ∈ rootPaths, IsInside root)
    (hpath : IsInside path) :
    (under workDir base rootPaths).commonDir? (Place.under base path) =
      (ofTexts [] rootPaths).commonDir? path := by
  have hroots : under workDir base rootPaths =
      ⟨workDir, (rootPaths.map (resolve [])).map (base ++ ·)⟩ := by
    rw [← dirs_under workDir hbase hroots]
    rfl
  rw [commonDir?, hroots, common?_append base workDir []]
  dsimp only
  rw [resolve_under workDir hbase hpath, directoryIn?_append]
  rfl

end

end Roots

end BeanGen

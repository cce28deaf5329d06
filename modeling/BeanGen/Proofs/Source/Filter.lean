import BeanGen.Proofs.Bean.Creation
import BeanGen.Proofs.Place.DirMatch
import BeanGen.Source.Filter
import Mathlib.Data.List.Forall2

/-!
# What the filters leave

A file is left out when the segments of a configured directory stand in a row in one of the two directories
that the file is seen from (`File.LiesInExcluded`, `Files.withoutExcluded_eq`). Ignored names take declarations
out of a file and nothing else (`File.KeepsRest`). One filter looks at paths only and the other one keeps them,
so the order of the two does not matter, and each removes nothing where it has been before
(`Files.filters_settle`).
-/

namespace BeanGen.Source

open Place (HasRow)
open Text (isBlankText)

/-! ## Excluded directories -/

section
variable {config : Config} {roots : Roots} {file : File}

/-- A directory of the configuration that is not blank stands in one of the two directories that the file is
seen from: from its root, or from above all roots. -/
def File.LiesInExcluded (config : Config) (roots : Roots) (file : File) : Prop :=
  ∃ suffix ∈ config.excludeDirSuffixes, isBlankText suffix = false ∧
    ∃ dir, (roots.relativeDir? file.path = some dir ∨ roots.commonDir? file.path = some dir) ∧
      HasRow dir suffix

/-- The test for excluded files finds those in excluded directories. -/
theorem File.isExcluded_iff :
    file.isExcluded roots (config.excludeDirSuffixes.filter (!isBlankText ·)) = true ↔
      file.LiesInExcluded config roots := by
  simp only [isExcluded, Bool.or_eq_true, List.any_eq_true, List.mem_filter, Bool.not_eq_true',
    matchesDir_iff, LiesInExcluded]
  constructor
  · rintro (⟨suffix, ⟨hmem, hblank⟩, dir, hdir, hrow⟩ | ⟨suffix, ⟨hmem, hblank⟩, dir, hdir, hrow⟩)
    · exact ⟨suffix, hmem, hblank, dir, .inl hdir, hrow⟩
    · exact ⟨suffix, hmem, hblank, dir, .inr hdir, hrow⟩
  · rintro ⟨suffix, hmem, hblank, dir, hdir | hdir, hrow⟩
    · exact .inl ⟨suffix, ⟨hmem, hblank⟩, dir, hdir, hrow⟩
    · exact .inr ⟨suffix, ⟨hmem, hblank⟩, dir, hdir, hrow⟩

instance (config : Config) (roots : Roots) (file : File) :
    Decidable (file.LiesInExcluded config roots) :=
  decidable_of_iff _ File.isExcluded_iff

/-- What stays when directories are excluded. -/
theorem Files.fst_withoutExcluded (config : Config) (roots : Roots) (files : Files) :
    (files.withoutExcluded config roots).1 =
      files.filter fun file => ¬ file.LiesInExcluded config roots := by
  refine List.filter_congr fun file _ => ?_
  rw [Bool.eq_iff_iff, decide_eq_true_iff, ← File.isExcluded_iff, Bool.not_eq_true', Bool.not_eq_true]

/-- How many files stay and how many are left out. -/
theorem Files.length_withoutExcluded (config : Config) (roots : Roots) (files : Files) :
    (files.withoutExcluded config roots).1.length + (files.withoutExcluded config roots).2 =
      files.length :=
  Nat.add_sub_cancel' (List.length_filter_le _ _)

/-- **Excluded directories.** A directory matches a suffix exactly when the segments of the suffix stand there
in a row. The files that stay are, in order, those that lie in no excluded directory, and the number of the
others is told. -/
theorem Files.withoutExcluded_eq :
    (∀ dir suffix, matchesDir dir suffix = true ↔ ∃ rel, dir = some rel ∧ HasRow rel suffix) ∧
    ∀ (config : Config) (roots : Roots) (files : Files),
      files.withoutExcluded config roots =
        (files.filter fun file => ¬ file.LiesInExcluded config roots,
          files.countP fun file => file.LiesInExcluded config roots) := by
  refine ⟨fun dir suffix => matchesDir_iff, fun config roots files => ?_⟩
  have hkept := Files.fst_withoutExcluded config roots files
  have hnumber := Files.length_withoutExcluded config roots files
  have hsplit := files.length_eq_countP_add_countP fun file => file.LiesInExcluded config roots
  refine Prod.ext hkept ?_
  rw [hkept, ← List.countP_eq_length_filter] at hnumber
  simp only [decide_eq_true_eq] at hsplit
  omega

end

/-! ## Ignored names -/

/-- A file has lost its declarations with the given names, and nothing else. -/
structure File.KeepsRest (names : List String) (whole part : File) : Prop where
  path : part.path = whole.path
  imports : part.imports = whole.imports
  declarations : part.declarations = whole.declarations.filter fun decl => decl.name ∉ names

section
variable (names : List String) (file : File)

/-- The declarations are counted. -/
theorem File.declarationCount_eq : file.declarationCount = file.declarations.length := by
  simp only [declarationCount, declarations, List.length_append, List.length_map]
  omega

/-- Leaving out names takes the declarations of these names away. -/
theorem File.keepsRest_withoutNames : file.KeepsRest names (file.withoutNames names) := by
  refine ⟨rfl, rfl, ?_⟩
  have hkind : ∀ {α : Type} (declare : α → Declaration) (name : α → String) (decls : List α),
      (∀ decl, (declare decl).name = name decl) →
        (decls.filter fun decl => !names.contains (name decl)).map declare =
          (decls.map declare).filter fun decl => decl.name ∉ names := by
    intro α declare name decls hname
    rw [List.filter_map]
    refine congrArg (List.map declare) (List.filter_congr fun decl _ => ?_)
    simp [hname]
  simp only [declarations, withoutNames, List.filter_append]
  rw [hkind .ofInterface (·.name) _ fun _ => rfl, hkind .ofEnum (·.name) _ fun _ => rfl,
    hkind .ofClass (·.name) _ fun _ => rfl, hkind .ofAlias (·.name) _ fun _ => rfl]

/-- Leaving out names a second time changes nothing. -/
theorem File.withoutNames_withoutNames :
    (file.withoutNames names).withoutNames names = file.withoutNames names := by
  simp only [withoutNames, List.filter_filter, Bool.and_self]

end

/-- All declarations are counted. -/
theorem Files.declarationCount_eq (files : Files) :
    files.declarationCount = files.declarations.length := by
  induction files with
  | nil => rfl
  | cons file files ih =>
    have hcons : declarationCount (file :: files) = file.declarationCount + declarationCount files := rfl
    rw [hcons, ih, File.declarationCount_eq, declarations, declarations, List.flatMap_cons,
      List.length_append, List.length_map]

/-- Leaving out ignored names takes the declarations of these names away. -/
theorem Files.declarations_withoutIgnored (config : Config) (files : Files) :
    (files.withoutIgnored config).1.declarations =
      files.declarations.filter fun entry => entry.2.name ∉ config.ignoreTsItems := by
  show Files.declarations (files.map (File.withoutNames config.ignoreTsItems)) = _
  rw [declarations, declarations, List.flatMap_map, List.filter_flatMap]
  refine List.flatMap_congr fun file _ => ?_
  rw [(file.keepsRest_withoutNames config.ignoreTsItems).declarations, List.filter_map]
  rfl

/-- How many declarations stay and how many are left out. -/
theorem Files.declarationCount_withoutIgnored (config : Config) (files : Files) :
    (files.withoutIgnored config).1.declarationCount + (files.withoutIgnored config).2 =
      files.declarationCount := by
  refine Nat.add_sub_cancel' ?_
  rw [declarationCount_eq files]
  refine Nat.le_trans (Nat.le_of_eq ?_)
    (List.length_filter_le (fun entry => entry.2.name ∉ config.ignoreTsItems) files.declarations)
  rw [← declarations_withoutIgnored, ← declarationCount_eq]

/-! ## The two filters together -/

/-- A filter settles: where it has been it removes nothing, and its number is the drop in size. -/
structure Files.Settles (filter : Files → Files × Nat) (size : Files → Nat) (files : Files) : Prop where
  again : filter (filter files).1 = ((filter files).1, 0)
  counted : size (filter files).1 + (filter files).2 = size files

section
variable (config : Config) (roots : Roots) (files : Files)

/-- A second time no more directories are excluded. -/
theorem Files.settles_withoutExcluded :
    Settles (·.withoutExcluded config roots) List.length files where
  again := by
    have hkept : ((files.withoutExcluded config roots).1.withoutExcluded config roots).1 =
        (files.withoutExcluded config roots).1 := by
      simp only [fst_withoutExcluded, List.filter_filter, Bool.and_self]
    have hnumber := length_withoutExcluded config roots (files.withoutExcluded config roots).1
    rw [hkept] at hnumber
    exact Prod.ext hkept (Nat.add_eq_left.1 hnumber)
  counted := length_withoutExcluded config roots files

/-- A second time no more names are ignored. -/
theorem Files.settles_withoutIgnored : Settles (·.withoutIgnored config) declarationCount files where
  again := by
    have hkept : ((files.withoutIgnored config).1.withoutIgnored config).1 =
        (files.withoutIgnored config).1 := by
      show (files.map _).map _ = files.map _
      rw [List.map_map]
      exact List.map_congr_left fun file _ => file.withoutNames_withoutNames config.ignoreTsItems
    have hnumber := declarationCount_withoutIgnored config (files.withoutIgnored config).1
    rw [hkept] at hnumber
    exact Prod.ext hkept (Nat.add_eq_left.1 hnumber)
  counted := declarationCount_withoutIgnored config files

/-- The number of ignored declarations is that of the declarations with ignored names. -/
theorem Files.snd_withoutIgnored :
    (files.withoutIgnored config).2 =
      files.declarations.countP fun entry => entry.2.name ∈ config.ignoreTsItems := by
  have hnumber := declarationCount_withoutIgnored config files
  have hsplit := files.declarations.length_eq_countP_add_countP
    fun entry => entry.2.name ∈ config.ignoreTsItems
  rw [declarationCount_eq, declarationCount_eq, declarations_withoutIgnored,
    ← List.countP_eq_length_filter] at hnumber
  simp only [decide_eq_true_eq] at hsplit
  omega

end

/-- Ignoring names leaves files where they are. -/
theorem File.liesInExcluded_withoutNames {config : Config} {roots : Roots} {names : List String}
    {file : File} :
    (file.withoutNames names).LiesInExcluded config roots ↔ file.LiesInExcluded config roots :=
  Iff.rfl

/-- **The filters commute and settle.** Excluding directories and ignoring names give the same files in either
order, and neither of them removes anything a second time. The files that stay are in order and unchanged; a
file keeps all declarations but those with ignored names, in order and unchanged. The number told is the drop
in the number of files, and of declarations. -/
theorem Files.filters_settle (excluding ignoring : Config) (roots : Roots) (files : Files) :
    ((files.withoutExcluded excluding roots).1.withoutIgnored ignoring).1 =
        ((files.withoutIgnored ignoring).1.withoutExcluded excluding roots).1 ∧
      Settles (·.withoutExcluded excluding roots) List.length files ∧
      Settles (·.withoutIgnored ignoring) declarationCount files ∧
      List.Sublist (files.withoutExcluded excluding roots).1 files ∧
      List.Forall₂ (File.KeepsRest ignoring.ignoreTsItems) files (files.withoutIgnored ignoring).1 ∧
      (files.withoutIgnored ignoring).2 =
        files.declarations.countP fun entry => entry.2.name ∈ ignoring.ignoreTsItems := by
  refine ⟨?_, files.settles_withoutExcluded excluding roots, files.settles_withoutIgnored ignoring, ?_, ?_,
    files.snd_withoutIgnored ignoring⟩
  · rw [fst_withoutExcluded, fst_withoutExcluded]
    show List.map _ (files.filter _) = (files.map _).filter _
    rw [List.filter_map]
    refine congrArg (List.map _) (List.filter_congr fun file _ => ?_)
    rw [Function.comp_apply, Bool.eq_iff_iff, decide_eq_true_iff, decide_eq_true_iff,
      File.liesInExcluded_withoutNames]
  · rw [fst_withoutExcluded]
    exact List.filter_sublist
  · show List.Forall₂ _ files (files.map (File.withoutNames ignoring.ignoreTsItems))
    rw [List.forall₂_map_right_iff, List.forall₂_same]
    exact fun file _ => file.keepsRest_withoutNames ignoring.ignoreTsItems

end BeanGen.Source

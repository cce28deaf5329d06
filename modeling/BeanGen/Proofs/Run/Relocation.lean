import BeanGen.Proofs.Bean.Order
import BeanGen.Proofs.Place.Relocation
import BeanGen.Proofs.Refine.Redeclared
import BeanGen.Proofs.Render.Congruence

/-!
# Where the project lies

A run reads the path of a source file in three places: the filter of excluded directories and the pass
that assigns packages look at the directories of the file relative to the roots, and the header shows
its last name. All else in a bean is made without its path, so files that are moved leave the same beans
with moved paths (`Registry.unlinkedBeans_refinedBeans_relocated`), and if the three places see the same
of the moved files, a run writes the same (`sourceOutputs_relocated`). Putting roots and files together
below another directory is such a move (`filteredOutputs_under`).
-/

namespace BeanGen

open Source (Declaration)

/-! ## Moved files -/

/-- The file with another path. -/
def Source.File.relocated (f : String → String) (file : Source.File) : Source.File :=
  { file with path := f file.path }

/-- The bean with another path of its file. -/
def Bean.relocated (f : String → String) (bean : Bean) : Bean :=
  { bean with sourcePath := bean.sourcePath.map f }

@[simp] theorem Bean.relocated_name (f : String → String) (bean : Bean) :
    (bean.relocated f).name = bean.name := rfl

section
variable (f : String → String)

/-- The declarations of moved files are those of the files, with moved paths. -/
theorem Source.Files.declarations_relocated (files : Source.Files) :
    Source.Files.declarations (files.map (File.relocated f)) =
      files.declarations.map fun entry => (f entry.1, entry.2) := by
  rw [declarations, declarations, List.flatMap_map, List.map_flatMap]
  refine List.flatMap_congr fun file _ => ?_
  rw [List.map_map]
  rfl

/-- The bean of a declaration in a moved file. -/
theorem Source.Declaration.bean_relocated (path : String) (decl : Declaration) :
    decl.bean (f path) = (decl.bean path).relocated f := by
  cases decl with
  | ofInterface | ofEnum | ofClass => rfl
  | ofAlias decl => simp only [bean]; split <;> rfl

/-- The helpers of a declaration in a moved file. -/
theorem Source.Declaration.helpers_relocated (registry : Registry) (path : String)
    (decl : Declaration) :
    decl.helpers registry (f path) = (decl.helpers registry path).map (Bean.relocated f) := by
  unfold helpers
  suffices ∀ made : List Bean,
      decl.members.foldl (withHelper registry decl.name (f path)) (made.map (Bean.relocated f)) =
        (decl.members.foldl (withHelper registry decl.name path) made).map (Bean.relocated f) from
    this []
  induction decl.members with
  | nil => exact fun _ => rfl
  | cons property rest ih =>
    intro made
    have hstep : withHelper registry decl.name (f path) (made.map (Bean.relocated f)) property =
        (withHelper registry decl.name path made property).map (Bean.relocated f) := by
      have hany : (made.map (Bean.relocated f)).any (·.name == helperName decl.name property) =
          made.any (·.name == helperName decl.name property) := by
        rw [List.any_map]
        rfl
      unfold withHelper
      rw [hany]
      split
      · split
        · rfl
        · rw [List.map_append]
          rfl
      · rfl
    rw [List.foldl_cons, List.foldl_cons, hstep, ih]

/-- Moved files make the same beans, with moved paths. -/
theorem Registry.unlinkedBeans_relocated (entries : List (String × Declaration)) :
    (ofDeclarations (entries.map fun entry => (f entry.1, entry.2))).unlinkedBeans =
      (ofDeclarations entries).unlinkedBeans.map (Bean.relocated f) :=
  unlinkedBeans_map (Bean.relocated_name f) (fun entry => entry.2.bean_relocated f entry.1)
    (fun registry entry => entry.2.helpers_relocated f registry entry.1) entries

end

/-- Every bean comes from the file of one of the declarations. -/
theorem MadeFrom.exists_sourcePath {entries : List (String × Declaration)} {bean : Bean}
    (h : MadeFrom entries bean) : ∃ entry ∈ entries, bean.sourcePath = some entry.1 := by
  cases h with
  | @declared path decl hdecl =>
    refine ⟨_, hdecl, ?_⟩
    cases decl with
    | ofInterface | ofEnum | ofClass => rfl
    | ofAlias decl => simp only [Declaration.bean]; split <;> rfl
  | helper hdecl => exact ⟨_, hdecl, rfl⟩

/-! ## Runs over moved files -/

section
variable {f : String → String} {registry registry' : Registry}
  (hbeans : registry'.unlinkedBeans = registry.unlinkedBeans.map (Bean.relocated f))
include hbeans

/-- Moved beans show the same under each name. -/
theorem Registry.content_bean?_relocated (name : String) :
    (registry'.bean? name).map Bean.content = (registry.bean? name).map Bean.content := by
  have hnamed : (fun bean : Bean => bean.name == name) ∘ Bean.relocated f = (·.name == name) := rfl
  have hcontent : Bean.content ∘ Bean.relocated f = Bean.content := rfl
  rw [Registry.bean?_eq_find?, Registry.bean?_eq_find?, hbeans, List.find?_map, Option.map_map, hnamed,
    hcontent]

/-- Moved beans have the same hosts. -/
theorem Registry.hostName?_relocated (bean : Bean) :
    registry'.hostName? (bean.relocated f) = registry.hostName? bean := by
  refine Registry.hostName?_congr rfl fun owner _ => ?_
  have hkind := congrArg (Option.map Bean.kind) (content_bean?_relocated hbeans owner)
  have hkept : Bean.kind ∘ Bean.content = Bean.kind := rfl
  rwa [Option.map_map, Option.map_map, hkept] at hkind

/-- Moved beans are given files of their own as before. -/
theorem Registry.isEmitted_relocated : registry'.isEmitted ∘ Bean.relocated f = registry.isEmitted := by
  funext bean
  rw [Function.comp_apply, Registry.isEmitted, Registry.isEmitted, hostName?_relocated hbeans,
    Bean.relocated_name]

/-- The moved helpers of an owner show the same. -/
theorem Registry.content_owned_relocated (owner : String) :
    (registry'.unlinkedBeans.filter (·.owner == some owner)).map Bean.content =
      (registry.unlinkedBeans.filter (·.owner == some owner)).map Bean.content := by
  have howned : (fun owned : Bean => owned.owner == some owner) ∘ Bean.relocated f =
      (·.owner == some owner) := rfl
  have hcontent : Bean.content ∘ Bean.relocated f = Bean.content := rfl
  rw [hbeans, List.filter_map, List.map_map, howned, hcontent]

end

section
variable {config : Config} {roots roots' : Roots} {f : String → String} {files : Source.Files}

/-- Every bean comes from one of the files. -/
theorem Registry.exists_file_of_mem {bean : Bean} (h : bean ∈ (ofFiles files).unlinkedBeans) :
    ∃ file ∈ files, bean.sourcePath = some file.path := by
  obtain ⟨entry, hentry, hpath⟩ := (madeFrom_of_mem_unlinkedBeans h).exists_sourcePath
  obtain ⟨file, hfile, hdecl⟩ := List.mem_flatMap.1 hentry
  obtain ⟨decl, -, rfl⟩ := List.mem_map.1 hdecl
  exact ⟨file, hfile, hpath⟩

/-- Moved files that are given the same packages leave the same beans, with moved paths. -/
theorem Registry.unlinkedBeans_refinedBeans_relocated
    (hpackage : ∀ file ∈ files, packageOf? config roots' (some (f file.path)) =
      packageOf? config roots (some file.path)) :
    (refinedBeans config roots' (files.map (Source.File.relocated f))).unlinkedBeans =
      (refinedBeans config roots files).unlinkedBeans.map (Bean.relocated f) := by
  have hrelocated : Bean.relocated f = Bean.redeclared (Option.map f) id := by
    funext bean
    have hfields : bean.fields.map (Field.redeclared id) = bean.fields := List.map_id _
    rw [Bean.redeclared, hfields]
    rfl
  have hbeans : (ofFiles (files.map (Source.File.relocated f))).unlinkedBeans =
      (ofFiles files).unlinkedBeans.map (Bean.relocated f) := by
    rw [ofFiles_eq, ofFiles_eq, Source.Files.declarations_relocated, unlinkedBeans_relocated]
  rw [hrelocated] at hbeans ⊢
  refine unlinkedBeans_refinedBeans_redeclared _ _ hbeans fun bean hbean => ?_
  obtain ⟨file, hfile, hpath⟩ := exists_file_of_mem hbean
  rw [hpath]
  exact hpackage file hfile

/-- Every bean that a run leaves comes from one of the files. -/
theorem Registry.exists_file_of_mem_refinedBeans {bean : Bean}
    (h : bean ∈ (refinedBeans config roots files).unlinkedBeans) :
    ∃ file ∈ files, bean.sourcePath = some file.path := by
  rw [unlinkedBeans_refinedBeans] at h
  obtain ⟨declared, hdeclared, rfl⟩ := List.mem_map.1 h
  obtain ⟨file, hfile, hpath⟩ := exists_file_of_mem hdeclared
  refine ⟨file, hfile, ?_⟩
  rw [Bean.unlinked_sourcePath, (declared.keepsDeclaration_refined config roots _).sourcePath, hpath]

/-- A run writes the same for moved files that are given the same packages and have the same names. -/
theorem sourceOutputs_relocated (outputDir : String)
    (hpackage : ∀ file ∈ files, packageOf? config roots' (some (f file.path)) =
      packageOf? config roots (some file.path))
    (hname : ∀ file ∈ files, ((some (f file.path)).filter (· != "")).map Place.fileName =
      ((some file.path).filter (· != "")).map Place.fileName) :
    sourceOutputs config roots' outputDir (files.map (Source.File.relocated f)) =
      sourceOutputs config roots outputDir files := by
  have hbeans := Registry.unlinkedBeans_refinedBeans_relocated hpackage
  rw [sourceOutputs_eq, sourceOutputs_eq, sourceUnits, sourceUnits, Writer.outputs_eq,
    Writer.outputs_eq, registry_runWriter, registry_runWriter, hbeans, List.filter_map,
    Registry.isEmitted_relocated hbeans]
  refine congrArg (List.map _) ?_
  rw [List.map_map]
  refine List.map_congr_left fun bean hbean => ?_
  obtain ⟨hmem, hemitted⟩ := List.mem_filter.1 hbean
  have htop := (Registry.isEmitted_iff.1 hemitted).2
  have hsource : (Writer.header bean).sourceFile = (Writer.header (bean.relocated f)).sourceFile := by
    obtain ⟨file, hfile, hpath⟩ := Registry.exists_file_of_mem_refinedBeans hmem
    rw [Writer.header, Writer.header, Bean.relocated, hpath]
    exact (hname file hfile).symm
  have hunit : (runWriter config roots files).unit bean =
      (runWriter config roots' (files.map (Source.File.relocated f))).unit (bean.relocated f) := by
    refine unit_runWriter_congr hmem (hbeans ▸ List.mem_map_of_mem hmem) htop
      ((Registry.hostName?_relocated hbeans bean).trans htop) rfl hsource
      (Registry.content_owned_relocated hbeans bean.name).symm ?_
    intro shown _ _ type _ name _ _ _ _
    exact Writer.site?_congr (Registry.content_bean?_relocated hbeans _).symm fun _ _ _ _ =>
      (Registry.content_bean?_relocated hbeans _).symm
  rw [Function.comp_apply, ← hunit]
  rfl

end

/-! ## Roots and files below another directory -/

/-- The path of a source file below some directory: it stays inside and has a piece. -/
structure Place.IsFilePath (path : String) : Prop where
  inside : IsInside path
  pieces : pieces path ≠ []

/-- What a run writes for declarations from files below the roots, apart from those that the
configuration leaves out. -/
def filteredOutputs (config : Config) (roots : Roots) (outputDir : String) (files : Source.Files) :
    List Output :=
  sourceOutputs config roots outputDir ((files.withoutExcluded config roots).1.withoutIgnored config).1

section
variable {base : Place} {rootPaths : List String} {path : String} (config : Config) (workDir : Place)
  (hbase : base.IsNormal) (hroots : ∀ root ∈ rootPaths, Place.IsInside root)

/-- A path that is not empty is the path of a file. -/
theorem Place.IsFilePath.ne_empty (h : IsFilePath path) : path ≠ "" := by
  rintro rfl
  exact h.pieces rfl

/-- A path below a directory is not empty. -/
theorem Place.under_ne_empty (base : Place) (h : IsInside path) : under base path ≠ "" := by
  intro heq
  have habsolute := isAbsoluteText_under base h.1
  rw [heq] at habsolute
  cases habsolute

include hbase hroots

/-- Below any directory a file is given the package that it is given below the top. -/
theorem packageOf?_under (hpath : Place.IsFilePath path) :
    packageOf? config (Roots.under workDir base rootPaths) (some (Place.under base path)) =
      packageOf? config (Roots.ofTexts [] rootPaths) (some path) := by
  have hfilter : ∀ path : String, path ≠ "" → (some path).filter (· != "") = some path := by
    intro path hne
    rw [Option.filter_some, if_pos (by simpa using hne)]
  rw [packageOf?, packageOf?, hfilter _ (Place.under_ne_empty base hpath.inside), hfilter _ hpath.ne_empty]
  dsimp only
  rw [Roots.relativeDir?_under workDir hbase hroots hpath.inside,
    Roots.commonDir?_under workDir hbase hroots hpath.inside]

/-- Below any directory the same declarations stay that stay below the top. -/
theorem keptFiles_under {files : Source.Files} (hfiles : ∀ file ∈ files, Place.IsFilePath file.path) :
    ((Source.Files.withoutExcluded config (Roots.under workDir base rootPaths)
        (files.map (Source.File.relocated (Place.under base)))).1.withoutIgnored config).1 =
      ((files.withoutExcluded config (Roots.ofTexts [] rootPaths)).1.withoutIgnored config).1.map
        (Source.File.relocated (Place.under base)) := by
  have hexcluded : ∀ suffixes, ∀ file ∈ files,
      ((file.relocated (Place.under base)).isExcluded (Roots.under workDir base rootPaths) suffixes) =
        file.isExcluded (Roots.ofTexts [] rootPaths) suffixes := by
    intro suffixes file hfile
    have hinside := (hfiles file hfile).inside
    have hpath : (file.relocated (Place.under base)).path = Place.under base file.path := rfl
    rw [Source.File.isExcluded, hpath, Roots.relativeDir?_under workDir hbase hroots hinside,
      Roots.commonDir?_under workDir hbase hroots hinside]
    rfl
  unfold Source.Files.withoutExcluded Source.Files.withoutIgnored
  dsimp only
  rw [List.filter_map, List.map_map, List.map_map]
  have hkept : files.filter ((fun file => !file.isExcluded (Roots.under workDir base rootPaths)
        (config.excludeDirSuffixes.filter fun suffix => !Text.isBlankText suffix)) ∘
          Source.File.relocated (Place.under base)) =
      files.filter fun file => !file.isExcluded (Roots.ofTexts [] rootPaths)
        (config.excludeDirSuffixes.filter fun suffix => !Text.isBlankText suffix) :=
    List.filter_congr fun file hfile => by rw [Function.comp_apply, hexcluded _ file hfile]
  rw [hkept]
  rfl

/-- Below any directory a run writes what it writes below the top. -/
theorem filteredOutputs_under (outputDir : String) {files : Source.Files}
    (hfiles : ∀ file ∈ files, Place.IsFilePath file.path) :
    filteredOutputs config (Roots.under workDir base rootPaths) outputDir
        (files.map (Source.File.relocated (Place.under base))) =
      filteredOutputs config (Roots.ofTexts [] rootPaths) outputDir files := by
  have hpaths : ∀ file ∈
      ((files.withoutExcluded config (Roots.ofTexts [] rootPaths)).1.withoutIgnored config).1,
      Place.IsFilePath file.path := by
    intro file hfile
    obtain ⟨kept, hkept, rfl⟩ := List.mem_map.1 hfile
    exact hfiles kept (List.mem_of_mem_filter hkept)
  rw [filteredOutputs, filteredOutputs, keptFiles_under config workDir hbase hroots hfiles]
  refine sourceOutputs_relocated outputDir (fun file hfile => ?_) fun file hfile => ?_
  · exact packageOf?_under config workDir hbase hroots (hpaths file hfile)
  · have hpath := hpaths file hfile
    have hunder := Place.under_ne_empty base hpath.inside
    rw [Option.filter_some, if_pos (by simpa using hunder), Option.filter_some,
      if_pos (by simpa using hpath.ne_empty), Option.map_some, Option.map_some,
      Place.fileName_under hbase hpath.inside hpath.pieces]

end

/-- What a run writes does not depend on the directory that roots and files lie in together. -/
theorem filteredOutputs_eq_of_under (config : Config) (outputDir : String) (workDir workDir' : Place)
    {base base' : Place} {rootPaths : List String} {files : Source.Files}
    (hbase : base.IsNormal) (hbase' : base'.IsNormal)
    (hroots : ∀ root ∈ rootPaths, Place.IsInside root)
    (hfiles : ∀ file ∈ files, Place.IsFilePath file.path) :
    filteredOutputs config (Roots.under workDir base rootPaths) outputDir
        (files.map (Source.File.relocated (Place.under base))) =
      filteredOutputs config (Roots.under workDir' base' rootPaths) outputDir
        (files.map (Source.File.relocated (Place.under base'))) := by
  rw [filteredOutputs_under config workDir hbase hroots outputDir hfiles,
    filteredOutputs_under config workDir' hbase' hroots outputDir hfiles]

/-- A file in the second of two nested roots, whose path takes a step up. -/
def nestedRootFiles : Source.Files :=
  [{ path := "src/x/../b/a.ts", interfaces := [{ name := "A" }] }]

/-- The file leads to the same Java below the top and below another directory. -/
theorem filteredOutputs_nestedRootFiles :
    (Place.IsNormal [] ∧ Place.IsNormal ["home", "x"] ∧
      (∀ root ∈ ["src/b", "src"], Place.IsInside root) ∧
      ∀ file ∈ nestedRootFiles, Place.IsFilePath file.path) ∧
    filteredOutputs { basePackage := some "com" } (Roots.under [] [] ["src/b", "src"]) "out"
        (nestedRootFiles.map (Source.File.relocated (Place.under []))) =
      filteredOutputs { basePackage := some "com" } (Roots.under [] ["home", "x"] ["src/b", "src"])
        "out" (nestedRootFiles.map (Source.File.relocated (Place.under ["home", "x"]))) := by
  have hbase : Place.IsNormal [] := List.forall_mem_nil _
  have hbase' : Place.IsNormal ["home", "x"] := by
    unfold Place.IsNormal
    decide
  have hroots : ∀ root ∈ ["src/b", "src"], Place.IsInside root := by
    unfold Place.IsInside
    decide
  have hfiles : ∀ file ∈ nestedRootFiles, Place.IsFilePath file.path := by
    intro file hfile
    obtain rfl := List.mem_singleton.1 hfile
    exact ⟨by unfold Place.IsInside; decide, by decide⟩
  exact ⟨⟨hbase, hbase', hroots, hfiles⟩,
    filteredOutputs_eq_of_under { basePackage := some "com" } "out" [] [] hbase hbase' hroots hfiles⟩

end BeanGen

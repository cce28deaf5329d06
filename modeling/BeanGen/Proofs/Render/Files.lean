import BeanGen.Proofs.Java.Name
import BeanGen.Proofs.Place.Path
import BeanGen.Proofs.Render.Nesting

/-!
# Which declaration a file is written for

A file is found by its name: it is that of the bean with a `.java` behind it (`fileName_pathOf`), names
of beans are distinct, and so there is at most one file of a name, written for what the registry holds
under it (`Writer.filter_outputs`). The registry holds the last declaration of a name, and every bean of
a declaration gets a file. A declared name is lost in one case only. A member with an empty name derives
a helper named like its owner; if the name is still free when the owner is declared, the helper takes
the place of its own owner, and is then nested nowhere, because it would be nested in itself.
-/

namespace BeanGen

open Java (isIdentifier isName)

namespace Writer

section
variable {writer : Writer} {outputDir : String} {bean : Bean}

/-- The last name in the path of a source file is the name of its bean with `.java` behind it. -/
theorem fileName_pathOf (h : isIdentifier bean.name = true) :
    Place.fileName (pathOf outputDir bean) = bean.name ++ ".java" := by
  refine Place.fileName_joinTexts_concat _ ?_ ?_ ?_
  · rw [String.toList_append, List.mem_append]
    rintro (hname | hending)
    · rcases Java.isNamePart_or_eq_of_isIdentifier h hname with hpart | hbreak
      · exact absurd hpart (by decide)
      · exact absurd hbreak (by decide)
    · exact absurd hending (by decide)
  · exact fun heq => absurd (congrArg String.length heq) (by simp)
  · intro heq
    have hlength := congrArg String.length heq
    rw [String.length_append] at hlength
    have hending : ".java".length = 5 := rfl
    have hdot : ".".length = 1 := rfl
    omega

/-- The links of a bean are not written. -/
theorem unit_unlinked (writer : Writer) (bean : Bean) :
    writer.unit bean.unlinked = writer.unit bean := by
  have hclass : ∀ depth, writer.classDecl bean.package depth bean.unlinked =
      writer.classDecl bean.package depth bean := by
    intro depth
    cases depth <;> rfl
  have htype : writer.typeDecl bean.unlinked = writer.typeDecl bean := by
    unfold typeDecl
    rw [Bean.unlinked_kind, Bean.unlinked_package, hclass]
    rfl
  unfold unit
  rw [htype]
  rfl

/-- The links of a bean do not matter for its path. -/
theorem pathOf_unlinked (outputDir : String) (bean : Bean) :
    pathOf outputDir bean.unlinked = pathOf outputDir bean := rfl

/-- Of the beans that get a file at most one has a given name. -/
theorem filter_emitted (writer : Writer) (name : String) :
    writer.emitted.filter (·.name == name) =
      ((writer.registry.beans.find? (·.name == name)).filter writer.registry.isEmitted).toList := by
  have hswap : writer.emitted.filter (·.name == name) =
      (writer.registry.beans.filter (·.name == name)).filter writer.registry.isEmitted := by
    rw [emitted_eq, List.filter_filter, List.filter_filter]
    exact List.filter_congr fun bean _ => Bool.and_comm _ _
  rw [hswap, Registry.filter_name]
  cases writer.registry.beans.find? (·.name == name) with
  | none => rfl
  | some bean =>
    rw [Option.toList_some, Option.filter_some]
    by_cases hshown : writer.registry.isEmitted bean = true <;> simp [hshown]

/-- The file of a name is that of the bean which the registry holds under it, if this bean gets one. -/
theorem filter_outputs {name : String} :
    (writer.outputs outputDir).filter (fun output => Place.fileName output.1 == name ++ ".java") =
      ((writer.registry.bean? name).filter writer.registry.isEmitted).toList.map fun bean =>
        (pathOf outputDir bean, writer.unit bean) := by
  have hnamed : ∀ bean ∈ writer.emitted,
      (Place.fileName (pathOf outputDir bean) == name ++ ".java") = (bean.name == name) := by
    intro bean hbean
    rw [emitted_eq, List.mem_filter, Registry.isEmitted_iff] at hbean
    rw [fileName_pathOf hbean.2.1, Bool.eq_iff_iff, beq_iff_eq, beq_iff_eq]
    exact ⟨fun heq => by simpa using heq, fun heq => by rw [heq]⟩
  have htest : writer.emitted.filter
        ((fun output : String × Java.SourceUnit => Place.fileName output.1 == name ++ ".java") ∘
          fun bean => (pathOf outputDir bean, writer.unit bean)) =
      writer.emitted.filter (·.name == name) := List.filter_congr hnamed
  rw [outputs, List.filter_map, htest, filter_emitted, Registry.bean?]
  cases writer.registry.beans.find? (·.name == name) with
  | none => rfl
  | some bean =>
    have hshown : writer.registry.isEmitted bean.unlinked = writer.registry.isEmitted bean := rfl
    rw [Option.map_some, Option.filter_some, Option.filter_some, hshown]
    split
    · simp only [Option.toList_some, List.map_singleton, unit_unlinked, pathOf_unlinked]
    · rfl

end

end Writer

/-! ## The last declaration of a name -/

/-- A declaration is nested nowhere, so its bean gets a file if its name can be declared. -/
theorem isEmitted_bean {registry : Registry} {path : String} {decl : Source.Declaration}
    (hname : isIdentifier decl.name = true) : registry.isEmitted (decl.bean path) = true := by
  rw [Registry.isEmitted_iff, Source.Declaration.bean_name, Registry.hostName?,
    Source.Declaration.bean_owner]
  exact ⟨hname, rfl⟩

section
variable (config : Config) (roots : Roots) (files : Source.Files) (outputDir : String)

/-- What a run holds under a name it prints as the bean of the declarations, refined. -/
theorem filter_outputs_refinedBeans (name : String) :
    (sourceUnits config roots files outputDir).filter
        (fun output => Place.fileName output.1 == name ++ ".java") =
      (((Registry.ofFiles files).bean? name).filter (Registry.ofFiles files).isEmitted).toList.map
        fun bean =>
          (Writer.pathOf outputDir (bean.refined config roots (Registry.ofFiles files)),
            (runWriter config roots files).unit
              (bean.refined config roots (Registry.ofFiles files))) := by
  rw [sourceUnits, Writer.filter_outputs, registry_runWriter, bean?_refinedBeans]
  cases hview : (Registry.ofFiles files).bean? name with
  | none => simp only [Option.map_none, Option.filter_none, Option.toList_none, List.map_nil]
  | some bean =>
    have hkeeps := bean.keepsDeclaration_refined config roots (Registry.ofFiles files)
    have hshown : (refinedBeans config roots files).isEmitted
        (bean.refined config roots (Registry.ofFiles files)).unlinked =
          (Registry.ofFiles files).isEmitted bean := by
      rw [Registry.isEmitted, Registry.isEmitted, Bean.unlinked_name, hkeeps.name,
        Registry.hostName?_congr ((Bean.unlinked_owner _).trans hkeeps.owner) fun owner _ =>
          Registry.kind_refinedBeans config roots files owner]
    rw [Option.map_some, Option.filter_some, Option.filter_some, hshown]
    split
    · simp only [Option.toList_some, List.map_singleton, Writer.unit_unlinked,
        Writer.pathOf_unlinked]
    · simp only [Option.toList_none, List.map_nil]

/-- A bean of a declaration gets its file, if its name can be declared. -/
theorem mem_sourceUnits {path : String} {decl : Source.Declaration}
    (hbean : (Registry.ofFiles files).bean? decl.name = some (decl.bean path))
    (hname : isIdentifier decl.name = true) :
    (Writer.pathOf outputDir ((decl.bean path).refined config roots (Registry.ofFiles files)),
      (runWriter config roots files).unit
        ((decl.bean path).refined config roots (Registry.ofFiles files))) ∈
      sourceUnits config roots files outputDir := by
  have hfile := filter_outputs_refinedBeans config roots files outputDir decl.name
  rw [hbean, Option.filter_some, if_pos (isEmitted_bean hname)] at hfile
  refine List.mem_of_mem_filter (p := fun output =>
    Place.fileName output.1 == decl.name ++ ".java") ?_
  rw [hfile]
  exact List.mem_singleton_self _

/-- For the last declaration of a name there is exactly one file of that name, and it is written for this
declaration, unless the declaration derives its own name and nothing before it has given rise to the
name; then there is none. -/
theorem outputs_of_lastDeclaration {front back : List (String × Source.Declaration)} {path : String}
    {decl : Source.Declaration} (hfiles : files.declarations = front ++ (path, decl) :: back)
    (hlast : ∀ later ∈ back, later.2.name ≠ decl.name) (hname : isName decl.name = true) :
    (sourceUnits config roots files outputDir).filter
        (fun output => Place.fileName output.1 == decl.name ++ ".java") =
      if decl.derivesOwnName ∧ ∀ entry ∈ front, decl.name ∉ entry.2.names then []
      else
        [(Writer.pathOf outputDir ((decl.bean path).refined config roots (Registry.ofFiles files)),
          (runWriter config roots files).unit
            ((decl.bean path).refined config roots (Registry.ofFiles files)))] := by
  have hregistry : Registry.ofFiles files =
      Registry.ofDeclarations (front ++ (path, decl) :: back) := by
    rw [Registry.ofFiles_eq, hfiles]
  rw [filter_outputs_refinedBeans]
  split
  · next hlost =>
    have hdisplaced := Registry.bean?_last_of_derivesOwnName path hlast hlost.1 hlost.2
    rw [← hregistry] at hdisplaced
    obtain ⟨helper, hview, hkind, howner⟩ := hdisplaced
    have hnested : (Registry.ofFiles files).hostName? helper = some decl.name := by
      rw [Registry.hostName?, howner, Option.filter_some, hview]
      have hnonempty : decl.name ≠ "" := fun heq => absurd hname (by rw [heq]; decide)
      simp [hkind, hnonempty]
    have hhidden : (Registry.ofFiles files).isEmitted helper = false := by
      rw [Registry.isEmitted, hnested, Option.isNone_some, Bool.and_false]
    rw [hview, Option.filter_some, if_neg (by rw [hhidden]; exact Bool.false_ne_true)]
    simp only [Option.toList_none, List.map_nil]
  · next hkept =>
    have hview : (Registry.ofFiles files).bean? decl.name = some (decl.bean path) := by
      rw [hregistry]
      refine Registry.bean?_last hlast fun hown => ?_
      by_contra hfree
      exact hkept ⟨hown, fun entry hentry hmem => hfree ⟨entry, hentry, hmem⟩⟩
    rw [hview, Option.filter_some, if_pos (isEmitted_bean (Java.isIdentifier_of_isName hname))]
    simp only [Option.toList_some, List.map_singleton]

end

/-- A name that is declared twice: `interface A {}` and then `enum A {}`. -/
def declaredTwice : Source.Files :=
  [{ path := "/p/a.ts", interfaces := [{ name := "A" }], enums := [{ name := "A" }] }]

/-- Of the two declarations the enum gets the file. -/
theorem outputs_declaredTwice :
    (∀ later ∈ ([] : List (String × Source.Declaration)), later.2.name ≠ "A") ∧
      isName "A" = true ∧
      (sourceUnits default ⟨[], []⟩ declaredTwice "out").filter
          (fun output => Place.fileName output.1 == "A" ++ ".java") =
        [(Writer.pathOf "out" (((Source.Declaration.ofEnum { name := "A" }).bean "/p/a.ts").refined
            default ⟨[], []⟩ (Registry.ofFiles declaredTwice)),
          (runWriter default ⟨[], []⟩ declaredTwice).unit
            (((Source.Declaration.ofEnum { name := "A" }).bean "/p/a.ts").refined
              default ⟨[], []⟩ (Registry.ofFiles declaredTwice)))] := by
  have hlast : ∀ later ∈ ([] : List (String × Source.Declaration)), later.2.name ≠ "A" := by simp
  have hfiles : declaredTwice.declarations =
      [("/p/a.ts", .ofInterface { name := "A" })] ++ ("/p/a.ts", .ofEnum { name := "A" }) :: [] := rfl
  have hfile := outputs_of_lastDeclaration default ⟨[], []⟩ declaredTwice "out" hfiles hlast
    (by decide)
  rw [if_neg (by decide)] at hfile
  exact ⟨hlast, by decide, hfile⟩

/-- An interface with a member that has an empty name and needs a helper:
`interface A { '': { n: string } }`. -/
def emptyMember : Source.Files :=
  [{ path := "/p/a.ts"
     interfaces := [{
       name := "A"
       properties := [{
         name := ""
         type := "\x7b n: string \x7d"
         members := some [{ name := "n", type := "string" }] }] }] }]

/-- Not every declared name gets its file: the interface is displaced by its own helper. -/
theorem not_forall_lastDeclaration_printed :
    ¬∀ (config : Config) (roots : Roots) (files : Source.Files) (outputDir : String)
        (front back : List (String × Source.Declaration)) (path : String)
        (decl : Source.Declaration),
      files.declarations = front ++ (path, decl) :: back →
      (∀ later ∈ back, later.2.name ≠ decl.name) → isName decl.name = true →
      (sourceUnits config roots files outputDir).filter
          (fun output => Place.fileName output.1 == decl.name ++ ".java") =
        [(Writer.pathOf outputDir ((decl.bean path).refined config roots (Registry.ofFiles files)),
          (runWriter config roots files).unit
            ((decl.bean path).refined config roots (Registry.ofFiles files)))] := by
  intro h
  have hfile := h default ⟨[], []⟩ emptyMember "out" [] [] "/p/a.ts" _ rfl (by simp) (by decide)
  have hnone : (((Registry.ofFiles emptyMember).bean? "A").filter
      (Registry.ofFiles emptyMember).isEmitted).isNone = true := by
    decide
  have hlost := filter_outputs_refinedBeans default ⟨[], []⟩ emptyMember "out" "A"
  rw [Option.isNone_iff_eq_none.1 hnone, Option.toList_none, List.map_nil] at hlost
  exact List.cons_ne_nil _ _ (hfile.symm.trans hlost)

end BeanGen

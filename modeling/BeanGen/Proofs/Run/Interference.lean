import BeanGen.Proofs.Bean.Separation
import BeanGen.Proofs.Refine.Lookup
import BeanGen.Proofs.Refine.Mentions
import BeanGen.Proofs.Render.Congruence

/-!
# Unrelated source files

A source file whose names are unrelated to the other declarations and to the configuration, and that a
run does not make up either, adds its own files to what a run writes and leaves the others as they are
(`sublist_sourceOutputs`): with the file and without it the other beans are the same
(`Registry.unlinkedBeans_refinedBeans_insert`), and the names in their types that are looked up are no
names of the file (`ne_of_mem_written`).

That the run does not make the names up has to be asked for, because the writer asks for every name in a
type whether it is one of a generated type. A number is written as `double`, and where a type of this
name is declared the writer takes it for that type (`not_forall_mem_sourceOutputs`). A helper name with
a line break at its end is trimmed before it is looked up, so it may meet another name. And an expression
that is put together from texts with unbalanced brackets may be cut at other places when it is read
again, so that it has names which no text has.
-/

namespace BeanGen

open Text
open Java (isIdentifier)
open Source (Declaration)

/-! ## The declarations of an additional file -/

/-- The names that the declarations of a file give rise to. -/
def Source.File.names (file : Source.File) : List String :=
  file.declarations.flatMap Declaration.names

namespace Source.Files

section
variable {front back : Files} {extra : File}

/-- The declarations of files are those of the first files and then those of the others. -/
theorem declarations_append : (front ++ back).declarations = front.declarations ++ back.declarations :=
  List.flatMap_append

/-- The additional declarations stand between those of the other files. -/
theorem declarations_insert :
    (front ++ extra :: back).declarations =
      front.declarations ++ extra.declarations.map (extra.path, ·) ++ back.declarations := by
  rw [declarations, List.flatMap_append, List.flatMap_cons, List.append_assoc]
  rfl

variable (hfresh : ∀ name ∈ extra.names, ∀ entry ∈ (front ++ back).declarations, name ∉ entry.2.names)
include hfresh

/-- The names of an additional file separate its declarations from the others. -/
theorem separates_insert : Separates extra.names (front ++ extra :: back).declarations := by
  intro entry hentry
  rw [declarations_insert, List.append_assoc, List.mem_append, List.mem_append] at hentry
  have hother : entry ∈ (front ++ back).declarations → entry.2.names.Disjoint extra.names :=
    fun hmem name hname hlisted => hfresh name hlisted entry hmem hname
  rcases hentry with hfront | hextra | hback
  · exact .inr (hother (by rw [declarations_append]; exact List.mem_append_left _ hfront))
  · obtain ⟨decl, hdecl, rfl⟩ := List.mem_map.1 hextra
    exact .inl fun name hname => List.mem_flatMap.2 ⟨decl, hdecl, hname⟩
  · exact .inr (hother (by rw [declarations_append]; exact List.mem_append_right _ hback))

/-- Without the additional declarations the others are left. -/
theorem without_insert :
    without extra.names (front ++ extra :: back).declarations = (front ++ back).declarations := by
  have hkept : ∀ entries ⊆ (front ++ back).declarations, without extra.names entries = entries := by
    intro entries hsub
    refine List.filter_eq_self.2 fun entry hentry => ?_
    have hname : entry.2.name ∉ extra.names := fun hlisted =>
      hfresh _ hlisted entry (hsub hentry) List.mem_cons_self
    simpa using hname
  have hdropped : without extra.names (extra.declarations.map (extra.path, ·)) = [] := by
    refine List.filter_eq_nil_iff.2 fun entry hentry => ?_
    obtain ⟨decl, hdecl, rfl⟩ := List.mem_map.1 hentry
    have hname : decl.name ∈ extra.names := List.mem_flatMap.2 ⟨decl, hdecl, List.mem_cons_self⟩
    simpa using hname
  rw [declarations_append] at hkept
  rw [declarations_insert, declarations_append, without, List.filter_append, List.filter_append,
    ← without, ← without, ← without, hkept _ (List.subset_append_left _ _), hdropped,
    hkept _ (List.subset_append_right _ _), List.append_nil]

end

end Source.Files

/-! ## Names that the other beans refer to -/

/-- The types that are written of a bean avoid what the bean avoids. -/
theorem Bean.Avoids.of_mem_written {name : List Char} {bean : Bean} (h : bean.Avoids name)
    {type : String} (htype : type ∈ bean.written) : TypeText.Avoids name type.toList := by
  rcases List.mem_append.1 htype with hheritage | hfield
  · rcases List.mem_append.1 hheritage with hbase | hinterface
    · exact h.base type (by simpa using hbase)
    · exact h.interfaces type hinterface
  · obtain ⟨field, hdeclared, rfl⟩ := List.mem_map.1 hfield
    obtain ⟨hmem, hdeclarable⟩ := List.mem_filter.1 hdeclared
    exact h.fields field hmem hdeclarable

section
variable {config : Config} {roots : Roots} {files : Source.Files} {name : String}

/-- A name in a type that a run writes is no unrelated and uncoined name, unless it is written as it is
wherever it stands. -/
theorem ne_of_mem_written (hunrelated : Source.Unrelated config files.declarations name)
    (huncoined : Source.Uncoined files.declarations name) {bean : Bean}
    (hmem : bean ∈ (refinedBeans config roots files).unlinkedBeans)
    (hshown : bean.owner = none → isIdentifier bean.name = true) {type : String}
    (htype : type ∈ bean.written) {leaf : List Char} (hleaf : leaf ∈ TypeText.names type.toList)
    (hne : String.ofList leaf ≠ "") (hdot : '.' ∉ leaf)
    (hlibrary : Java.libraryName? (String.ofList leaf) = none) : String.ofList leaf ≠ name := by
  rintro rfl
  have hplain : TypeText.IsPlain leaf :=
    { ne_nil := by simpa using hne
      trimmed := (TypeText.spec_of_mem_names _ hleaf).1
      unstructured := by simpa using huncoined.unstructured }
  have hmapping : String.ofList leaf ∉ TypeText.mappingNames := by
    intro hname
    have hprimitive := huncoined.primitive
    simp only [TypeText.mappingNames, List.mem_cons, List.not_mem_nil, or_false] at hname hprimitive
    rcases hname with htext | hobject | hown
    · rw [htext] at hlibrary
      exact absurd hlibrary (by decide)
    · rw [hobject] at hlibrary
      exact absurd hlibrary (by decide)
    · exact hprimitive hown
  have hconfig : ∀ text ∈ config.typeTexts, ¬ Mentions leaf text.toList := by
    simpa using hunrelated.unconfigured
  rw [unlinkedBeans_refinedBeans] at hmem
  obtain ⟨declared, hdeclared, rfl⟩ := List.mem_map.1 hmem
  have hkeeps := declared.keepsDeclaration_refined config roots (Registry.ofFiles files)
  have havoids : declared.Avoids (String.ofList leaf).toList := by
    have hmade := Registry.madeFrom_of_mem_unlinkedBeans hdeclared
    refine hmade.avoids hunrelated huncoined ?_ ?_ hmapping fun howner => ?_
    · rwa [String.toList_ofList]
    · rwa [String.toList_ofList]
    · rw [← hkeeps.name, ← Bean.unlinked_name]
      exact hshown (by rw [Bean.unlinked_owner, hkeeps.owner, howner])
  rw [String.toList_ofList] at havoids
  have hwritten := (havoids.refined hplain hconfig).unlinked.of_mem_written htype
  exact hwritten.notMem_names hplain hleaf

end

/-! ## Runs with an additional file -/

section
variable {config : Config} (roots : Roots) {front back : Source.Files} {extra : Source.File}
  (hunrelated : ∀ name ∈ extra.names, Source.Unrelated config (front ++ back).declarations name)
  (huncoined : ∀ name ∈ extra.names, Source.Uncoined (front ++ back).declarations name)

namespace Registry

include hunrelated in
/-- An additional file adds the beans of its names to those of the declarations. -/
theorem unlinkedBeans_ofFiles_insert :
    (ofFiles (front ++ extra :: back)).unlinkedBeans.filter
        (fun bean => !extra.names.contains bean.name) =
      (ofFiles (front ++ back)).unlinkedBeans := by
  have hfresh : ∀ name ∈ extra.names, ∀ entry ∈ (front ++ back).declarations, name ∉ entry.2.names :=
    fun name hname => (hunrelated name hname).fresh
  rw [ofFiles_eq, ofFiles_eq, unlinkedBeans_filter_separated (Source.Files.separates_insert hfresh),
    Source.Files.without_insert hfresh]

include hunrelated huncoined

/-- With an additional file and without it the other beans are refined alike. -/
theorem unlinked_refined_insert {bean : Bean} (hmem : bean ∈ (ofFiles (front ++ back)).unlinkedBeans) :
    (bean.refined config roots (ofFiles (front ++ extra :: back))).unlinked =
      (bean.refined config roots (ofFiles (front ++ back))).unlinked := by
  refine Bean.unlinked_refined_congr fun base hbase hblank => ?_
  have hother : base ∉ extra.names := fun hname =>
    (madeFrom_of_mem_unlinkedBeans hmem).base_prepared_ne (hunrelated base hname)
      (huncoined base hname) hblank roots _ hbase
  rw [isKnownBase, isKnownBase, contains_eq, contains_eq,
    bean?_of_filter (unlinkedBeans_ofFiles_insert hunrelated) hother]

/-- An additional file adds the beans of its names to those of the run. -/
theorem unlinkedBeans_refinedBeans_insert :
    (refinedBeans config roots (front ++ extra :: back)).unlinkedBeans.filter
        (fun bean => !extra.names.contains bean.name) =
      (refinedBeans config roots (front ++ back)).unlinkedBeans := by
  have hkept : (fun bean : Bean => !extra.names.contains bean.name) ∘ (fun bean : Bean =>
        (bean.refined config roots (ofFiles (front ++ extra :: back))).unlinked) =
      fun bean => !extra.names.contains bean.name := by
    funext bean
    rw [Function.comp_apply, Bean.unlinked_name, (bean.keepsDeclaration_refined config roots _).name]
  rw [unlinkedBeans_refinedBeans, unlinkedBeans_refinedBeans, List.filter_map, hkept,
    unlinkedBeans_ofFiles_insert hunrelated]
  exact List.map_congr_left fun bean hbean =>
    unlinked_refined_insert roots hunrelated huncoined hbean

omit huncoined in
/-- The name of a helper is one of the additional file when that of its owner is. -/
theorem owner_mem_names_iff {bean : Bean} {owner : String}
    (hmem : bean ∈ (refinedBeans config roots (front ++ extra :: back)).unlinkedBeans)
    (howner : bean.owner = some owner) : owner ∈ extra.names ↔ bean.name ∈ extra.names := by
  have hfresh : ∀ name ∈ extra.names, ∀ entry ∈ (front ++ back).declarations, name ∉ entry.2.names :=
    fun name hname => (hunrelated name hname).fresh
  rw [unlinkedBeans_refinedBeans] at hmem
  obtain ⟨declared, hdeclared, rfl⟩ := List.mem_map.1 hmem
  have hkeeps := declared.keepsDeclaration_refined config roots (ofFiles (front ++ extra :: back))
  rw [Bean.unlinked_owner, hkeeps.owner] at howner
  rw [Bean.unlinked_name, hkeeps.name]
  rw [ofFiles_eq] at hdeclared
  exact owner_mem_iff (Source.Files.separates_insert hfresh) hdeclared howner

/-- An additional file leaves the helpers of other owners alone. -/
theorem filter_owner_refinedBeans_insert {owner : String} (howner : owner ∉ extra.names) :
    (refinedBeans config roots (front ++ back)).unlinkedBeans.filter (·.owner == some owner) =
      (refinedBeans config roots (front ++ extra :: back)).unlinkedBeans.filter
        (·.owner == some owner) := by
  rw [← unlinkedBeans_refinedBeans_insert roots hunrelated huncoined, List.filter_filter]
  refine List.filter_congr fun bean hbean => ?_
  by_cases howned : bean.owner = some owner
  · have hname : bean.name ∉ extra.names := fun hname =>
      howner ((owner_mem_names_iff roots hunrelated hbean howned).2 hname)
    simp [hname]
  · simp [howned]

/-- Under other names an additional file changes nothing. -/
theorem bean?_refinedBeans_insert {name : String} (hname : name ∉ extra.names) :
    (refinedBeans config roots (front ++ back)).bean? name =
      (refinedBeans config roots (front ++ extra :: back)).bean? name :=
  (bean?_of_filter (unlinkedBeans_refinedBeans_insert roots hunrelated huncoined) hname).symm

/-- With an additional file and without it the other beans are nested alike. -/
theorem hostName?_refinedBeans_insert {bean : Bean}
    (hmem : bean ∈ (refinedBeans config roots (front ++ back)).unlinkedBeans) :
    (refinedBeans config roots (front ++ back)).hostName? bean =
      (refinedBeans config roots (front ++ extra :: back)).hostName? bean := by
  rw [← unlinkedBeans_refinedBeans_insert roots hunrelated huncoined] at hmem
  have hname : bean.name ∉ extra.names := by simpa using (List.mem_filter.1 hmem).2
  refine hostName?_congr rfl fun owner howner => ?_
  have hother : owner ∉ extra.names := fun howned =>
    hname ((owner_mem_names_iff roots hunrelated (List.mem_of_mem_filter hmem) howner).1 howned)
  rw [bean?_refinedBeans_insert roots hunrelated huncoined hother]

end Registry

include hunrelated huncoined

/-- A name that is none of the additional file's is referred to alike with this file and without it. -/
theorem site?_runWriter_insert {name : String} (hname : name ∉ extra.names) :
    (runWriter config roots (front ++ back)).site? name =
      (runWriter config roots (front ++ extra :: back)).site? name := by
  have hview : ∀ name ∉ extra.names,
      ((refinedBeans config roots (front ++ back)).bean? name).map Bean.content =
        ((refinedBeans config roots (front ++ extra :: back)).bean? name).map Bean.content :=
    fun name hname => by
      rw [Registry.bean?_refinedBeans_insert roots hunrelated huncoined hname]
  refine Writer.site?_congr (hview name hname) fun bean owner hbean howner => hview owner ?_
  rw [registry_runWriter, Registry.bean?_refinedBeans_insert roots hunrelated huncoined hname,
    Registry.bean?_eq_some_iff] at hbean
  obtain ⟨hmem, rfl⟩ := hbean
  exact fun howned => hname ((Registry.owner_mem_names_iff roots hunrelated hmem howner).1 howned)

/-- With an additional file and without it a run writes the same for the other beans. -/
theorem unit_runWriter_insert {bean : Bean}
    (hmem : bean ∈ (refinedBeans config roots (front ++ back)).unlinkedBeans)
    (hemitted : (refinedBeans config roots (front ++ back)).isEmitted bean = true) :
    (runWriter config roots (front ++ back)).unit bean =
      (runWriter config roots (front ++ extra :: back)).unit bean := by
  obtain ⟨hdeclarable, htop⟩ := Registry.isEmitted_iff.1 hemitted
  have hmem' := hmem
  rw [← Registry.unlinkedBeans_refinedBeans_insert roots hunrelated huncoined] at hmem'
  have hname : bean.name ∉ extra.names := by simpa using (List.mem_filter.1 hmem').2
  refine unit_runWriter_congr hmem (List.mem_of_mem_filter hmem') htop ?_ rfl rfl ?_ ?_
  · rw [← Registry.hostName?_refinedBeans_insert roots hunrelated huncoined hmem, htop]
  · rw [Registry.filter_owner_refinedBeans_insert roots hunrelated huncoined hname]
  · intro shown hshown hrelated type htype leaf hleaf hne hdot hlibrary
    refine site?_runWriter_insert roots hunrelated huncoined fun hlisted => ?_
    refine ne_of_mem_written (hunrelated _ hlisted) (huncoined _ hlisted) hshown ?_ htype hleaf hne
      (by simpa using hdot) hlibrary rfl
    rintro hnone
    rcases hrelated with rfl | howner
    · exact hdeclarable
    · rw [hnone] at howner
      cases howner

/-- A source file whose names are unrelated to the other declarations and to the configuration, and that
the run does not make up, adds files to what is written and leaves the others as they are. -/
theorem sublist_sourceOutputs (outputDir : String) :
    (sourceOutputs config roots outputDir (front ++ back)).Sublist
      (sourceOutputs config roots outputDir (front ++ extra :: back)) := by
  have hbeans := Registry.unlinkedBeans_refinedBeans_insert roots hunrelated huncoined
  have hemitted : (refinedBeans config roots (front ++ back)).unlinkedBeans.filter
        (refinedBeans config roots (front ++ back)).isEmitted =
      (refinedBeans config roots (front ++ back)).unlinkedBeans.filter
        (refinedBeans config roots (front ++ extra :: back)).isEmitted := by
    refine List.filter_congr fun bean hbean => ?_
    rw [Registry.isEmitted, Registry.isEmitted,
      Registry.hostName?_refinedBeans_insert roots hunrelated huncoined hbean]
  have hunits : ((refinedBeans config roots (front ++ back)).unlinkedBeans.filter
        (refinedBeans config roots (front ++ back)).isEmitted).map (fun bean =>
          (Writer.pathOf outputDir bean, (runWriter config roots (front ++ back)).unit bean)) =
      ((refinedBeans config roots (front ++ back)).unlinkedBeans.filter
        (refinedBeans config roots (front ++ extra :: back)).isEmitted).map fun bean =>
          (Writer.pathOf outputDir bean,
            (runWriter config roots (front ++ extra :: back)).unit bean) := by
    rw [← hemitted]
    refine List.map_congr_left fun bean hbean => ?_
    obtain ⟨hmem, hshown⟩ := List.mem_filter.1 hbean
    rw [unit_runWriter_insert roots hunrelated huncoined hmem hshown]
  rw [sourceOutputs_eq, sourceOutputs_eq, sourceUnits, sourceUnits, Writer.outputs_eq,
    Writer.outputs_eq, registry_runWriter, registry_runWriter, hunits, ← hbeans]
  exact ((List.filter_sublist.filter _).map _).map _

end

/-- `interface A { b: { n: string }, c: Array<C> }` in front of the additional file. -/
def filesInFront : Source.Files :=
  [{ path := "/p/a/a.ts"
     interfaces := [{
       name := "A"
       properties := [{
         name := "b"
         type := "\x7b n: string \x7d"
         members := some [{ name := "n", type := "string" }] },
         { name := "c", type := "Array<C>" }] }] }]

/-- `class C extends AB {}` behind the additional file. -/
def filesBehind : Source.Files :=
  [{ path := "/p/c/c.ts", classes := [{ name := "C", base := some "AB" }] }]

/-- The additional file: `interface Y { e: { s: number } }`. -/
def additionalFile : Source.File :=
  { path := "/p/y/y.ts"
    interfaces := [{
      name := "Y"
      properties := [{
        name := "e"
        type := "\x7b s: number \x7d"
        members := some [{ name := "s", type := "number" }] }] }] }

/-- The additional file changes nothing in the files of the two others. -/
theorem sublist_sourceOutputs_additionalFile :
    (∀ name ∈ additionalFile.names,
        Source.Unrelated default (filesInFront ++ filesBehind).declarations name) ∧
      (∀ name ∈ additionalFile.names,
        Source.Uncoined (filesInFront ++ filesBehind).declarations name) ∧
      (sourceOutputs default ⟨[], [["p"]]⟩ "out" (filesInFront ++ filesBehind)).Sublist
        (sourceOutputs default ⟨[], [["p"]]⟩ "out" (filesInFront ++ additionalFile :: filesBehind)) := by
  have hunrelated : ∀ name ∈ additionalFile.names,
      Source.Unrelated default (filesInFront ++ filesBehind).declarations name := by
    have hfresh : ∀ name ∈ additionalFile.names,
        ∀ entry ∈ (filesInFront ++ filesBehind).declarations, name ∉ entry.2.names := by decide
    have hunmentioned : ∀ name ∈ additionalFile.names,
        ∀ entry ∈ (filesInFront ++ filesBehind).declarations, ∀ text ∈ entry.2.texts,
          ¬ Mentions name.toList text.toList := by decide
    have hunconfigured : (default : Config).typeTexts = [] := rfl
    exact fun name hname => ⟨hfresh name hname, hunmentioned name hname, by simp [hunconfigured]⟩
  have huncoined : ∀ name ∈ additionalFile.names,
      Source.Uncoined (filesInFront ++ filesBehind).declarations name := by
    have hprimitive : ∀ name ∈ additionalFile.names, name ∉ ["double", "boolean"] := by decide
    have hunstructured : ∀ name ∈ additionalFile.names,
        ['<', '>', ',', '[', ']'].any name.toList.contains = false := by decide
    have hhelper : ∀ name ∈ additionalFile.names,
        ∀ entry ∈ (filesInFront ++ filesBehind).declarations, ∀ helper ∈ entry.2.helperNames,
          trimmed helper ≠ name := by decide
    exact fun name hname =>
      ⟨hprimitive name hname, by simpa using hunstructured name hname, hhelper name hname⟩
  exact ⟨hunrelated, huncoined, sublist_sourceOutputs ⟨[], [["p"]]⟩ hunrelated huncoined "out"⟩

/-! ## A name that a run makes up -/

/-- `interface A { x: number }`. -/
def numberField : Source.File :=
  { path := "/p/a/a.ts"
    interfaces := [{ name := "A", properties := [{ name := "x", type := "number" }] }] }

/-- `interface double {}`. -/
def namedDouble : Source.File :=
  { path := "/p/b/b.ts", interfaces := [{ name := "double" }] }

/-- Packages below `com`. -/
def packaged : Config := { basePackage := some "com" }

/-- The bean of `interface A { x: number }` in a package. -/
def numberFieldBean (package : String) : Bean :=
  { name := "A"
    kind := .javaClass
    sourcePath := some "/p/a/a.ts"
    origin := some .interfaceDecl
    package := package
    fields := [{ name := "x", type := "double" }] }

/-- The source file of `interface A { x: number }` with a type for the field. -/
def numberFieldUnit (type : String) : Java.SourceUnit where
  header := Writer.header (numberFieldBean "com.a")
  package := "com.a"
  type := .ofClass (.mk (standardAnnotations ++ [allFieldsConstructor]) "A" none []
    [{ annotations := [], type := type, name := "x" }] [])

/-- What the source language calls number is a `double`. -/
theorem mappedType_number : mappedType { name := "x", type := "number" } = "double" := by
  have hread : TypeText.read (TypeText.normalize "number".toList) = .settled (.prim .double) := by
    rw [TypeText.normalize, TypeText.unwrapParens, if_neg (by decide)]
    rfl
  show (TypeText.javaType false "number".toList).print = "double"
  rw [TypeText.javaType]
  split
  · next type hsettled =>
    rw [hread] at hsettled
    cases hsettled
    rw [Java.TypeExpr.boxedIf, if_neg Bool.false_ne_true, Java.TypeExpr.print]
    rfl
  all_goals
    next hother =>
      rw [hread] at hother
      cases hother

/-- In front of other files the interface is entered first. -/
theorem ofFiles_numberField (back : Source.Files) :
    Registry.ofFiles (numberField :: back) =
      back.foldl Registry.declareFile (Registry.empty.add (numberFieldBean "")) := by
  have hfirst : Registry.empty.declareFile numberField =
      Registry.empty.add (numberFieldBean "") := by
    rw [numberFieldBean, ← mappedType_number]
    rfl
  rw [Registry.ofFiles, List.foldl_cons, hfirst]

/-- The interface is written with what the writer has for `double`. -/
theorem unit_numberFieldBean {registry : Registry}
    (hnested : (Writer.of registry packaged).nestedIn "A" = []) :
    (Writer.of registry packaged).unit (numberFieldBean "com.a") =
      numberFieldUnit ((Writer.of registry packaged).qualify "com.a" "A" "double") := by
  have hclass : (Writer.of registry packaged).unit (numberFieldBean "com.a") =
      { header := Writer.header (numberFieldBean "com.a")
        package := "com.a"
        type := .ofClass
          ((Writer.of registry packaged).classDecl "com.a" registry.beans.length
            (numberFieldBean "com.a")) } := rfl
  rw [hclass, Writer.classDecl_of_nestedIn_eq_nil _ _ _ _ hnested]
  rfl

/-- A run writes the interface and nothing else where no other bean gets a file or is nested in it. -/
theorem sourceOutputs_numberField {roots : Roots} {files : Source.Files} {shown : String}
    (hbeans : (refinedBeans packaged roots files).unlinkedBeans.filter
        (refinedBeans packaged roots files).isEmitted = [numberFieldBean "com.a"])
    (hnested : (runWriter packaged roots files).nestedIn "A" = [])
    (hshown : (runWriter packaged roots files).qualify "com.a" "A" "double" = shown) :
    sourceOutputs packaged roots "out" files =
      [.source "out/com/a/A.java" (numberFieldUnit shown).text] := by
  have hpath : Writer.pathOf "out" (numberFieldBean "com.a") = "out/com/a/A.java" := by decide
  have hunit : (runWriter packaged roots files).unit (numberFieldBean "com.a") =
      numberFieldUnit shown := by
    rw [← hshown]
    exact unit_numberFieldBean hnested
  rw [sourceOutputs_eq, sourceUnits, Writer.outputs_eq, registry_runWriter, hbeans, List.map_singleton,
    List.map_singleton, hpath, hunit]

/-- The two types give two texts. -/
theorem text_numberFieldUnit_ne :
    (numberFieldUnit "double").text ≠ (numberFieldUnit "com.b.double").text := by
  rw [numberFieldUnit, numberFieldUnit, Java.SourceUnit.text, Java.SourceUnit.text,
    Java.SourceUnit.lines, Java.SourceUnit.lines, Java.TypeDecl.lines, Java.TypeDecl.lines,
    Java.ClassDecl.lines, Java.ClassDecl.lines]
  decide +kernel

/-- It does not suffice that the names of a file are unrelated to the other declarations: an interface
called `double` changes the type of a number. -/
theorem not_forall_mem_sourceOutputs :
    ¬∀ (config : Config) (roots : Roots) (outputDir : String) (front back : Source.Files)
        (extra : Source.File),
      (∀ name ∈ extra.names, Source.Unrelated config (front ++ back).declarations name) →
      ∀ output ∈ sourceOutputs config roots outputDir (front ++ back),
        output ∈ sourceOutputs config roots outputDir (front ++ extra :: back) := by
  intro h
  have hunrelated : ∀ name ∈ namedDouble.names,
      Source.Unrelated packaged (Source.Files.declarations ([numberField] ++ [])) name := by
    have hfresh : ∀ name ∈ namedDouble.names,
        ∀ entry ∈ Source.Files.declarations ([numberField] ++ []), name ∉ entry.2.names := by decide
    have hunmentioned : ∀ name ∈ namedDouble.names,
        ∀ entry ∈ Source.Files.declarations ([numberField] ++ []), ∀ text ∈ entry.2.texts,
          ¬ Mentions name.toList text.toList := by decide
    have hunconfigured : packaged.typeTexts = [] := rfl
    exact fun name hname => ⟨hfresh name hname, hunmentioned name hname, by simp [hunconfigured]⟩
  have halone : sourceOutputs packaged ⟨[], [["p"]]⟩ "out" [numberField] =
      [.source "out/com/a/A.java" (numberFieldUnit "double").text] := by
    refine sourceOutputs_numberField ?_ ?_ ?_
    all_goals
      simp only [runWriter, refinedBeans, ofFiles_numberField]
      decide +kernel
  have htogether : sourceOutputs packaged ⟨[], [["p"]]⟩ "out" [numberField, namedDouble] =
      [.source "out/com/a/A.java" (numberFieldUnit "com.b.double").text] := by
    refine sourceOutputs_numberField ?_ ?_ ?_
    all_goals
      simp only [runWriter, refinedBeans, ofFiles_numberField]
      decide +kernel
  have hmem := h packaged ⟨[], [["p"]]⟩ "out" [numberField] [] namedDouble hunrelated
    (.source "out/com/a/A.java" (numberFieldUnit "double").text)
    (by rw [List.append_nil, halone]; exact List.mem_singleton_self _)
  rw [List.singleton_append, htogether, List.mem_singleton] at hmem
  exact text_numberFieldUnit_ne (Output.source.inj hmem).2

end BeanGen

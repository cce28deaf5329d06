import BeanGen.Proofs.Java.Name
import BeanGen.Proofs.Render.Nesting

/-!
# The names that a run declares

The writer filters the names of fields, constants and accessors one by one, and gives files only to
beans whose names pass the check. Two names slip through. A helper is printed under its name without a
check, and the check itself passes over a line break at the end of a name. Apart from these two every
declared name is a name of the Java language: `Registry.PlainNames` says that neither occurs in what is
printed, and is equivalent to all declared names being names (`Writer.isName_declaredNames_iff`).
-/

namespace BeanGen

open Java (isIdentifier isName)

/-! ## Names of members -/

/-- The names that the members of a bean would declare. -/
def Bean.memberNames (bean : Bean) : List String :=
  match bean.kind with
  | .javaClass => bean.fields.map (·.name)
  | .javaInterface => bean.fields.map fun field => "get" ++ Java.capitalized field.name
  | .javaEnum => bean.constants.map (·.name)

/-- What a run does to a bean keeps the names of its members. -/
theorem KeepsDeclaration.memberNames {before after : Bean} (h : KeepsDeclaration before after) :
    after.memberNames = before.memberNames := by
  have haccessors : after.fields.map (fun field => "get" ++ Java.capitalized field.name) =
      before.fields.map fun field => "get" ++ Java.capitalized field.name := by
    obtain ⟨retype, hfields⟩ := h.fields
    rw [hfields, List.map_map]
    rfl
  rw [Bean.memberNames, Bean.memberNames, h.kind, h.constants, h.fieldNames, haccessors]

namespace Bean

/-- The first elements of each key have the keys that have not been seen before. -/
theorem mem_map_firstByKey {α : Type} {key : α → String} {seen : List String} {as : List α}
    {k : String} : k ∈ (firstByKey key seen as).map key ↔ k ∈ as.map key ∧ k ∉ seen := by
  induction as generalizing seen with
  | nil => simp [firstByKey]
  | cons a rest ih =>
    rw [firstByKey]
    split
    · next hseen =>
      have hmem : key a ∈ seen := by simpa using hseen
      rw [ih, List.map_cons, List.mem_cons]
      constructor
      · exact fun h => ⟨.inr h.1, h.2⟩
      · rintro ⟨rfl | h, hnew⟩
        · exact absurd hmem hnew
        · exact ⟨h, hnew⟩
    · next hnew =>
      have hnotMem : key a ∉ seen := by simpa using hnew
      rw [List.map_cons, List.map_cons, List.mem_cons, List.mem_cons, ih, List.mem_cons]
      by_cases h : k = key a
      · simp [h, hnotMem]
      · simp [h]

/-- Leaving out repeated fields takes no field name away. -/
theorem mem_names_distinctFields {bean : Bean} {name : String} :
    name ∈ bean.distinctFields.map (·.name) ↔ name ∈ bean.fields.map (·.name) :=
  mem_map_firstByKey.trans (and_iff_left List.not_mem_nil)

end Bean

/-- Each constant is numbered under its name. -/
theorem names_constantTexts (textBacked : Bool) (last : Int) (constants : List Constant) :
    (constantTexts textBacked last constants).map (·.1) = constants.map (·.name) := by
  fun_induction constantTexts textBacked last constants with
  | case1 => rfl
  | case2 last name rest ih => simp [ih]
  | case3 last name value rest n _ ih => simp [ih]
  | case4 last name value rest _ ih => simp [ih]

/-! ## Names of a file -/

namespace Writer

section
variable {writer : Writer} {bean : Bean} {name : String}

/-- The fields of a class are those of the bean, without repetitions, whose names can be declared. -/
theorem names_classDecl {package : String} {depth : Nat} :
    (writer.classDecl package depth bean).fields.map (·.name) =
      (bean.distinctFields.map (·.name)).filter isIdentifier := by
  rw [fields_classDecl, List.map_map, List.filter_map]
  rfl

/-- A class declares its own name, and those of its fields that pass the check. -/
theorem mem_ownNames_classDecl {package : String} {depth : Nat} :
    name ∈ (writer.classDecl package depth bean).ownNames ↔
      name = bean.name ∨ name ∈ bean.fields.map (·.name) ∧ isIdentifier name = true := by
  rw [Java.ClassDecl.ownNames, name_classDecl, names_classDecl, List.mem_cons, List.mem_filter,
    Bean.mem_names_distinctFields]

/-- The entries of an enum are named after the constants whose names can be declared. -/
theorem names_enumDecl :
    ((writer.enumDecl bean).body.toList.flatMap fun body => body.entries.map (·.name)) =
      (bean.constants.map (·.name)).filter isIdentifier := by
  rw [enumDecl]
  dsimp only
  split
  · next hempty =>
    rw [List.isEmpty_iff.1 hempty]
    rfl
  · rw [Option.toList_some, List.flatMap_singleton, enumBody,
      ← names_constantTexts (isTextBacked bean.constants) 0, List.filter_map, List.map_map]
    rfl

/-- An enum declares its own name, and those of its constants that pass the check. -/
theorem mem_ownNames_enumDecl :
    name ∈ (writer.enumDecl bean).ownNames ↔
      name = bean.name ∨ name ∈ bean.constants.map (·.name) ∧ isIdentifier name = true := by
  rw [Java.EnumDecl.ownNames, names_enumDecl, List.mem_cons, List.mem_filter]
  rfl

/-- The accessors of an interface are named after the fields, where these names can be declared. -/
theorem names_interfaceDecl :
    (writer.interfaceDecl bean).accessors.map (·.name) =
      ((bean.distinctFields.map (·.name)).map fun name => "get" ++ Java.capitalized name).filter
        isIdentifier := by
  rw [interfaceDecl, List.map_filterMap, List.map_map, ← List.filterMap_eq_filter, List.filterMap_map]
  refine List.filterMap_congr fun field _ => ?_
  simp only [Function.comp_apply, Option.guard]
  split <;> rfl

/-- An interface declares its own name, and those of its accessors that pass the check. -/
theorem mem_ownNames_interfaceDecl :
    name ∈ (writer.interfaceDecl bean).ownNames ↔
      name = bean.name ∨
        name ∈ bean.fields.map (fun field => "get" ++ Java.capitalized field.name) ∧
          isIdentifier name = true := by
  have haccessors : name ∈ (bean.distinctFields.map (·.name)).map ("get" ++ Java.capitalized ·) ↔
      name ∈ bean.fields.map fun field => "get" ++ Java.capitalized field.name := by
    simp only [List.mem_map (l := bean.distinctFields.map _), Bean.mem_names_distinctFields]
    rw [← List.mem_map, List.map_map]
    rfl
  rw [Java.InterfaceDecl.ownNames, names_interfaceDecl, List.mem_cons, List.mem_filter, haccessors]
  rfl

/-- The file of a bean declares the name of the bean, the names of its members that pass the check,
and for each helper nested in it the name of the helper, whatever it is, and the names of its fields
that pass the check. -/
theorem mem_declaredNames_typeDecl (hnests : writer.registry.NestsOnce)
    (hmem : bean ∈ writer.registry.beans) (htop : writer.registry.hostName? bean = none) :
    name ∈ (writer.typeDecl bean).declaredNames ↔
      name = bean.name ∨ (name ∈ bean.memberNames ∧ isIdentifier name = true) ∨
        ∃ helper ∈ writer.nestedIn bean.name, name = helper.name ∨
          name ∈ helper.fields.map (·.name) ∧ isIdentifier name = true := by
  by_cases hkind : bean.kind = .javaClass
  · obtain ⟨depth, hclasses⟩ := classes_typeDecl hnests hmem hkind htop
    have hnames : (writer.typeDecl bean).declaredNames =
        (writer.typeDecl bean).classes.flatMap fun entry => entry.2.ownNames := by
      rw [typeDecl, hkind]
      rfl
    rw [hnames, hclasses, List.flatMap_cons, List.mem_append, mem_ownNames_classDecl, or_assoc,
      Bean.memberNames, hkind]
    refine or_congr_right (or_congr_right ?_)
    simp only [List.mem_flatMap, List.mem_map, exists_exists_and_eq_and, mem_ownNames_classDecl]
  · have hnone : ¬∃ helper ∈ writer.nestedIn bean.name, name = helper.name ∨
        name ∈ helper.fields.map (·.name) ∧ isIdentifier name = true := by
      rintro ⟨helper, hhelper, -⟩
      obtain ⟨host, hhost, hname, hclass⟩ :=
        Registry.exists_of_hostName? (mem_nestedIn.1 hhelper).2
      rw [Registry.eq_of_name_eq hhost hmem hname] at hclass
      exact hkind hclass
    rw [or_iff_left hnone]
    cases hkind' : bean.kind with
    | javaClass => exact absurd hkind' hkind
    | javaInterface =>
      rw [typeDecl, Bean.memberNames, hkind']
      exact mem_ownNames_interfaceDecl
    | javaEnum =>
      rw [typeDecl, Bean.memberNames, hkind']
      exact mem_ownNames_enumDecl

end

end Writer

/-! ## When all declared names are names -/

/-- None of the two slips occurs: every helper that is printed has a name that passes the check, and no
name that is printed ends with a line break. -/
structure Registry.PlainNames (registry : Registry) : Prop where
  helpers : ∀ bean ∈ registry.beans, registry.IsNested bean → isIdentifier bean.name = true
  breaks : ∀ bean ∈ registry.beans, registry.IsShown bean →
    ∀ name ∈ bean.name :: bean.memberNames, isIdentifier name = true →
      name.toList.getLast? ≠ some '\n'

/-- A run neither adds nor removes a slip. -/
theorem Registry.plainNames_refinedBeans (config : Config) (roots : Roots) (files : Source.Files) :
    (refinedBeans config roots files).PlainNames ↔ (ofFiles files).PlainNames := by
  have hkeeps := fun bean : Bean => bean.keepsDeclaration_settled config roots (ofFiles files)
  constructor
  · intro h
    refine ⟨fun bean hbean hnested => ?_, fun bean hbean hshown name hname => ?_⟩
    all_goals
      have hmem : bean.settled config roots (ofFiles files) ∈ (refinedBeans config roots files).beans :=
        by rw [beans_refinedBeans]; exact List.mem_map_of_mem hbean
    · rw [← (hkeeps bean).name]
      exact h.helpers _ hmem ((isNested_settled config roots files bean).2 hnested)
    · rw [← (hkeeps bean).name, ← (hkeeps bean).memberNames] at hname
      rw [← isShown_settled config roots files] at hshown
      exact h.breaks _ hmem hshown name hname
  · intro h
    refine ⟨fun bean hbean hnested => ?_, fun bean hbean hshown name hname => ?_⟩
    all_goals
      rw [beans_refinedBeans] at hbean
      obtain ⟨declared, hdeclared, rfl⟩ := List.mem_map.1 hbean
    · rw [(hkeeps declared).name]
      exact h.helpers _ hdeclared ((isNested_settled config roots files declared).1 hnested)
    · rw [(hkeeps declared).name, (hkeeps declared).memberNames] at hname
      rw [isShown_settled] at hshown
      exact h.breaks _ hdeclared hshown name hname

namespace Writer

section
variable {writer : Writer} (hnests : writer.registry.NestsOnce)
  (hhelpers : ∀ bean ∈ writer.registry.beans, bean.isHelper = true → bean.kind = .javaClass)
include hnests hhelpers

/-- A name is declared in one of the files when it is the name of a bean that is printed, or the name
of a member of such a bean that passes the check. -/
theorem exists_declaredNames_iff {outputDir name : String} :
    (∃ output ∈ writer.outputs outputDir, name ∈ output.2.type.declaredNames) ↔
      ∃ bean ∈ writer.registry.beans, writer.registry.IsShown bean ∧
        (name = bean.name ∨ name ∈ bean.memberNames ∧ isIdentifier name = true) := by
  have hmembers : ∀ {helper : Bean} {host : String}, helper ∈ writer.nestedIn host →
      helper.memberNames = helper.fields.map (·.name) := by
    intro helper host hhelper
    rw [mem_nestedIn] at hhelper
    have howner := Registry.owner_of_hostName? hhelper.2
    rw [Bean.memberNames, hhelpers helper hhelper.1 (by rw [Bean.isHelper, howner]; rfl)]
  have hfiles : (∃ output ∈ writer.outputs outputDir, name ∈ output.2.type.declaredNames) ↔
      ∃ bean ∈ writer.registry.beans, writer.registry.isEmitted bean = true ∧
        name ∈ (writer.typeDecl bean).declaredNames := by
    simp only [mem_outputs]
    constructor
    · rintro ⟨_, ⟨bean, hbean, hshown, rfl⟩, hname⟩
      exact ⟨bean, hbean, hshown, hname⟩
    · rintro ⟨bean, hbean, hshown, hname⟩
      exact ⟨_, ⟨bean, hbean, hshown, rfl⟩, hname⟩
  rw [hfiles]
  constructor
  · rintro ⟨bean, hbean, hshown, hname⟩
    have htop := (Registry.isEmitted_iff.1 hshown).2
    rcases (mem_declaredNames_typeDecl hnests hbean htop).1 hname with h | h | ⟨helper, hhelper, h⟩
    · exact ⟨bean, hbean, .inl hshown, .inl h⟩
    · exact ⟨bean, hbean, .inl hshown, .inr h⟩
    · have hspec := mem_nestedIn.1 hhelper
      rw [← hmembers hhelper] at h
      exact ⟨helper, hspec.1, .inr ⟨bean, hbean, hshown, hspec.2⟩, h⟩
  · rintro ⟨bean, hbean, hshown | ⟨host, hhost, hshown, hnested⟩, h⟩
    · have htop := (Registry.isEmitted_iff.1 hshown).2
      refine ⟨bean, hbean, hshown, (mem_declaredNames_typeDecl hnests hbean htop).2 ?_⟩
      exact h.imp_right .inl
    · have htop := (Registry.isEmitted_iff.1 hshown).2
      have hhelper := mem_nestedIn.2 ⟨hbean, hnested⟩
      rw [hmembers hhelper] at h
      exact ⟨host, hhost, hshown,
        (mem_declaredNames_typeDecl hnests hhost htop).2 (.inr (.inr ⟨bean, hhelper, h⟩))⟩

/-- All names that a writer declares are names exactly when none of the two slips occurs. -/
theorem isName_declaredNames_iff (outputDir : String) :
    (∀ output ∈ writer.outputs outputDir, ∀ name ∈ output.2.type.declaredNames,
        isName name = true) ↔ writer.registry.PlainNames := by
  have hall : (∀ output ∈ writer.outputs outputDir, ∀ name ∈ output.2.type.declaredNames,
        isName name = true) ↔
      ∀ name, (∃ output ∈ writer.outputs outputDir, name ∈ output.2.type.declaredNames) →
        isName name = true :=
    ⟨fun h name ⟨output, houtput, hname⟩ => h output houtput name hname,
      fun h output houtput name hname => h name ⟨output, houtput, hname⟩⟩
  simp only [hall, exists_declaredNames_iff hnests hhelpers]
  constructor
  · intro h
    refine ⟨fun bean hbean hnested => ?_, fun bean hbean hshown name hname hcheck => ?_⟩
    · exact Java.isIdentifier_of_isName (h _ ⟨bean, hbean, .inr hnested, .inl rfl⟩)
    · refine (Java.isName_iff.1 (h name ⟨bean, hbean, hshown, ?_⟩)).2
      exact (List.mem_cons.1 hname).imp_right fun hmem => ⟨hmem, hcheck⟩
  · rintro hplain name ⟨bean, hbean, hshown, rfl | ⟨hmem, hcheck⟩⟩
    · have hcheck : isIdentifier bean.name = true :=
        hshown.elim (fun h => (Registry.isEmitted_iff.1 h).1) (hplain.helpers bean hbean)
      exact Java.isName_iff.2
        ⟨hcheck, hplain.breaks bean hbean hshown _ List.mem_cons_self hcheck⟩
    · exact Java.isName_iff.2
        ⟨hcheck, hplain.breaks bean hbean hshown _ (List.mem_cons_of_mem _ hmem) hcheck⟩

end

end Writer

/-- In the files of a run all declared names are names of the Java language exactly when none of the
two slips occurs among the beans of the declarations. -/
theorem declaredNames_isName_iff (config : Config) (roots : Roots) (files : Source.Files)
    (outputDir : String) :
    (∀ output ∈ sourceUnits config roots files outputDir,
        ∀ name ∈ output.2.type.declaredNames, isName name = true) ↔
      (Registry.ofFiles files).PlainNames := by
  rw [← Registry.plainNames_refinedBeans config roots files]
  exact Writer.isName_declaredNames_iff (Registry.nestsOnce_refinedBeans config roots files)
    (fun _ => Registry.kind_of_isHelper config roots files) outputDir

/-- An interface with a member in quotation marks that needs a helper:
`interface A { 'a-b': { n: string } }`. -/
def hyphenatedMember : Source.Files :=
  [{ path := "/p/a.ts"
     interfaces := [{
       name := "A"
       properties := [{
         name := "a-b"
         type := "\x7b n: string \x7d"
         members := some [{ name := "n", type := "string" }] }] }] }]

/-- Not all declared names are names: the helper of the member is printed as `AA-b`. -/
theorem not_forall_isName_declaredNames :
    ¬∀ (config : Config) (roots : Roots) (files : Source.Files) (outputDir : String),
      ∀ output ∈ sourceUnits config roots files outputDir,
        ∀ name ∈ output.2.type.declaredNames, isName name = true := by
  intro h
  have hplain : (Registry.ofFiles hyphenatedMember).PlainNames := by
    rw [← Registry.plainNames_refinedBeans default ⟨[], []⟩ hyphenatedMember]
    exact (Writer.isName_declaredNames_iff (Registry.nestsOnce_refinedBeans _ _ _)
      (fun _ => Registry.kind_of_isHelper _ _ _) "out").1 (h default ⟨[], []⟩ hyphenatedMember "out")
  have hhelper : (Registry.ofFiles hyphenatedMember).beans.any (fun bean =>
      bean.name == "AA-b" && (Registry.ofFiles hyphenatedMember).hostName? bean == some "A") = true := by
    decide
  have hhost : (Registry.ofFiles hyphenatedMember).beans.any (fun bean =>
      bean.name == "A" && (Registry.ofFiles hyphenatedMember).isEmitted bean) = true := by
    decide
  rw [List.any_eq_true] at hhelper hhost
  obtain ⟨helper, hmem, hspec⟩ := hhelper
  obtain ⟨host, hhostMem, hhostSpec⟩ := hhost
  rw [Bool.and_eq_true, beq_iff_eq, beq_iff_eq] at hspec
  rw [Bool.and_eq_true, beq_iff_eq] at hhostSpec
  have hcheck := hplain.helpers helper hmem
    ⟨host, hhostMem, hhostSpec.2, by rw [hspec.2, hhostSpec.1]⟩
  rw [hspec.1] at hcheck
  exact absurd hcheck (by decide)

end BeanGen

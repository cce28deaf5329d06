import BeanGen.Proofs.Bean.Creation
import BeanGen.Proofs.Java.Unit
import BeanGen.Proofs.Refine.PerBean
import BeanGen.Render.Unit
import Mathlib.Data.List.Basic

/-!
# Which beans get a file, and which are nested

A helper is nested in the class that owns it, if there is such a class; every other bean with a
declarable name gets a file. Both depend on names, kinds and owners only (`Registry.hostName?`), which
no pass changes, so it can be read off the declarations (`hostName?_settled`, `isEmitted_settled`).

Owners are no helpers of other beans (`Registry.NestsOnce`), hence a class that gets a file nests its
helpers one level deep and no deeper (`Writer.classes_typeDecl`).
-/

namespace BeanGen

open Java (isIdentifier)

namespace Registry

/-- The name of the class that a bean is nested in: its owner, if that is a class of the registry. -/
def hostName? (registry : Registry) (bean : Bean) : Option String :=
  bean.owner.filter fun owner => owner != "" && (registry.bean? owner).any (·.kind == .javaClass)

/-- The bean gets a file of its own. -/
def isEmitted (registry : Registry) (bean : Bean) : Bool :=
  isIdentifier bean.name && (registry.hostName? bean).isNone

/-- The bean is nested in a class that gets a file. -/
def IsNested (registry : Registry) (bean : Bean) : Prop :=
  ∃ host ∈ registry.beans, registry.isEmitted host = true ∧
    registry.hostName? bean = some host.name

/-- The bean is printed, in a file of its own or nested. -/
def IsShown (registry : Registry) (bean : Bean) : Prop :=
  registry.isEmitted bean = true ∨ registry.IsNested bean

/-- No class that something is nested in is nested in another class. -/
def NestsOnce (registry : Registry) : Prop :=
  ∀ bean ∈ registry.beans, ∀ host ∈ registry.beans, registry.hostName? bean = some host.name →
    registry.hostName? host = none ∨ registry.hostName? host = some host.name

section
variable {registry other : Registry} {bean host : Bean}

/-- A bean gets a file when its name passes the check and it is not nested in a class. -/
theorem isEmitted_iff :
    registry.isEmitted bean = true ↔
      isIdentifier bean.name = true ∧ registry.hostName? bean = none := by
  rw [isEmitted, Bool.and_eq_true, Option.isNone_iff_eq_none]

/-- The name of the host is the owner. -/
theorem owner_of_hostName? {name : String} (h : registry.hostName? bean = some name) :
    bean.owner = some name :=
  (Option.filter_eq_some_iff.1 h).1

/-- The host is a class of the registry. -/
theorem exists_of_hostName? {name : String} (h : registry.hostName? bean = some name) :
    ∃ host ∈ registry.beans, host.name = name ∧ host.kind = .javaClass := by
  have hspec := (Option.filter_eq_some_iff.1 h).2
  rw [Bool.and_eq_true, Option.any_eq_true] at hspec
  obtain ⟨-, view, hview, hkind⟩ := hspec
  obtain ⟨host, hmem, hname, rfl⟩ := exists_mem_of_bean? hview
  exact ⟨host, hmem, hname, by simpa using hkind⟩

/-- Where a bean is nested depends on its owner and on the kind of what stands under the owner. -/
theorem hostName?_congr {bean' : Bean} (howner : bean.owner = bean'.owner)
    (h : ∀ owner, bean.owner = some owner →
      (registry.bean? owner).map (·.kind) = (other.bean? owner).map (·.kind)) :
    registry.hostName? bean = other.hostName? bean' := by
  unfold hostName?
  rw [← howner]
  cases howned : bean.owner with
  | none => rfl
  | some owner =>
    have hkind := congrArg (Option.any (· == Bean.Kind.javaClass)) (h owner howned)
    rw [Option.any_map, Option.any_map] at hkind
    have hany : (registry.bean? owner).any (·.kind == .javaClass) =
        (other.bean? owner).any (·.kind == .javaClass) := hkind
    rw [Option.filter_some, Option.filter_some, hany]

/-- In a class that gets a file nothing is nested in what is nested in it. -/
theorem NestsOnce.hostName?_ne (hnests : registry.NestsOnce) (hhost : host ∈ registry.beans)
    (htop : registry.hostName? host = none) {helper inner : Bean}
    (hhelper : helper ∈ registry.beans) (hnested : registry.hostName? helper = some host.name)
    (hinner : inner ∈ registry.beans) : registry.hostName? inner ≠ some helper.name := by
  intro h
  rcases hnests inner hinner helper hhelper h with hnone | hself
  · rw [hnested] at hnone
    cases hnone
  · rw [hnested] at hself
    have hname : host.name = helper.name := Option.some.inj hself
    rw [← eq_of_name_eq hhost hhelper hname, htop] at hnested
    cases hnested

end

/-! ## The beans of a run -/

/-- The owner of a helper is no helper of another owner. -/
theorem nestsOnce_ofFiles (files : Source.Files) : (ofFiles files).NestsOnce := by
  intro bean hbean host hhost h
  have howner := owner_of_hostName? h
  have hview := bean?_of_mem hbean
  rw [ofFiles_eq] at hview
  obtain ⟨view, hfound, hspec⟩ := exists_owner hview howner
  rw [← ofFiles_eq, bean?_of_mem hhost] at hfound
  obtain rfl := Option.some.inj hfound
  rcases hspec with hnone | hself
  · refine .inl ?_
    rw [Bean.unlinked_owner] at hnone
    rw [hostName?, hnone]
    rfl
  · refine .inr ?_
    have hsame : host.owner = bean.owner := hself.trans howner.symm
    rw [← h, hostName?, hsame, hostName?]

section
variable (config : Config) (roots : Roots) (files : Source.Files)

/-- A run leaves the kinds under all names as declared. -/
theorem kind_refinedBeans (name : String) :
    ((refinedBeans config roots files).bean? name).map (·.kind) =
      ((ofFiles files).bean? name).map (·.kind) := by
  rw [bean?_refinedBeans, Option.map_map]
  refine Option.map_congr fun bean _ => ?_
  rw [Function.comp_apply, Bean.unlinked_kind]
  exact (bean.keepsDeclaration_refined config roots _).kind

/-- The helpers of a run are classes. -/
theorem kind_of_isHelper {bean : Bean} (h : bean ∈ (refinedBeans config roots files).beans)
    (hhelper : bean.isHelper = true) : bean.kind = .javaClass := by
  rw [beans_refinedBeans] at h
  obtain ⟨declared, hmem, rfl⟩ := List.mem_map.1 h
  have hkeeps := declared.keepsDeclaration_settled config roots (ofFiles files)
  rw [Bean.isHelper, hkeeps.owner] at hhelper
  rw [hkeeps.kind]
  exact (madeFrom_of_mem hmem).kind_of_isHelper hhelper

/-- A run nests each bean where it is nested by its declaration. -/
theorem hostName?_settled (bean : Bean) :
    (refinedBeans config roots files).hostName? (bean.settled config roots (ofFiles files)) =
      (ofFiles files).hostName? bean :=
  hostName?_congr (bean.keepsDeclaration_settled config roots _).owner
    fun owner _ => kind_refinedBeans config roots files owner

/-- A run gives a file to the beans whose declarations call for one. -/
theorem isEmitted_settled (bean : Bean) :
    (refinedBeans config roots files).isEmitted (bean.settled config roots (ofFiles files)) =
      (ofFiles files).isEmitted bean := by
  rw [isEmitted, isEmitted, hostName?_settled, (bean.keepsDeclaration_settled config roots _).name]

/-- A run keeps what is nested. -/
theorem isNested_settled (bean : Bean) :
    (refinedBeans config roots files).IsNested (bean.settled config roots (ofFiles files)) ↔
      (ofFiles files).IsNested bean := by
  unfold IsNested
  simp only [beans_refinedBeans, List.mem_map, exists_exists_and_eq_and, isEmitted_settled,
    hostName?_settled, fun host : Bean => (host.keepsDeclaration_settled config roots
      (ofFiles files)).name]

/-- A run keeps what is printed. -/
theorem isShown_settled (bean : Bean) :
    (refinedBeans config roots files).IsShown (bean.settled config roots (ofFiles files)) ↔
      (ofFiles files).IsShown bean := by
  rw [IsShown, IsShown, isEmitted_settled, isNested_settled]

/-- A run nests helpers once. -/
theorem nestsOnce_refinedBeans : (refinedBeans config roots files).NestsOnce := by
  intro bean hbean host hhost
  rw [beans_refinedBeans] at hbean hhost
  obtain ⟨declared, hdeclared, rfl⟩ := List.mem_map.1 hbean
  obtain ⟨owner, howner, rfl⟩ := List.mem_map.1 hhost
  rw [hostName?_settled, hostName?_settled, (owner.keepsDeclaration_settled config roots _).name]
  exact nestsOnce_ofFiles files declared hdeclared owner howner

end

end Registry

/-! ## What the writer nests -/

namespace Writer

section
variable (writer : Writer)

/-- The class that the writer nests a helper in is the host of the helper. -/
theorem map_name_outerOf? (bean : Bean) :
    (writer.outerOf? bean).map (·.name) = writer.registry.hostName? bean := by
  unfold outerOf? Registry.hostName? Registry.resolve?
  cases bean.owner with
  | none => rfl
  | some owner =>
    have hview := writer.registry.get?_unlinked owner
    rw [Option.bind_some, Option.filter_some]
    by_cases hempty : owner = ""
    · subst hempty
      rfl
    · rw [if_neg hempty] at hview
      rw [← hview]
      cases hget : writer.registry.get? owner with
      | none => simp
      | some host =>
        obtain ⟨-, rfl, -⟩ := Registry.mem_of_get? hget
        by_cases hkind : host.kind = .javaClass
        · simp [hkind, hempty, Option.filter]
        · simp [hkind, Option.filter]

/-- The helpers nested in a class are those with this host. -/
theorem nestedIn_eq (name : String) :
    writer.nestedIn name =
      writer.registry.beans.filter fun bean => writer.registry.hostName? bean == some name := by
  refine List.filter_congr fun bean _ => ?_
  rw [← map_name_outerOf?]
  cases writer.outerOf? bean with
  | none => rfl
  | some outer => simp

/-- A helper is nested in the class of a name when this is the name of its host. -/
theorem mem_nestedIn {writer : Writer} {helper : Bean} {name : String} :
    helper ∈ writer.nestedIn name ↔
      helper ∈ writer.registry.beans ∧ writer.registry.hostName? helper = some name := by
  rw [nestedIn_eq, List.mem_filter, beq_iff_eq]

/-- The beans that get a file. -/
theorem emitted_eq : writer.emitted = writer.registry.beans.filter writer.registry.isEmitted := by
  refine List.filter_congr fun bean _ => ?_
  rw [Registry.isEmitted, ← map_name_outerOf?, Option.isNone_map]

/-- The files are those of the beans that get one. -/
theorem mem_outputs {writer : Writer} {outputDir : String} {output : String × Java.SourceUnit} :
    output ∈ writer.outputs outputDir ↔
      ∃ bean ∈ writer.registry.beans, writer.registry.isEmitted bean = true ∧
        (pathOf outputDir bean, writer.unit bean) = output := by
  rw [outputs, emitted_eq, List.mem_map]
  simp only [List.mem_filter, and_assoc]

/-- What holds of all files is what holds of the files of all beans that get one. -/
theorem forall_outputs_iff {writer : Writer} {outputDir : String} {p : Java.SourceUnit → Prop} :
    (∀ output ∈ writer.outputs outputDir, p output.2) ↔
      ∀ bean ∈ writer.registry.beans, writer.registry.isEmitted bean = true → p (writer.unit bean) := by
  constructor
  · intro h bean hbean hemitted
    exact h (pathOf outputDir bean, writer.unit bean) (mem_outputs.2 ⟨bean, hbean, hemitted, rfl⟩)
  · intro h output houtput
    obtain ⟨bean, hbean, hemitted, rfl⟩ := mem_outputs.1 houtput
    exact h bean hbean hemitted

/-- What is written into the files does not depend on where they are. -/
theorem map_snd_outputs (outputDir : String) :
    (writer.outputs outputDir).map (·.2) = writer.emitted.map writer.unit := by
  rw [outputs, List.map_map]
  rfl

/-- In a class that gets a file nothing is nested in what is nested in it. -/
theorem nestedIn_eq_nil {writer : Writer} {host helper : Bean}
    (hnests : writer.registry.NestsOnce) (hhost : host ∈ writer.registry.beans)
    (htop : writer.registry.hostName? host = none) (hhelper : helper ∈ writer.nestedIn host.name) :
    writer.nestedIn helper.name = [] := by
  rw [mem_nestedIn] at hhelper
  rw [List.eq_nil_iff_forall_not_mem]
  intro inner hinner
  rw [mem_nestedIn] at hinner
  exact hnests.hostName?_ne hhost htop hhelper.1 hhelper.2 hinner.1 hinner.2

end

/-! ## The classes of a file -/

section
variable (writer : Writer) (package : String) (depth : Nat) (bean : Bean)

@[simp] theorem name_classDecl : (writer.classDecl package depth bean).name = bean.name := by
  cases depth <;> rfl

@[simp] theorem base_classDecl :
    (writer.classDecl package depth bean).base = writer.baseOf? package bean := by
  cases depth <;> rfl

@[simp] theorem interfaces_classDecl :
    (writer.classDecl package depth bean).interfaces =
      (writer.qualifyAll package bean.name bean.interfaces).filter isTypeName := by
  cases depth <;> rfl

@[simp] theorem fields_classDecl :
    (writer.classDecl package depth bean).fields =
      (bean.distinctFields.filter fun field => isIdentifier field.name).map
        (writer.fieldDecl package bean.name) := by
  cases depth <;> rfl

@[simp] theorem nested_classDecl_succ :
    (writer.classDecl package (depth + 1) bean).nested =
      (writer.nestedIn bean.name).map fun helper =>
        (helperLabel bean.name helper.name, writer.classDecl package depth helper) := by
  rw [classDecl]
  rfl

/-- A class in which the writer nests nothing has no nested classes. -/
theorem nested_classDecl_eq_nil (h : writer.nestedIn bean.name = []) :
    (writer.classDecl package depth bean).nested = [] := by
  cases depth with
  | zero =>
    rw [classDecl]
    rfl
  | succ depth => rw [nested_classDecl_succ, h, List.map_nil]

/-- The classes inside the class of a bean are those of the bean and of beans of the registry. -/
theorem exists_of_mem_located {writer : Writer} {package : String} {depth : Nat} {bean : Bean}
    {around : List String} {entry : List String × Java.ClassDecl}
    (h : entry ∈ (writer.classDecl package depth bean).located around) :
    ∃ depth inner, (inner = bean ∨ inner ∈ writer.registry.beans) ∧
      entry.2 = writer.classDecl package depth inner := by
  induction depth generalizing bean around with
  | zero =>
    have hnone : (writer.classDecl package 0 bean).nested = [] := by
      rw [classDecl]
      rfl
    rw [Java.ClassDecl.located_of_nested_eq_nil around hnone, List.mem_singleton] at h
    exact ⟨0, bean, .inl rfl, by rw [h]⟩
  | succ depth ih =>
    rw [Java.ClassDecl.located_eq, nested_classDecl_succ, List.flatMap_map, List.mem_cons] at h
    rcases h with rfl | h
    · exact ⟨depth + 1, bean, .inl rfl, rfl⟩
    · obtain ⟨helper, hhelper, hentry⟩ := List.mem_flatMap.1 h
      obtain ⟨depth, inner, hinner, hdecl⟩ := ih hentry
      refine ⟨depth, inner, .inr ?_, hdecl⟩
      exact hinner.elim (fun heq => heq ▸ (mem_nestedIn.1 hhelper).1) id

/-- The classes in the file of a class are that class and the helpers nested in it. -/
theorem classes_typeDecl {writer : Writer} {bean : Bean} (hnests : writer.registry.NestsOnce)
    (hmem : bean ∈ writer.registry.beans) (hkind : bean.kind = .javaClass)
    (htop : writer.registry.hostName? bean = none) :
    ∃ depth, (writer.typeDecl bean).classes =
      ([bean.name], writer.classDecl bean.package (depth + 1) bean) ::
        (writer.nestedIn bean.name).map fun helper =>
          ([bean.name, helper.name], writer.classDecl bean.package depth helper) := by
  obtain ⟨depth, hdepth⟩ := Nat.exists_eq_add_one_of_ne_zero
    (Nat.pos_iff_ne_zero.1 (List.length_pos_of_mem hmem))
  refine ⟨depth, ?_⟩
  have htype : writer.typeDecl bean =
      .ofClass (writer.classDecl bean.package (depth + 1) bean) := by
    rw [typeDecl, hkind, hdepth]
  rw [htype, Java.TypeDecl.classes, Java.ClassDecl.located_eq, nested_classDecl_succ,
    List.flatMap_map, name_classDecl, List.nil_append]
  congr 1
  have hsingle : ∀ helper ∈ writer.nestedIn bean.name,
      (writer.classDecl bean.package depth helper).located [bean.name] =
        [([bean.name, helper.name], writer.classDecl bean.package depth helper)] := by
    intro helper hhelper
    rw [Java.ClassDecl.located_of_nested_eq_nil _ (writer.nested_classDecl_eq_nil bean.package
      depth helper (nestedIn_eq_nil hnests hmem htop hhelper)), name_classDecl]
    rfl
  rw [List.map_eq_flatMap]
  exact List.flatMap_congr hsingle

end

end Writer

/-! ## The writer of a run -/

/-- The writer of a run. -/
def runWriter (config : Config) (roots : Roots) (files : Source.Files) : Writer :=
  .of (refinedBeans config roots files) config

/-- The source files of a run, each with its path. -/
def sourceUnits (config : Config) (roots : Roots) (files : Source.Files) (outputDir : String) :
    List (String × Java.SourceUnit) :=
  (runWriter config roots files).outputs outputDir

/-- A run writes the texts of its source files. -/
theorem sourceOutputs_eq (config : Config) (roots : Roots) (files : Source.Files)
    (outputDir : String) :
    sourceOutputs config roots outputDir files =
      (sourceUnits config roots files outputDir).map fun (path, unit) => .source path unit.text :=
  rfl

@[simp] theorem registry_runWriter (config : Config) (roots : Roots) (files : Source.Files) :
    (runWriter config roots files).registry = refinedBeans config roots files := rfl

end BeanGen

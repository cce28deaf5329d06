import BeanGen.Proofs.Render.Files
import BeanGen.Proofs.Render.Reference
import BeanGen.Proofs.TypeText.Names

/-!
# What the text of a file depends on

The file of a bean shows the bean, the helpers nested in it, and of all other beans only how they are
referred to. A reference depends on the package of the bean and on the class it is nested in
(`Writer.site?`), and it is looked up for the names in the types that the file shows (`Bean.written`).
So two writers write the same file for two beans if these show the same and nest the same, and if the
writers agree on those names (`Writer.unit_congr`).
-/

namespace BeanGen

open Text
open Java (isIdentifier)

namespace Writer

/-! ## Names -/

/-- What a reference to the bean of a name depends on: its package, and the class that it is nested in
with the package of this class. -/
def site? (writer : Writer) (name : String) : Option (String × Option (String × String)) :=
  (writer.registry.bean? name).map fun bean =>
    (bean.package, (writer.outerOf? bean).map fun outer => (outer.name, outer.package))

/-- Two writers write a name alike wherever it stands: it is empty, has a dot, is a name of the Java
library, or is referred to alike. -/
def AgreeOn (writer other : Writer) (name : String) : Prop :=
  name ≠ "" → '.' ∉ name.toList → Java.libraryName? name = none →
    writer.site? name = other.site? name

section
variable {writer other : Writer} (package inside : String)

/-- Beans of one name that are at the same site are referred to alike. -/
theorem reference_congr {bean bean' : Bean} (hname : bean.name = bean'.name)
    (hpackage : bean.package = bean'.package)
    (houter : (writer.outerOf? bean).map (fun outer => (outer.name, outer.package)) =
      (other.outerOf? bean').map fun outer => (outer.name, outer.package)) :
    writer.reference package inside bean = other.reference package inside bean' := by
  unfold reference
  cases hleft : writer.outerOf? bean with
  | none =>
    cases hright : other.outerOf? bean' with
    | none => dsimp only; rw [hname, hpackage]
    | some outer' => rw [hleft, hright] at houter; cases houter
  | some outer =>
    cases hright : other.outerOf? bean' with
    | none => rw [hleft, hright] at houter; cases houter
    | some outer' =>
      rw [hleft, hright, Option.map_some, Option.map_some] at houter
      obtain ⟨houterName, houterPackage⟩ := Prod.mk.inj (Option.some.inj houter)
      dsimp only
      rw [hname, houterName, houterPackage]

/-- Writers that agree on a name write it alike. -/
theorem qualifyName_congr {name : String} (h : writer.AgreeOn other name) :
    writer.qualifyName package inside name = other.qualifyName package inside name := by
  by_cases hempty : name = ""
  · rw [hempty]
    rfl
  by_cases hdot : '.' ∈ name.toList
  · rw [qualifyName_of_dot _ _ _ hdot, qualifyName_of_dot _ _ _ hdot]
  rw [qualifyName_eq _ _ _ hempty hdot, qualifyName_eq _ _ _ hempty hdot]
  cases hlibrary : Java.libraryName? name with
  | some written => rfl
  | none =>
    have hsite := h hempty hdot hlibrary
    unfold site? at hsite
    rw [Option.getD_none, Option.getD_none]
    cases hleft : writer.registry.bean? name with
    | none =>
      cases hright : other.registry.bean? name with
      | none => rfl
      | some bean' => rw [hleft, hright] at hsite; cases hsite
    | some bean =>
      cases hright : other.registry.bean? name with
      | none => rw [hleft, hright] at hsite; cases hsite
      | some bean' =>
        rw [hleft, hright, Option.map_some, Option.map_some] at hsite
        obtain ⟨hpackage, houter⟩ := Prod.mk.inj (Option.some.inj hsite)
        have hname : bean.name = bean'.name :=
          (Registry.bean?_eq_some_iff.1 hleft).2.trans (Registry.bean?_eq_some_iff.1 hright).2.symm
        exact reference_congr package inside hname hpackage houter

/-! ## Type expressions -/

variable {type name : List Char}

/-- A blank expression is written as an object. -/
theorem qualifyText_of_allBlank (h : allBlank type = true) :
    writer.qualifyText package inside type = "Object".toList := by
  rw [qualifyText, if_pos h]

/-- Type arguments are written behind the name, each on its own. -/
theorem qualifyText_of_applied {args : List (List Char)} (hblank : allBlank type = false)
    (h : TypeText.outline (trim type) = .applied name args) :
    writer.qualifyText package inside type =
      (writer.qualifyName package inside (String.ofList name)).toList ++ '<' ::
        ", ".toList.intercalate
          ((args.filter (!·.isEmpty)).map (writer.qualifyText package inside)) ++ ['>'] := by
  rw [qualifyText, if_neg (by rw [hblank]; exact Bool.false_ne_true)]
  split
  · next houtline =>
    rw [h] at houtline
    cases houtline
    have hargs : (args.filter (!·.isEmpty)).map (writer.qualifyText package inside) =
        (args.attach.filter (!·.1.isEmpty)).map fun arg => writer.qualifyText package inside arg.1 := by
      have hval := congrArg (List.filter (!·.isEmpty)) (List.attach_map_subtype_val args)
      rw [List.filter_map] at hval
      rw [← hval, List.map_map]
      rfl
    rw [hargs]
  · next houtline => rw [h] at houtline; cases houtline
  · next houtline => rw [h] at houtline; cases houtline

/-- An array is written as its element with brackets behind. -/
theorem qualifyText_of_array {element : List Char} (hblank : allBlank type = false)
    (h : TypeText.outline (trim type) = .array element) :
    writer.qualifyText package inside type =
      writer.qualifyText package inside element ++ ['[', ']'] := by
  rw [qualifyText, if_neg (by rw [hblank]; exact Bool.false_ne_true)]
  split
  · next houtline => rw [h] at houtline; cases houtline
  · next houtline =>
    rw [h] at houtline
    cases houtline
    rfl
  · next houtline => rw [h] at houtline; cases houtline

/-- Anything else is written as one name. -/
theorem qualifyText_of_simple (hblank : allBlank type = false)
    (h : TypeText.outline (trim type) = .simple name) :
    writer.qualifyText package inside type =
      (writer.qualifyName package inside (String.ofList name)).toList := by
  rw [qualifyText, if_neg (by rw [hblank]; exact Bool.false_ne_true)]
  split
  · next houtline => rw [h] at houtline; cases houtline
  · next houtline => rw [h] at houtline; cases houtline
  · next houtline =>
    rw [h] at houtline
    cases houtline
    rfl

/-- Writers that agree on the names of a type expression write it alike. -/
theorem qualifyText_congr (type : List Char)
    (h : ∀ name ∈ TypeText.names type, writer.AgreeOn other (String.ofList name)) :
    writer.qualifyText package inside type = other.qualifyText package inside type := by
  cases hblank : allBlank type with
  | true => rw [qualifyText_of_allBlank _ _ hblank, qualifyText_of_allBlank _ _ hblank]
  | false =>
    cases houtline : TypeText.outline (trim type) with
    | applied name args =>
      rw [TypeText.names_of_applied hblank houtline] at h
      rw [qualifyText_of_applied _ _ hblank houtline, qualifyText_of_applied _ _ hblank houtline,
        qualifyName_congr _ _ (h name List.mem_cons_self)]
      have hargs : (args.filter (!·.isEmpty)).map (writer.qualifyText package inside) =
          (args.filter (!·.isEmpty)).map (other.qualifyText package inside) := by
        refine List.map_congr_left fun arg harg => ?_
        have hmem : arg ∈ args := List.mem_of_mem_filter harg
        have hlength : arg.length < type.length :=
          Nat.lt_of_lt_of_le (TypeText.length_lt_of_mem_parts_outline (by rw [houtline]; exact hmem))
            (length_trim_le type)
        exact qualifyText_congr arg fun name hname =>
          h name (List.mem_cons_of_mem _ (List.mem_flatMap.2 ⟨arg, hmem, hname⟩))
      rw [hargs]
    | array element =>
      have hlength : element.length < type.length :=
        Nat.lt_of_lt_of_le
          (TypeText.length_lt_of_mem_parts_outline (by rw [houtline]; exact List.mem_singleton_self _))
          (length_trim_le type)
      rw [TypeText.names_of_array hblank houtline] at h
      rw [qualifyText_of_array _ _ hblank houtline, qualifyText_of_array _ _ hblank houtline,
        qualifyText_congr element h]
    | simple name =>
      rw [TypeText.names_of_simple hblank houtline] at h
      rw [qualifyText_of_simple _ _ hblank houtline, qualifyText_of_simple _ _ hblank houtline,
        qualifyName_congr _ _ (h name (List.mem_singleton_self _))]
termination_by type.length

/-- Writers agree on a type when they agree on the names in it. -/
def AgreeOnType (writer other : Writer) (type : String) : Prop :=
  ∀ name ∈ TypeText.names type.toList, writer.AgreeOn other (String.ofList name)

/-- Writers that agree on a type write it alike. -/
theorem qualify_congr {type : String} (h : writer.AgreeOnType other type) :
    writer.qualify package inside type = other.qualify package inside type :=
  congrArg String.ofList (qualifyText_congr package inside type.toList h)

/-- Writers that agree on types write them alike. -/
theorem qualifyAll_congr {types : List String} (h : ∀ type ∈ types, writer.AgreeOnType other type) :
    writer.qualifyAll package inside types = other.qualifyAll package inside types :=
  List.map_congr_left fun type htype =>
    qualify_congr package inside (h type (List.mem_of_mem_filter htype))

end

end Writer

/-! ## Classes -/

/-- The bean without its links and without the file it comes from. -/
def Bean.content (bean : Bean) : Bean :=
  { bean.unlinked with sourcePath := none }

/-- The types that the file of a class or an enum shows: its base, its interfaces, and the types of the
fields that can be declared. -/
def Bean.written (bean : Bean) : List String :=
  bean.base.toList ++ bean.interfaces ++
    (bean.fields.filter fun field => isIdentifier field.name).map (·.type)

/-- Fields without repetition are fields. -/
theorem Bean.mem_of_mem_firstByKey {α : Type} {key : α → String} {seen : List String} {a : α}
    {elements : List α} (h : a ∈ firstByKey key seen elements) : a ∈ elements := by
  induction elements generalizing seen with
  | nil => cases h
  | cons first rest ih =>
    unfold firstByKey at h
    split at h
    · exact List.mem_cons_of_mem _ (ih h)
    · rcases List.mem_cons.1 h with rfl | hmem
      · exact List.mem_cons_self
      · exact List.mem_cons_of_mem _ (ih hmem)

namespace Writer

/-- The class of a bean around given nested classes. -/
def classAround (writer : Writer) (package : String) (bean : Bean)
    (nested : List (String × Java.ClassDecl)) : Java.ClassDecl :=
  let fields := bean.distinctFields.filter fun field => isIdentifier field.name
  .mk
    (writer.classAnnotations ++ standardAnnotations ++
      if fields.isEmpty then [] else [allFieldsConstructor])
    bean.name
    (writer.baseOf? package bean)
    ((writer.qualifyAll package bean.name bean.interfaces).filter isTypeName)
    (fields.map (writer.fieldDecl package bean.name))
    nested

section
variable (writer : Writer) (package : String) (depth : Nat) (bean : Bean)

/-- Around the helpers nested in it stands the class of a bean. -/
theorem classDecl_succ :
    writer.classDecl package (depth + 1) bean =
      writer.classAround package bean ((writer.nestedIn bean.name).map fun helper =>
        (helperLabel bean.name helper.name, writer.classDecl package depth helper)) := by
  rw [classDecl]
  rfl

/-- A class in which nothing is nested stands around nothing. -/
theorem classDecl_of_nestedIn_eq_nil (h : writer.nestedIn bean.name = []) :
    writer.classDecl package depth bean = writer.classAround package bean [] := by
  cases depth with
  | zero =>
    rw [classDecl]
    rfl
  | succ depth => rw [classDecl_succ, h, List.map_nil]

/-- The file of a class has the class with the helpers nested in it, and nothing nested in these. -/
theorem typeDecl_of_javaClass {writer : Writer} {bean : Bean} (hnests : writer.registry.NestsOnce)
    (hmem : bean ∈ writer.registry.unlinkedBeans) (hkind : bean.kind = .javaClass)
    (htop : writer.registry.hostName? bean = none) :
    writer.typeDecl bean =
      .ofClass (writer.classAround bean.package bean ((writer.nestedIn bean.name).map fun helper =>
        (helperLabel bean.name helper.name, writer.classAround bean.package helper []))) := by
  obtain ⟨member, hmember, rfl⟩ := List.mem_map.1 hmem
  obtain ⟨depth, hdepth⟩ := Nat.exists_eq_add_one_of_ne_zero
    (Nat.pos_iff_ne_zero.1 (List.length_pos_of_mem hmember))
  rw [typeDecl, hkind, hdepth]
  dsimp only
  rw [classDecl_succ]
  refine congrArg (fun nested => Java.TypeDecl.ofClass (writer.classAround _ _ nested)) ?_
  refine List.map_congr_left fun helper hhelper => ?_
  rw [classDecl_of_nestedIn_eq_nil _ _ _ _ (nestedIn_eq_nil hnests hmember htop hhelper)]

end

section
variable {registry other : Registry} {config : Config} {bean : Bean} (package : String)

/-- Writers that agree on the types which a class shows write the class alike. -/
theorem classAround_congr {nested : List (String × Java.ClassDecl)}
    (h : ∀ type ∈ bean.written, (of registry config).AgreeOnType (of other config) type) :
    (of registry config).classAround package bean nested =
      (of other config).classAround package bean nested := by
  have hbase : (of registry config).baseOf? package bean = (of other config).baseOf? package bean := by
    unfold baseOf?
    cases hbean : bean.base with
    | none => rfl
    | some base =>
      have hagree := h base (by simp [Bean.written, hbean])
      rw [Option.filter_some]
      split
      · rw [Option.map_some, Option.map_some, qualify_congr _ _ hagree]
      · rfl
  have hinterfaces : (of registry config).qualifyAll package bean.name bean.interfaces =
      (of other config).qualifyAll package bean.name bean.interfaces :=
    qualifyAll_congr _ _ fun type htype => h type (by simp [Bean.written, htype])
  have hfields : (bean.distinctFields.filter fun field => isIdentifier field.name).map
        ((of registry config).fieldDecl package bean.name) =
      (bean.distinctFields.filter fun field => isIdentifier field.name).map
        ((of other config).fieldDecl package bean.name) := by
    refine List.map_congr_left fun field hfield => ?_
    obtain ⟨hmem, hname⟩ := List.mem_filter.1 hfield
    have hwritten : field.type ∈ bean.written :=
      List.mem_append_right _ (List.mem_map.2
        ⟨field, List.mem_filter.2 ⟨Bean.mem_of_mem_firstByKey hmem, hname⟩, rfl⟩)
    unfold fieldDecl
    rw [qualify_congr _ _ (h _ hwritten)]
    rfl
  unfold classAround
  dsimp only
  rw [hbase, hinterfaces, hfields]
  rfl

/-- Writers that agree on the types which an enum shows write the enum alike. -/
theorem enumDecl_congr
    (h : ∀ type ∈ bean.written, (of registry config).AgreeOnType (of other config) type) :
    (of registry config).enumDecl bean = (of other config).enumDecl bean := by
  have hinterfaces : (of registry config).qualifyAll bean.package bean.name bean.interfaces =
      (of other config).qualifyAll bean.package bean.name bean.interfaces :=
    qualifyAll_congr _ _ fun type htype => h type (by simp [Bean.written, htype])
  unfold enumDecl
  rw [hinterfaces]

/-- What is nested is written alike by writers that nest the same and agree on the types it shows. -/
theorem nested_congr (name : String)
    (hnested : ((of registry config).nestedIn name).map Bean.content =
      ((of other config).nestedIn name).map Bean.content)
    (hagree : ∀ helper ∈ (of registry config).nestedIn name,
      ∀ type ∈ helper.written, (of registry config).AgreeOnType (of other config) type) :
    (((of registry config).nestedIn name).map fun helper =>
        (helperLabel name helper.name, (of registry config).classAround package helper [])) =
      ((of other config).nestedIn name).map fun helper =>
        (helperLabel name helper.name, (of other config).classAround package helper []) := by
  have hcontent : ∀ helpers : List Bean,
      (helpers.map fun helper =>
        (helperLabel name helper.name, (of other config).classAround package helper [])) =
      (helpers.map Bean.content).map fun helper =>
        (helperLabel name helper.name, (of other config).classAround package helper []) := by
    intro helpers
    rw [List.map_map]
    rfl
  rw [hcontent ((of other config).nestedIn name), ← hnested, ← hcontent]
  refine List.map_congr_left fun helper hhelper => ?_
  rw [classAround_congr package (hagree helper hhelper)]

/-! ## Files -/

/-- Two writers write the same file for beans that show the same, come from files of one name and nest
the same, if they agree on the types which these show. -/
theorem unit_congr {bean bean' : Bean}
    (hnests : registry.NestsOnce) (hnests' : other.NestsOnce)
    (hmem : bean ∈ registry.unlinkedBeans) (hmem' : bean' ∈ other.unlinkedBeans)
    (htop : registry.hostName? bean = none) (htop' : other.hostName? bean' = none)
    (hkind : bean.kind ≠ .javaInterface) (hcontent : bean.content = bean'.content)
    (hsource : (header bean).sourceFile = (header bean').sourceFile)
    (hnested : ((of registry config).nestedIn bean.name).map Bean.content =
      ((of other config).nestedIn bean.name).map Bean.content)
    (hagree : ∀ shown ∈ bean :: (of registry config).nestedIn bean.name,
      ∀ type ∈ shown.written, (of registry config).AgreeOnType (of other config) type) :
    (of registry config).unit bean = (of other config).unit bean' := by
  have hsame {α : Type} (read : Bean → α) : read bean.content = read bean'.content :=
    congrArg read hcontent
  have hname : bean.name = bean'.name := hsame Bean.name
  have hpackage : bean.package = bean'.package := hsame Bean.package
  have hkind' : bean.kind = bean'.kind := hsame Bean.kind
  have hheader : header bean = header bean' := by
    have horigin : bean.origin = bean'.origin := hsame Bean.origin
    have hdropped : bean.unresolvedBases = bean'.unresolvedBases := hsame Bean.unresolvedBases
    have hfile : (bean.sourcePath.filter (· != "")).map Place.fileName =
        (bean'.sourcePath.filter (· != "")).map Place.fileName := hsource
    unfold header
    rw [hfile, horigin, hkind', hname, hdropped]
  have hown := hagree bean List.mem_cons_self
  have htype : (of registry config).typeDecl bean = (of other config).typeDecl bean' := by
    cases h : bean.kind with
    | javaInterface => exact absurd h hkind
    | javaEnum =>
      have henum : (of other config).enumDecl bean = (of other config).enumDecl bean' := by
        show (of other config).enumDecl bean.content = (of other config).enumDecl bean'.content
        rw [hcontent]
      rw [typeDecl, typeDecl, ← hkind', h]
      dsimp only
      rw [enumDecl_congr hown, henum]
    | javaClass =>
      have hclass : ∀ nested, (of other config).classAround bean.package bean nested =
          (of other config).classAround bean'.package bean' nested := by
        intro nested
        show (of other config).classAround bean.content.package bean.content nested =
          (of other config).classAround bean'.content.package bean'.content nested
        rw [hcontent]
      rw [typeDecl_of_javaClass hnests hmem h htop,
        typeDecl_of_javaClass hnests' hmem' (hkind'.symm.trans h) htop',
        nested_congr _ _ hnested fun helper hhelper => hagree helper (List.mem_cons_of_mem _ hhelper),
        classAround_congr _ hown, hclass, hname, hpackage]
  unfold unit
  rw [hheader, hpackage, htype]

end

/-- The files of a writer are those of the beans that get one, in their order, links left aside. -/
theorem outputs_eq (writer : Writer) (outputDir : String) :
    writer.outputs outputDir =
      (writer.registry.unlinkedBeans.filter writer.registry.isEmitted).map fun bean =>
        (pathOf outputDir bean, writer.unit bean) := by
  have hshown : ∀ bean : Bean,
      writer.registry.isEmitted bean.unlinked = writer.registry.isEmitted bean := fun _ => rfl
  rw [outputs, emitted_eq, Registry.unlinkedBeans, List.filter_map, List.map_map]
  refine List.map_congr_left fun bean _ => ?_
  rw [Function.comp_apply, unit_unlinked, pathOf_unlinked]

/-! ## What is nested, and where -/

/-- The class that a helper is nested in is what the registry holds under the owner of the helper. -/
theorem map_unlinked_outerOf? (writer : Writer) (bean : Bean) :
    (writer.outerOf? bean).map Bean.unlinked =
      ((bean.owner.filter (· != "")).bind writer.registry.bean?).filter (·.kind == .javaClass) := by
  unfold outerOf? Registry.resolve?
  cases bean.owner with
  | none => rfl
  | some owner =>
    have hview := writer.registry.get?_unlinked owner
    rw [Option.bind_some, Option.filter_some]
    by_cases hempty : owner = ""
    · subst hempty
      rfl
    · rw [if_neg hempty] at hview
      rw [if_pos (by simpa using hempty), Option.bind_some, ← hview]
      cases writer.registry.get? owner with
      | none => rfl
      | some outer =>
        rw [Option.filter_some, Option.map_some, Option.filter_some, Bean.unlinked_kind]
        split <;> rfl

section
variable {writer other : Writer}

/-- Beans of one owner are nested in classes of one name and package where the same stands under the
owner. -/
theorem map_outerOf?_congr {bean bean' : Bean} (howner : bean.owner = bean'.owner)
    (hhost : ∀ owner, bean.owner = some owner → (writer.registry.bean? owner).map Bean.content =
      (other.registry.bean? owner).map Bean.content) :
    (writer.outerOf? bean).map (fun outer => (outer.name, outer.package)) =
      (other.outerOf? bean').map fun outer => (outer.name, outer.package) := by
  have hview : ∀ (writer : Writer) (bean : Bean),
      (writer.outerOf? bean).map (fun outer => (outer.name, outer.package)) =
        ((bean.owner.filter (· != "")).bind fun owner =>
          ((writer.registry.bean? owner).map Bean.content).filter (·.kind == .javaClass)).map
            fun outer => (outer.name, outer.package) := by
    intro writer bean
    have hunlinked := congrArg (Option.map fun outer : Bean => (outer.name, outer.package))
      (writer.map_unlinked_outerOf? bean)
    rw [Option.map_map] at hunlinked
    refine Eq.trans hunlinked ?_
    cases bean.owner.filter (· != "") with
    | none => rfl
    | some owner =>
      rw [Option.bind_some, Option.bind_some]
      cases writer.registry.bean? owner with
      | none => rfl
      | some outer =>
        have hkind : outer.content.kind = outer.kind := rfl
        rw [Option.map_some, Option.filter_some, Option.filter_some, hkind]
        split <;> rfl
  rw [hview writer, hview other, ← howner]
  cases howned : bean.owner with
  | none => rfl
  | some owner =>
    rw [Option.filter_some]
    split
    · rw [Option.bind_some, Option.bind_some, hhost owner howned]
    · rfl

/-- A name is referred to alike where the same stands under it and under the owner of what stands under
it. -/
theorem site?_congr {name : String}
    (hself : (writer.registry.bean? name).map Bean.content =
      (other.registry.bean? name).map Bean.content)
    (hhost : ∀ bean owner, writer.registry.bean? name = some bean → bean.owner = some owner →
      (writer.registry.bean? owner).map Bean.content =
        (other.registry.bean? owner).map Bean.content) :
    writer.site? name = other.site? name := by
  unfold site?
  cases hleft : writer.registry.bean? name with
  | none =>
    cases hright : other.registry.bean? name with
    | none => rfl
    | some bean' => rw [hleft, hright] at hself; cases hself
  | some bean =>
    cases hright : other.registry.bean? name with
    | none => rw [hleft, hright] at hself; cases hself
    | some bean' =>
      rw [hleft, hright, Option.map_some, Option.map_some] at hself
      have hcontent : bean.content = bean'.content := Option.some.inj hself
      have hsame {α : Type} (read : Bean → α) : read bean.content = read bean'.content :=
        congrArg read hcontent
      have hpackage : bean.package = bean'.package := hsame Bean.package
      have howner : bean.owner = bean'.owner := hsame Bean.owner
      rw [Option.map_some, Option.map_some, hpackage,
        map_outerOf?_congr howner fun owner h => hhost bean owner hleft h]

/-- In a class its helpers are nested, and in nothing else anything is nested. -/
theorem nestedIn_eq_filter_owner (writer : Writer) (name : String) :
    writer.nestedIn name =
      if (name != "" && (writer.registry.bean? name).any (·.kind == .javaClass)) = true then
        writer.registry.beans.filter (·.owner == some name)
      else [] := by
  rw [nestedIn_eq]
  split
  · next hclass =>
    refine List.filter_congr fun bean _ => ?_
    rw [Registry.hostName?]
    cases bean.owner with
    | none => rfl
    | some owner =>
      rw [Option.filter_some]
      by_cases hsame : owner = name
      · rw [hsame, if_pos hclass]
      · have hne : (some owner == some name) = false := beq_false_of_ne fun heq =>
          hsame (Option.some.inj heq)
        rw [hne]
        split
        · exact hne
        · rfl
  · next hclass =>
    refine List.filter_eq_nil_iff.2 fun bean _ hhost => hclass ?_
    exact (Option.filter_eq_some_iff.1 (eq_of_beq hhost)).2

end

end Writer

/-! ## The files of runs -/

/-- No bean of a run is an interface. -/
theorem Registry.kind_ne_javaInterface {config : Config} {roots : Roots} {files : Source.Files}
    {bean : Bean} (h : bean ∈ (refinedBeans config roots files).unlinkedBeans) :
    bean.kind ≠ .javaInterface := by
  obtain ⟨member, hmember, rfl⟩ := List.mem_map.1 h
  rw [beans_refinedBeans] at hmember
  obtain ⟨declared, hdeclared, rfl⟩ := List.mem_map.1 hmember
  rw [Bean.unlinked_kind, (declared.keepsDeclaration_settled config roots _).kind]
  exact (madeFrom_of_mem hdeclared).kind_ne_javaInterface

section
variable {config : Config} {roots roots' : Roots} {files files' : Source.Files} {bean bean' : Bean}

/-- Two runs write the same file for beans that show the same, come from files of one name and own the
same helpers, if they agree on the types which these show. -/
theorem unit_runWriter_congr
    (hmem : bean ∈ (refinedBeans config roots files).unlinkedBeans)
    (hmem' : bean' ∈ (refinedBeans config roots' files').unlinkedBeans)
    (htop : (refinedBeans config roots files).hostName? bean = none)
    (htop' : (refinedBeans config roots' files').hostName? bean' = none)
    (hcontent : bean.content = bean'.content)
    (hsource : (Writer.header bean).sourceFile = (Writer.header bean').sourceFile)
    (howned : ((refinedBeans config roots files).unlinkedBeans.filter
        (·.owner == some bean.name)).map Bean.content =
      ((refinedBeans config roots' files').unlinkedBeans.filter
        (·.owner == some bean.name)).map Bean.content)
    (hagree : ∀ shown ∈ (refinedBeans config roots files).unlinkedBeans,
      shown = bean ∨ shown.owner = some bean.name →
        ∀ type ∈ shown.written,
          (runWriter config roots files).AgreeOnType (runWriter config roots' files') type) :
    (runWriter config roots files).unit bean = (runWriter config roots' files').unit bean' := by
  have hsame {α : Type} (read : Bean → α) : read bean.content = read bean'.content :=
    congrArg read hcontent
  have hname : bean.name = bean'.name := hsame Bean.name
  have hkind : bean.kind = bean'.kind := hsame Bean.kind
  have hview : (refinedBeans config roots files).bean? bean.name = some bean :=
    Registry.bean?_eq_some_iff.2 ⟨hmem, rfl⟩
  have hview' : (refinedBeans config roots' files').bean? bean.name = some bean' :=
    Registry.bean?_eq_some_iff.2 ⟨hmem', hname.symm⟩
  have howners : ∀ registry : Registry,
      (registry.beans.filter (·.owner == some bean.name)).map Bean.content =
        (registry.unlinkedBeans.filter (·.owner == some bean.name)).map Bean.content := by
    intro registry
    rw [Registry.unlinkedBeans, List.filter_map, List.map_map]
    rfl
  have hnested : ((Writer.of (refinedBeans config roots files) config).nestedIn bean.name).map
        Bean.content =
      ((Writer.of (refinedBeans config roots' files') config).nestedIn bean.name).map
        Bean.content := by
    have hregistry : ∀ registry : Registry, (Writer.of registry config).registry = registry :=
      fun _ => rfl
    rw [Writer.nestedIn_eq_filter_owner, Writer.nestedIn_eq_filter_owner, hregistry, hregistry, hview,
      hview', Option.any_some, Option.any_some, hkind]
    split
    · rw [howners, howners, howned]
    · rfl
  refine Writer.unit_congr (Registry.nestsOnce_refinedBeans config roots files)
    (Registry.nestsOnce_refinedBeans config roots' files') hmem hmem' htop htop'
    (Registry.kind_ne_javaInterface hmem) hcontent hsource hnested ?_
  intro shown hshown
  rcases List.mem_cons.1 hshown with rfl | hhelper
  · exact hagree shown hmem (.inl rfl)
  · obtain ⟨hbeans, hhost⟩ := Writer.mem_nestedIn.1 hhelper
    exact hagree shown.unlinked (List.mem_map_of_mem hbeans)
      (.inr (Registry.owner_of_hostName? hhost))

end

end BeanGen

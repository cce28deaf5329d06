import BeanGen.Proofs.Refine.Frame
import BeanGen.Proofs.Render.DeclaredNames
import BeanGen.Proofs.Render.Kept

/-!
# Types that a comment asks for

A comment behind a member can ask for a Java type. Such a hint decides alone what the type of the field
is, whatever type the member has itself, and no helper is made for it (`Field.type_ofMember_of_hint`).
Where the configuration neither replaces type names nor fixes field types, the passes keep it
(`Bean.fields_refined`). But the writer does not know which types are hints and writes all of them alike.
So a hint stands in the file as it was given, but for white space at its ends, exactly when the writer
leaves it alone: when it is laid out already and all its names are kept (`fieldType_eq_hint_iff`).
-/

namespace BeanGen

open Text
open Source (Declaration Property)

/-! ## The members behind the fields -/

/-- The bean of a name is made from these members: it is that of a declaration with the members, or the
helper for a directional object type with the members. -/
inductive Source.Files.MembersOf (files : Source.Files) (name : String) : List Property → Prop
  | declared {path : String} {decl : Declaration} (hdecl : (path, decl) ∈ files.declarations)
      (hbean : (Registry.ofFiles files).bean? name = some (decl.bean path)) :
      files.MembersOf name decl.members
  | helper {path : String} {decl : Declaration} {property : Property}
      (hdecl : (path, decl) ∈ files.declarations) (hmember : property ∈ decl.members)
      (hneeds : needsHelper property = true)
      (hbean : (Registry.ofFiles files).bean? name =
        some (helperBean decl.name path (helperName decl.name property) property)) :
      files.MembersOf name (property.members.getD [])

/-- The member that a field of a class comes from has a hint. Of several members with one name the field
comes from the first. -/
def Source.Files.HasHint (files : Source.Files) (name field hint : String) : Prop :=
  ∃ members property, files.MembersOf name members ∧
    members.find? (·.name == field) = some property ∧ property.typeHint = some hint

/-- Every bean is made from some members. -/
theorem Source.Files.exists_membersOf {files : Source.Files} {bean : Bean}
    (hmem : bean ∈ (Registry.ofFiles files).beans) : ∃ members, files.MembersOf bean.name members := by
  have hview := Registry.bean?_of_mem hmem
  have hmade := Registry.madeFrom_of_mem hmem
  generalize bean.unlinked = view at hview hmade
  cases hmade with
  | declared hdecl => exact ⟨_, .declared hdecl hview⟩
  | helper hdecl hmember hneeds => exact ⟨_, .helper hdecl hmember hneeds hview⟩

section
variable {property : Property} {hint : String} (hhint : property.typeHint = some hint)
  (hblank : isBlankText hint = false)
include hhint hblank

/-- A hint decides the type of a member alone. -/
theorem mappedType_of_hint : mappedType property = trimmed hint := by
  rw [mappedType, TypeText.javaTypeText, hhint, Option.bind_some, nonBlank?,
    if_neg (by rw [hblank]; exact Bool.false_ne_true)]

/-- A field with a hint has the type of the hint. -/
theorem Field.type_ofMember_of_hint (owner : String) :
    (Field.ofMember owner property).type = trimmed hint := by
  have hempty : hint ≠ "" := by
    rintro rfl
    exact absurd hblank (by decide)
  have hneeds : needsHelper property = false := by
    rw [needsHelper]
    split
    · rw [hhint, Option.getD_some, beq_false_of_ne hempty, Bool.false_and]
    · rfl
  rw [Field.ofMember, hneeds]
  exact mappedType_of_hint hhint hblank

end

/-! ## The first member of a name -/

/-- What is left of elements without repetition is the first with its key. -/
theorem Bean.find?_of_mem_firstByKey {α : Type} {key : α → String} {seen : List String} {as : List α}
    {a : α} (h : a ∈ firstByKey key seen as) : as.find? (key · == key a) = some a := by
  induction as generalizing seen with
  | nil => cases h
  | cons first rest ih =>
    have hnew : key a ∉ seen := (mem_map_firstByKey.1 (List.mem_map_of_mem h)).2
    rw [firstByKey] at h
    split at h
    · next hseen =>
      have hne : key first ≠ key a := fun heq => hnew (heq ▸ List.contains_iff_mem.1 hseen)
      rw [List.find?_cons_of_neg (by simpa using hne)]
      exact ih h
    · rcases List.mem_cons.1 h with rfl | hrest
      · exact List.find?_cons_of_pos (by simp)
      · have hnotSeen : key a ∉ key first :: seen :=
          (mem_map_firstByKey.1 (List.mem_map_of_mem hrest)).2
        have hne : key first ≠ key a := fun heq => hnotSeen (heq ▸ List.mem_cons_self)
        rw [List.find?_cons_of_neg (by simpa using hne)]
        exact ih hrest

/-- A field made from members is made from the first of its name. -/
theorem Bean.eq_of_mem_distinctFields {bean : Bean} {members : List Property} {make : Property → Field}
    (hmake : ∀ property, (make property).name = property.name)
    (hfields : bean.fields = members.map make) {field : Field} (hfield : field ∈ bean.distinctFields)
    {property : Property} (hproperty : members.find? (·.name == field.name) = some property) :
    field = make property := by
  have hfirst := find?_of_mem_firstByKey hfield
  have htest : (fun other : Field => other.name == field.name) ∘ make =
      fun other : Property => other.name == field.name := by
    funext other
    rw [Function.comp_apply, hmake]
  rw [hfields, List.find?_map, htest, hproperty] at hfirst
  exact (Option.some.inj hfirst).symm

/-- The field of a member with a hint has the type of the hint. -/
theorem Source.Files.type_of_hasHint {files : Source.Files} {bean : Bean} {field : Field}
    {hint : String} (hmem : bean ∈ (Registry.ofFiles files).beans)
    (hfield : field ∈ bean.distinctFields) (hhint : files.HasHint bean.name field.name hint)
    (hblank : isBlankText hint = false) : field.type = trimmed hint := by
  obtain ⟨members, property, hmembers, hproperty, hhint⟩ := hhint
  have hview := Registry.bean?_of_mem hmem
  cases hmembers with
  | @declared path decl _ hbean =>
    have hmade : bean.unlinked = decl.bean path := Option.some.inj (hview.symm.trans hbean)
    have hsome : decl.members ≠ [] := List.ne_nil_of_mem (List.mem_of_find?_eq_some hproperty)
    have hfields : bean.fields = decl.members.map (Field.ofMember decl.name) :=
      (congrArg Bean.fields hmade).trans (Declaration.fields_bean path hsome)
    rw [Bean.eq_of_mem_distinctFields (fun _ => rfl) hfields hfield hproperty]
    exact Field.type_ofMember_of_hint hhint hblank _
  | @helper path decl member _ _ _ hbean =>
    have hmade : bean.unlinked =
        helperBean decl.name path (helperName decl.name member) member :=
      Option.some.inj (hview.symm.trans hbean)
    have hfields : bean.fields = (member.members.getD []).map fun member =>
        .ofProperty member (mappedType member) none :=
      congrArg Bean.fields hmade
    rw [Bean.eq_of_mem_distinctFields (fun _ => rfl) hfields hfield hproperty]
    exact mappedType_of_hint hhint hblank

/-! ## The fields of a file -/

/-- Each class in a file is the class of a bean, written in the package of the file. -/
theorem Writer.exists_of_mem_classes {writer : Writer} {outputDir : String}
    {output : String × Java.SourceUnit} (houtput : output ∈ writer.outputs outputDir)
    {entry : List String × Java.ClassDecl} (hclass : entry ∈ output.2.type.classes) :
    ∃ bean ∈ writer.registry.beans, ∃ depth,
      entry.2 = writer.classDecl output.2.package depth bean := by
  obtain ⟨host, hhost, -, rfl⟩ := mem_outputs.1 houtput
  change entry ∈ (writer.typeDecl host).classes at hclass
  cases hkind : host.kind with
  | javaClass =>
    rw [typeDecl, hkind] at hclass
    obtain ⟨depth, bean, hbean, hdecl⟩ := exists_of_mem_located hclass
    exact ⟨bean, hbean.elim (fun heq => heq ▸ hhost) id, depth, hdecl⟩
  | javaInterface | javaEnum =>
    rw [typeDecl, hkind] at hclass
    cases hclass

/-- A member whose name can be declared has its field in the file of the declaration. -/
theorem exists_field_of_member (config : Config) (roots : Roots) (files : Source.Files)
    (outputDir : String) {path : String} {decl : Declaration}
    (hbean : (Registry.ofFiles files).bean? decl.name = some (decl.bean path))
    (hname : Java.isIdentifier decl.name = true) {property : Property}
    (hmember : property ∈ decl.members) (hcheck : Java.isIdentifier property.name = true) :
    ∃ output ∈ sourceUnits config roots files outputDir, ∃ entry ∈ output.2.type.classes,
      entry.2.name = decl.name ∧ ∃ field ∈ entry.2.fields, field.name = property.name := by
  have hkeeps := (decl.bean path).keepsDeclaration_refined config roots (Registry.ofFiles files)
  have houtput := mem_sourceUnits config roots files outputDir hbean hname
  have hfields := Declaration.fields_bean path (List.ne_nil_of_mem hmember)
  generalize (decl.bean path).refined config roots (Registry.ofFiles files) = bean at hkeeps houtput
  have hkind : bean.kind = .javaClass := by
    rw [hkeeps.kind]
    exact Declaration.kind_bean path (List.ne_nil_of_mem hmember)
  have hfield : property.name ∈ bean.distinctFields.map (·.name) := by
    rw [Bean.mem_names_distinctFields, hkeeps.fieldNames, hfields, List.map_map]
    exact List.mem_map_of_mem hmember
  obtain ⟨field, hdistinct, hfieldName⟩ := List.mem_map.1 hfield
  refine ⟨_, houtput, ([bean.name], (runWriter config roots files).classDecl bean.package
    (runWriter config roots files).registry.beans.length bean), ?_, ?_, ?_⟩
  · show _ ∈ ((runWriter config roots files).typeDecl bean).classes
    rw [Writer.typeDecl, hkind, Java.TypeDecl.classes, Java.ClassDecl.located_eq,
      Writer.name_classDecl]
    exact List.mem_cons_self
  · rw [Writer.name_classDecl, hkeeps.name, Declaration.bean_name]
  · rw [Writer.fields_classDecl]
    refine ⟨_, List.mem_map_of_mem (List.mem_filter.2 ⟨hdistinct, ?_⟩), hfieldName⟩
    rw [hfieldName]
    exact hcheck

section
variable {config : Config} {roots : Roots} {files : Source.Files} {outputDir : String}
  (htypes : config.typeMappings.isEmpty = true)
  (hoverrides : config.fieldTypeMappings.isEmpty = true) {output : String × Java.SourceUnit}
  (houtput : output ∈ sourceUnits config roots files outputDir)
  {entry : List String × Java.ClassDecl} (hclass : entry ∈ output.2.type.classes)
  {field : Java.FieldDecl} (hfield : field ∈ entry.2.fields) {hint : String}
  (hhint : files.HasHint entry.2.name field.name hint) (hblank : isBlankText hint = false)
include htypes hoverrides houtput hclass hfield hhint hblank

/-- Where the configuration neither replaces type names nor fixes field types, a hint reaches the writer as
it was given, but for white space at its ends. -/
theorem fieldType_eq_qualify :
    field.type = (runWriter config roots files).qualify output.2.package entry.2.name
      (trimmed hint) := by
  obtain ⟨bean, hbean, depth, hdecl⟩ :=
    Writer.exists_of_mem_classes houtput hclass
  rw [hdecl, Writer.name_classDecl] at hhint ⊢
  rw [hdecl, Writer.fields_classDecl] at hfield
  obtain ⟨source, hsource, rfl⟩ := List.mem_map.1 hfield
  have hdistinct := List.mem_of_mem_filter hsource
  rw [registry_runWriter, beans_refinedBeans] at hbean
  obtain ⟨declared, hdeclared, rfl⟩ := List.mem_map.1 hbean
  have hfields : (declared.settled config roots (Registry.ofFiles files)).fields = declared.fields :=
    Bean.fields_refined _ _ _ _ htypes hoverrides
  rw [Bean.distinctFields, hfields] at hdistinct
  rw [(declared.keepsDeclaration_settled config roots _).name] at hhint ⊢
  have htype := files.type_of_hasHint hdeclared hdistinct hhint hblank
  rw [Writer.fieldDecl, htype]

/-- A field with a hint is written with the hint as it was given, but for white space at its ends, exactly
when the hint is laid out as the writer does it and the writer keeps its names. -/
theorem fieldType_eq_hint_iff :
    field.type = trimmed hint ↔
      TypeText.laidOut (trim hint.toList) = trim hint.toList ∧
        ∀ name ∈ TypeText.names (trim hint.toList),
          (runWriter config roots files).KeepsName output.2.package entry.2.name
            (String.ofList name) := by
  rw [fieldType_eq_qualify htypes hoverrides houtput hclass hfield hhint hblank]
  exact Writer.qualify_trimmed_eq_iff _ _ _ _

end

/-- An interface whose only member asks for a type: `interface A { x: any; }` with the hint in a comment
behind the member. -/
def hintedInterface (hint : String) : Source.Interface where
  name := "A"
  properties := [{ name := "x", type := "any", typeHint := some hint }]

/-- The interface alone in a file. -/
def hintedFiles (hint : String) : Source.Files :=
  [{ path := "/p/a.ts", interfaces := [hintedInterface hint] }]

/-- The member has a field in the file of the interface. -/
theorem exists_field_hintedFiles (hint : String) :
    ∃ output ∈ sourceUnits default ⟨[], []⟩ (hintedFiles hint) "out",
      ∃ entry ∈ output.2.type.classes, ∃ field ∈ entry.2.fields,
        (hintedFiles hint).HasHint entry.2.name field.name hint := by
  have hbean : (Registry.ofFiles (hintedFiles hint)).bean?
      (Declaration.ofInterface (hintedInterface hint)).name =
        some ((Declaration.ofInterface (hintedInterface hint)).bean "/p/a.ts") := rfl
  have hname : Java.isIdentifier "A" = true := by decide
  have hcheck : Java.isIdentifier "x" = true := by decide
  obtain ⟨output, houtput, entry, hentry, hclass, field, hfield, hfieldName⟩ :=
    exists_field_of_member default ⟨[], []⟩ (hintedFiles hint) "out" hbean hname (.head _) hcheck
  refine ⟨output, houtput, entry, hentry, field, hfield, ?_⟩
  rw [hclass, hfieldName]
  exact ⟨_, _, .declared (.head _) hbean, rfl, rfl⟩

/-- A hint with the layout of the writer and with names that it keeps is written as it is. -/
theorem fieldType_hintedFiles :
    ∃ output ∈ sourceUnits default ⟨[], []⟩ (hintedFiles "java.util.Map<String, Integer>") "out",
      ∃ entry ∈ output.2.type.classes, ∃ field ∈ entry.2.fields,
        (hintedFiles "java.util.Map<String, Integer>").HasHint entry.2.name field.name
            "java.util.Map<String, Integer>" ∧
          isBlankText "java.util.Map<String, Integer>" = false ∧
          field.type = trimmed "java.util.Map<String, Integer>" := by
  obtain ⟨output, houtput, entry, hentry, field, hfield, hhint⟩ :=
    exists_field_hintedFiles "java.util.Map<String, Integer>"
  have hblank : isBlankText "java.util.Map<String, Integer>" = false := by decide
  have htype := fieldType_eq_hint_iff rfl rfl houtput hentry hfield hhint hblank
  refine ⟨output, houtput, entry, hentry, field, hfield, hhint, hblank, htype.2 ⟨by cbv, ?_⟩⟩
  have hnames : TypeText.names (trim "java.util.Map<String, Integer>".toList) =
      ["java.util.Map".toList, "String".toList, "Integer".toList] := by
    cbv
  rw [hnames, List.forall_mem_cons, List.forall_mem_cons, List.forall_mem_singleton]
  -- a qualified name and two names that need no import
  exact ⟨⟨by decide, .inl (by decide)⟩, ⟨by decide, .inr (.inl (by decide))⟩,
    ⟨by decide, .inr (.inl (by decide))⟩⟩

/-- Not every hint is written as it was given: a space is added behind the comma. -/
theorem not_forall_fieldType_eq_hint :
    ¬∀ (config : Config) (roots : Roots) (files : Source.Files) (outputDir : String),
      config.typeMappings.isEmpty = true → config.fieldTypeMappings.isEmpty = true →
      ∀ output ∈ sourceUnits config roots files outputDir, ∀ entry ∈ output.2.type.classes,
        ∀ field ∈ entry.2.fields, ∀ hint, files.HasHint entry.2.name field.name hint →
          isBlankText hint = false → field.type = trimmed hint := by
  intro h
  obtain ⟨output, houtput, entry, hentry, field, hfield, hhint⟩ :=
    exists_field_hintedFiles "java.util.Map<String,Integer>"
  have hblank : isBlankText "java.util.Map<String,Integer>" = false := by decide
  have htype := h default ⟨[], []⟩ _ "out" rfl rfl output houtput entry hentry field hfield _ hhint hblank
  rw [fieldType_eq_qualify rfl rfl houtput hentry hfield hhint hblank,
    Writer.qualify_trimmed_eq_iff] at htype
  have hlayout : TypeText.laidOut (trim "java.util.Map<String,Integer>".toList) =
      "java.util.Map<String, Integer>".toList := by
    cbv
  rw [hlayout] at htype
  exact absurd htype.1 (by decide)

end BeanGen

import BeanGen.Proofs.Refine.Redeclared
import BeanGen.Proofs.Render.Shown
import BeanGen.Proofs.Run.Relocation
import BeanGen.Proofs.Source.Document

/-!
# Runs from the document

The declarations that are read back from their document lack the empty texts. An empty hint decides no
type, an empty comment is read by nothing, and the visibility of a member goes to its field, where nothing
reads it. So the declarations read back make the same beans but for visibilities
(`Registry.unlinkedBeans_withoutEmpty`), and a run writes the same files for them
(`sourceOutputs_withoutEmpty`).
-/

namespace BeanGen

open Source (Declaration Property bind_nonEmpty getD_nonEmpty nonEmpty)

/-! ## Members -/

section
variable (property : Property) (owner path : String)

/-- An empty hint decides no type. -/
theorem mappedType_withoutEmpty : mappedType property.withoutEmpty = mappedType property := by
  unfold mappedType TypeText.javaTypeText
  rw [Property.withoutEmpty_typeHint, bind_nonEmpty rfl, Property.withoutEmpty_optional,
    Property.withoutEmpty_type]

/-- An empty hint does not keep a member from needing a helper. -/
theorem needsHelper_withoutEmpty : needsHelper property.withoutEmpty = needsHelper property := by
  unfold needsHelper
  rw [Property.withoutEmpty_members, Property.withoutEmpty_typeHint, getD_nonEmpty]
  cases property.members with
  | none => rfl
  | some members =>
    have hnames : (members.map Property.withoutEmpty).map (·.name) = members.map (·.name) := by
      rw [List.map_map]
      exact List.map_congr_left fun member _ => member.withoutEmpty_name
    rw [Option.map_some]
    dsimp only
    rw [hnames]

/-- The name of a helper does not depend on the texts. -/
theorem helperName_withoutEmpty : helperName owner property.withoutEmpty = helperName owner property := by
  unfold helperName
  rw [Property.withoutEmpty_name]

/-- The field of a member has the visibility that the member has. -/
theorem Field.ofProperty_withoutEmpty (type : String) (visibility : Option String) :
    Field.ofProperty property.withoutEmpty type visibility = .ofProperty property type visibility := by
  unfold ofProperty
  rw [Property.withoutEmpty_name, Property.withoutEmpty_optional]

/-- The field of a member keeps all but an empty visibility. -/
theorem Field.ofMember_withoutEmpty :
    Field.ofMember owner property.withoutEmpty =
      (Field.ofMember owner property).redeclared nonEmpty := by
  unfold ofMember
  rw [needsHelper_withoutEmpty, helperName_withoutEmpty, mappedType_withoutEmpty,
    ofProperty_withoutEmpty, Property.withoutEmpty_visibility]
  rfl

/-- The helper for a member is the same. -/
theorem helperBean_withoutEmpty (name : String) :
    helperBean owner path name property.withoutEmpty = helperBean owner path name property := by
  have hfields : ∀ members : List Property,
      (members.map Property.withoutEmpty).map (fun member =>
        Field.ofProperty member (mappedType member) none) =
      members.map fun member => .ofProperty member (mappedType member) none := by
    intro members
    rw [List.map_map]
    refine List.map_congr_left fun member _ => ?_
    rw [Function.comp_apply, mappedType_withoutEmpty, Field.ofProperty_withoutEmpty]
  unfold helperBean
  rw [Property.withoutEmpty_members]
  cases property.members with
  | none => rfl
  | some members =>
    rw [Option.map_some, Option.getD_some, Option.getD_some, hfields]

end

/-! ## Declarations -/

/-- A declaration in whose members empty texts are missing. -/
def Source.Declaration.withoutEmpty : Declaration → Declaration
  | .ofInterface decl => .ofInterface decl.withoutEmpty
  | .ofEnum decl => .ofEnum decl
  | .ofClass decl => .ofClass decl.withoutEmpty
  | .ofAlias decl => .ofAlias decl.withoutEmpty

/-- The declarations of files in which empty texts are missing. -/
theorem Source.Files.declarations_withoutEmpty (files : Source.Files) :
    Source.Files.declarations (files.map File.withoutEmpty) =
      files.declarations.map fun entry => (entry.1, entry.2.withoutEmpty) := by
  have hfile : ∀ file : File, file.withoutEmpty.declarations =
      file.declarations.map Declaration.withoutEmpty := by
    intro file
    simp only [File.declarations, File.withoutEmpty, List.map_append, List.map_map]
    rfl
  rw [declarations, declarations, List.flatMap_map, List.map_flatMap]
  refine List.flatMap_congr fun file _ => ?_
  rw [hfile, List.map_map, List.map_map]
  rfl

section
variable (decl : Declaration) (path : String)

/-- The members of a declaration in which empty texts are missing. -/
theorem Source.Declaration.members_withoutEmpty :
    decl.withoutEmpty.members = decl.members.map Property.withoutEmpty := by
  cases decl with
  | ofInterface | ofEnum | ofClass => rfl
  | ofAlias decl =>
    show (decl.properties.map _).getD [] = (decl.properties.getD []).map _
    cases decl.properties <;> rfl

/-- The bean of a declaration keeps all but empty visibilities. -/
theorem Source.Declaration.bean_withoutEmpty :
    decl.withoutEmpty.bean path = (decl.bean path).redeclared id nonEmpty := by
  have hfields : ∀ (owner : String) (members : List Property),
      (members.map Property.withoutEmpty).map (Field.ofMember owner) =
        (members.map (Field.ofMember owner)).map (Field.redeclared nonEmpty) := by
    intro owner members
    rw [List.map_map, List.map_map]
    exact List.map_congr_left fun member _ => Field.ofMember_withoutEmpty member owner
  cases decl with
  | ofInterface decl | ofClass decl =>
    unfold withoutEmpty bean Bean.redeclared
    dsimp only
    rw [← hfields]
    rfl
  | ofEnum => rfl
  | ofAlias decl =>
    obtain ⟨name, target, properties⟩ := decl
    cases properties with
    | none => rfl
    | some properties =>
      cases properties with
      | nil => rfl
      | cons property rest =>
        exact congrArg (fun fields => ({
          name := name
          kind := .javaClass
          sourcePath := some path
          origin := some .typeAlias
          fields := fields } : Bean)) (hfields name (property :: rest))

/-- The helpers of a declaration are the same. -/
theorem Source.Declaration.helpers_withoutEmpty (registry : Registry) :
    decl.withoutEmpty.helpers registry path =
      (decl.helpers registry path).map (Bean.redeclared id nonEmpty) := by
  have hname : decl.withoutEmpty.name = decl.name := by cases decl <;> rfl
  have hstep : ∀ helpers property,
      withHelper registry decl.name path helpers (Property.withoutEmpty property) =
        withHelper registry decl.name path helpers property := by
    intro helpers property
    unfold withHelper
    rw [needsHelper_withoutEmpty, helperName_withoutEmpty, helperBean_withoutEmpty]
  have hsame : decl.withoutEmpty.helpers registry path = decl.helpers registry path := by
    unfold helpers
    rw [members_withoutEmpty, hname, List.foldl_map]
    simp only [hstep]
  rw [hsame]
  refine (List.map_id'' (fun _ => rfl) _).symm.trans (List.map_congr_left fun helper hhelper => ?_)
  obtain ⟨property, -, -, -, rfl⟩ := of_mem_helpers hhelper
  unfold Bean.redeclared helperBean
  dsimp only
  rw [List.map_map]
  rfl

end

/-! ## Runs -/

section
variable (files : Source.Files)

/-- Files in which empty texts are missing make the same beans but for visibilities. -/
theorem Registry.unlinkedBeans_withoutEmpty :
    (ofFiles (files.map Source.File.withoutEmpty)).unlinkedBeans =
      (ofFiles files).unlinkedBeans.map (Bean.redeclared id nonEmpty) := by
  have hname : ∀ bean : Bean, (bean.redeclared id nonEmpty).name = bean.name := fun _ => rfl
  rw [ofFiles_eq, ofFiles_eq, Source.Files.declarations_withoutEmpty]
  exact unlinkedBeans_map (f := fun entry => (entry.1, entry.2.withoutEmpty)) hname
    (fun entry => entry.2.bean_withoutEmpty entry.1)
    (fun registry entry => entry.2.helpers_withoutEmpty entry.1 registry) files.declarations

/-- A run writes the same for files in which empty texts are missing. -/
theorem sourceOutputs_withoutEmpty (config : Config) (roots : Roots) (outputDir : String) :
    sourceOutputs config roots outputDir (files.map Source.File.withoutEmpty) =
      sourceOutputs config roots outputDir files := by
  have hbeans : (refinedBeans config roots (files.map Source.File.withoutEmpty)).unlinkedBeans =
      (refinedBeans config roots files).unlinkedBeans.map (Bean.redeclared id nonEmpty) :=
    unlinkedBeans_refinedBeans_redeclared id nonEmpty (Registry.unlinkedBeans_withoutEmpty files)
      fun _ _ => rfl
  have hshown : ∀ bean : Bean, (bean.redeclared id nonEmpty).shown = bean.shown := by
    intro bean
    have hfields : (bean.fields.map (Field.redeclared nonEmpty)).map Field.shown =
        bean.fields.map Field.shown := by
      rw [List.map_map]
      rfl
    unfold Bean.shown
    rw [← hfields]
    rfl
  unfold sourceOutputs
  refine congrArg (List.map _) (Writer.outputs_congr_shown config outputDir ?_)
  rw [hbeans, List.map_map]
  exact List.map_congr_left fun bean _ => hshown bean

/-- The filters leave the same of files in which empty texts are missing. -/
theorem keptFiles_withoutEmpty (config : Config) (roots : Roots) :
    ((Source.Files.withoutExcluded config roots
        (files.map Source.File.withoutEmpty)).1.withoutIgnored config).1 =
      ((files.withoutExcluded config roots).1.withoutIgnored config).1.map
        Source.File.withoutEmpty := by
  have hnames : ∀ file : Source.File, file.withoutEmpty.withoutNames config.ignoreTsItems =
      (file.withoutNames config.ignoreTsItems).withoutEmpty := by
    intro file
    simp only [Source.File.withoutNames, Source.File.withoutEmpty, List.filter_map]
    rfl
  unfold Source.Files.withoutExcluded Source.Files.withoutIgnored
  dsimp only
  rw [List.filter_map, List.map_map, List.map_map]
  exact List.map_congr_left fun file _ => hnames file

end

/-- **The document loses nothing that matters.** It is read as the declarations it was written for, with
empty visibilities, comments and hints missing and nothing else changed, and a run writes the same files for
what is read, with or without the filters in front of it. -/
theorem document_faithful (files : Source.Files) :
    Source.Files.ofJson files.toJson = files.map Source.File.withoutEmpty ∧
    ∀ (config : Config) (roots : Roots) (outputDir : String),
      sourceOutputs config roots outputDir (Source.Files.ofJson files.toJson) =
          sourceOutputs config roots outputDir files ∧
        filteredOutputs config roots outputDir (Source.Files.ofJson files.toJson) =
          filteredOutputs config roots outputDir files := by
  rw [Source.Files.ofJson_toJson]
  refine ⟨rfl, fun config roots outputDir => ⟨sourceOutputs_withoutEmpty files config roots outputDir, ?_⟩⟩
  unfold filteredOutputs
  rw [keptFiles_withoutEmpty, sourceOutputs_withoutEmpty]

end BeanGen

import BeanGen.Proofs.Bean.Creation
import BeanGen.Proofs.Run.Links
import BeanGen.Proofs.TypeText.Kept

/-!
# Which field types refer to nothing

The type of a field is a hint, the name of a helper, or what the mapping makes of the text of a type
(`TypeSource`). The configuration may fix it or replace names in it (`Bean.LeavesType` says that it does
neither), and no other pass looks at it (`Bean.fields_refined_eq`). In particular linking does not, so a
name that the mapping keeps is in the type in the end, whether or not a declaration defines it. The names in
the type are those of beans, apart from the ones that are good anywhere, exactly when all the names that the
mapping kept are (`closesType_iff`).
-/

namespace BeanGen

open Text TypeText
open Source (Declaration Property)

/-! ## Where the type of a field comes from -/

/-- What the type of a field is made of. -/
inductive TypeSource where
  /-- The hint of the member. -/
  | hint (type : String)
  /-- The helper for the object type of the member. -/
  | helper (name : String)
  /-- The text of the type, which is mapped. -/
  | text (optional : Bool) (raw : String)
  /-- Nothing: the target of an alias could not be read. -/
  | missing

namespace TypeSource

/-- The type that is made of the source. -/
def type : TypeSource → String
  | hint type => type
  | helper name => name
  | text optional raw => javaTypeText optional none (some raw)
  | missing => Java.TypeExpr.text.print

/-- The source is a hint. -/
def isHint : TypeSource → Bool
  | hint _ => true
  | _ => false

/-- The mapping keeps the name of the text. -/
def Keeps : TypeSource → String → Prop
  | text _ raw, name => TypeText.Keeps raw.toList name
  | _, _ => False

end TypeSource

/-- The source of the type of a member, if the member gets no helper. -/
def Source.Property.typeSource (property : Property) : TypeSource :=
  match property.typeHint.bind nonBlank? with
  | some type => .hint type
  | none => .text property.optional property.type

/-- The source of the type of a member of `owner`. -/
def Source.Property.memberSource (owner : String) (property : Property) : TypeSource :=
  if needsHelper property then .helper (helperName owner property) else property.typeSource

/-- The sources of the types of the fields that a declaration gives rise to. -/
def Source.Declaration.typeSources (decl : Declaration) : List TypeSource :=
  match decl with
  | .ofAlias ⟨_, target, none⟩ | .ofAlias ⟨_, target, some []⟩ =>
    match target.filter (· != "") with
    | some target => [.text true target]
    | none => [.missing]
  | decl => decl.members.map (·.memberSource decl.name)

/-- The fields of the bean of a name have types from these sources. -/
inductive Source.Files.TypeSourcesOf (files : Source.Files) (name : String) : List TypeSource → Prop
  | declared {path : String} {decl : Declaration} (hdecl : (path, decl) ∈ files.declarations)
      (hbean : (Registry.ofFiles files).bean? name = some (decl.bean path)) :
      files.TypeSourcesOf name decl.typeSources
  | helper {path : String} {decl : Declaration} {property : Property}
      (hdecl : (path, decl) ∈ files.declarations) (hmember : property ∈ decl.members)
      (hneeds : needsHelper property = true)
      (hbean : (Registry.ofFiles files).bean? name =
        some (helperBean decl.name path (helperName decl.name property) property)) :
      files.TypeSourcesOf name ((property.members.getD []).map (·.typeSource))

section
variable {files : Source.Files} {bean : Bean} {sources : List TypeSource}

/-- The type of a member is made of its source. -/
theorem type_typeSource (property : Property) : property.typeSource.type = mappedType property := by
  rw [Property.typeSource, mappedType, javaTypeText]
  cases property.typeHint.bind nonBlank? <;> rfl

/-- The type of the field for a member is made of the source of the member. -/
theorem type_memberSource (owner : String) (property : Property) :
    (property.memberSource owner).type = (Field.ofMember owner property).type := by
  rw [Property.memberSource, Field.ofMember, Field.ofProperty]
  split
  · rfl
  · exact type_typeSource property

/-- The types of the fields of a declaration are made of its sources. -/
theorem map_type_typeSources (path : String) (decl : Declaration) :
    decl.typeSources.map (·.type) = (decl.bean path).fields.map (·.type) := by
  have hmembers : ∀ (owner : String) (members : List Property),
      (members.map (·.memberSource owner)).map (·.type) =
        (members.map (Field.ofMember owner)).map (·.type) := by
    intro owner members
    rw [List.map_map, List.map_map]
    exact List.map_congr_left fun property _ => type_memberSource owner property
  cases decl with
  | ofInterface decl => exact hmembers decl.name decl.properties
  | ofClass decl => exact hmembers decl.name decl.properties
  | ofEnum => rfl
  | ofAlias decl =>
    obtain ⟨name, target, properties⟩ := decl
    match properties with
    | some (property :: rest) => exact hmembers name (property :: rest)
    | some [] | none =>
      rw [Declaration.typeSources, Declaration.bean]
      dsimp only
      cases target.filter (· != "") <;> rfl

/-- The types of the fields of a bean are made of its sources. -/
theorem map_type_of_typeSourcesOf (hbean : bean ∈ (Registry.ofFiles files).beans)
    (hsources : files.TypeSourcesOf bean.name sources) :
    sources.map (·.type) = bean.fields.map (·.type) := by
  have hview := Registry.bean?_of_mem hbean
  cases hsources with
  | @declared path decl hdecl hdeclared =>
    have hmade : bean.unlinked = decl.bean path := Option.some.inj (hview.symm.trans hdeclared)
    rw [map_type_typeSources path, ← hmade]
    rfl
  | @helper path decl property hdecl hmember hneeds hhelper =>
    have hmade : bean.unlinked = helperBean decl.name path (helperName decl.name property) property :=
      Option.some.inj (hview.symm.trans hhelper)
    have hfields : bean.fields = (property.members.getD []).map fun member =>
        .ofProperty member (mappedType member) none :=
      congrArg Bean.fields hmade
    rw [hfields, List.map_map, List.map_map]
    exact List.map_congr_left fun member _ => type_typeSource member

/-- Every bean has its types from some sources. -/
theorem exists_typeSourcesOf (hbean : bean ∈ (Registry.ofFiles files).beans) :
    ∃ sources, files.TypeSourcesOf bean.name sources := by
  have hview := Registry.bean?_of_mem hbean
  have hmade := Registry.madeFrom_of_mem hbean
  generalize bean.unlinked = view at hview hmade
  cases hmade with
  | declared hdecl => exact ⟨_, .declared hdecl hview⟩
  | helper hdecl hmember hneeds => exact ⟨_, .helper hdecl hmember hneeds hview⟩

/-- A declaration has helpers among its sources only under the names that it derives. -/
theorem mem_helperNames_of_helper {decl : Declaration} {helper : String}
    (hmem : .helper helper ∈ decl.typeSources) : helper ∈ decl.helperNames := by
  have hmembers : .helper helper ∈ decl.members.map (·.memberSource decl.name) →
      helper ∈ decl.helperNames := by
    intro hmem
    obtain ⟨property, hmember, hsource⟩ := List.mem_map.1 hmem
    unfold Property.memberSource at hsource
    split at hsource
    · next hneeds =>
      cases hsource
      exact Declaration.mem_helperNames hmember hneeds
    · unfold Property.typeSource at hsource
      split at hsource <;> cases hsource
  unfold Declaration.typeSources at hmem
  split at hmem
  · split at hmem <;> simp at hmem
  · split at hmem <;> simp at hmem
  · exact hmembers hmem

/-- A helper that a type is made of is there. -/
theorem contains_of_helper_mem {name helper : String} (hsources : files.TypeSourcesOf name sources)
    (hmem : .helper helper ∈ sources) : (Registry.ofFiles files).contains helper = true := by
  cases hsources with
  | declared hdecl hbean =>
    rw [Registry.contains_iff, Registry.ofFiles_eq, Registry.mem_names_ofDeclarations]
    exact ⟨_, hdecl, List.mem_cons_of_mem _ (mem_helperNames_of_helper hmem)⟩
  | helper =>
    obtain ⟨member, -, hsource⟩ := List.mem_map.1 hmem
    unfold Property.typeSource at hsource
    split at hsource <;> cases hsource

end

/-! ## Where the type of a field ends -/

/-- The configuration leaves a type of the field alone: it fixes none for the field, and it has no
replacements for the names in the type. -/
structure Bean.LeavesType (config : Config) (bean : Bean) (field type : String) : Prop where
  notFixed : fieldOverride? config.fieldTypeMappings bean.package bean.name field = none
  notReplaced : substitute? config.typeMappings (some type) = none

/-- The type of a field in the end, by the package and the name of its bean: the one that is fixed for it, or
else the type that it had with its names replaced. -/
def Bean.finalType (config : Config) (bean : Bean) (field : Field) : String :=
  (fieldOverride? config.fieldTypeMappings bean.package bean.name field.name).getD
    (substituted config.typeMappings field.type).1

/-- A table without entries replaces no names. -/
theorem substitute?_eq_none {table : Config.Table} (h : table.isEmpty = true) (type : String) :
    substitute? table (some type) = none := by
  rw [substitute?, Option.bind_some, substituteText?, if_pos (by rw [h, Bool.or_true])]
  rfl

/-- A type that is left alone stays. -/
theorem Bean.LeavesType.finalType_eq {config : Config} {bean : Bean} {field : Field}
    (h : bean.LeavesType config field.name field.type) : bean.finalType config field = field.type := by
  rw [Bean.finalType, h.notFixed, Option.getD_none, substituted, h.notReplaced]

section
variable (config : Config) (roots : Roots) (registry : Registry) (bean : Bean)

/-- The passes give the fields their final types. -/
theorem Bean.fields_refined_eq :
    (bean.refined config roots registry).fields = bean.fields.map fun field =>
      { field with type := (bean.refined config roots registry).finalType config field } := by
  have hsubstituted : ∀ before : Bean,
      (Pass.typeNames.onBean config roots registry before).fields = before.fields.map fun field =>
        { field with type := (substituted config.typeMappings field.type).1 } := by
    intro before
    rw [Pass.onBean]
    split
    · next hempty =>
      have hsame : ∀ type, (substituted config.typeMappings type).1 = type := by
        intro type
        rw [substituted, substitute?_eq_none hempty]
      simp only [hsame, List.map_id']
    · rfl
  rw [refined_steps, withBase_frame fields (fun _ _ _ _ => rfl),
    withBase_frame (fun bean => bean.finalType config) (fun _ _ _ _ => rfl),
    withFieldTypes_frame (fun bean => bean.finalType config) (fun _ _ => rfl), withFieldTypes,
    hsubstituted, withEnumInterface_frame fields (fun _ _ => rfl), placed_frame fields (fun _ _ => rfl),
    List.map_map]
  rfl

end

/-! ## Closed types -/

namespace Registry

/-- A name that is good in any registry, or the name of a bean. -/
def ClosesName (registry : Registry) (name : String) : Prop :=
  IsFixedName name ∨ registry.contains name = true

/-- A type that refers to nothing outside the registry: the name of a bean, or a type expression in which
every name is good in any registry or the name of a bean. -/
def ClosesType (registry : Registry) (type : String) : Prop :=
  registry.contains type = true ∨ ∀ name, IsNameIn type name → registry.ClosesName name

/-- The text of a canonical type is closed when its names are. -/
theorem closesType_print_iff {registry : Registry} {type : Java.TypeExpr} (h : type.IsCanonical) :
    registry.ClosesType type.print ↔ registry.contains type.print = true ∨
      ∀ name ∈ type.names, registry.ClosesName name := by
  simp only [ClosesType, h.isNameIn_print_iff]

/-- Apart from hints, a type that is made of a source is closed exactly when it is the name of a bean or
the names are closed that the mapping keeps. -/
theorem closesType_source_iff {registry : Registry} {source : TypeSource}
    (hhint : source.isHint = false)
    (hhelper : ∀ name, source = .helper name → registry.contains name = true) :
    registry.ClosesType source.type ↔ registry.contains source.type = true ∨
      ∀ name, source.Keeps name → registry.ClosesName name := by
  cases source with
  | hint type => cases hhint
  | helper name => exact iff_of_true (.inl (hhelper name rfl)) (.inl (hhelper name rfl))
  | missing =>
    refine iff_of_true ?_ (.inr fun name hkeeps => hkeeps.elim)
    refine (closesType_print_iff Java.TypeExpr.isCanonical_text).2 (.inr fun name hname => ?_)
    rw [Java.TypeExpr.text, Java.TypeExpr.names, List.mem_singleton] at hname
    exact .inl (.inr (.inl hname))
  | text optional raw =>
    show registry.ClosesType (javaType optional raw.toList).print ↔
      registry.contains (javaType optional raw.toList).print = true ∨ _
    rw [closesType_print_iff (isCanonical_javaType optional raw.toList).1]
    refine or_congr Iff.rfl (forall_congr' fun name => ?_)
    by_cases hfixed : IsFixedName name
    · exact iff_of_true (fun _ => .inl hfixed) fun _ => .inl hfixed
    · rw [mem_names_javaType_iff hfixed]
      rfl

end Registry

/-- In two lists that are mapped to one, elements at the same place are mapped to one. -/
theorem eq_of_mem_zip {α β γ : Type} {f : α → γ} {g : β → γ} {as : List α} {bs : List β}
    (h : bs.map g = as.map f) : ∀ entry ∈ as.zip bs, f entry.1 = g entry.2 := by
  induction as generalizing bs with
  | nil => exact fun _ hentry => absurd hentry (by simp)
  | cons a as ih =>
    cases bs with
    | nil => cases h
    | cons b bs =>
      obtain ⟨hfirst, hrest⟩ := List.cons.inj h
      rw [List.zip_cons_cons, List.forall_mem_cons]
      exact ⟨hfirst.symm, ih hrest⟩

section
variable {config : Config} {roots : Roots} {files : Source.Files} {bean : Bean}
  (hbean : bean ∈ (refinedBeans config roots files).beans)
include hbean

/-- After a run, too, every bean has its types from some sources. -/
theorem exists_typeSourcesOf_refined : ∃ sources, files.TypeSourcesOf bean.name sources := by
  rw [beans_refinedBeans] at hbean
  obtain ⟨before, hbefore, rfl⟩ := List.mem_map.1 hbean
  rw [(before.keepsDeclaration_settled config roots (Registry.ofFiles files)).name]
  exact exists_typeSourcesOf hbefore

/-- After a run there is one field for each source, and it has the type that is made of the source if the
configuration leaves this type alone. -/
theorem type_eq_of_leavesType {sources : List TypeSource}
    (hsources : files.TypeSourcesOf bean.name sources) :
    bean.fields.length = sources.length ∧ ∀ entry ∈ bean.fields.zip sources,
      bean.LeavesType config entry.1.name entry.2.type → entry.1.type = entry.2.type := by
  rw [beans_refinedBeans] at hbean
  obtain ⟨before, hbefore, rfl⟩ := List.mem_map.1 hbean
  have hname := (before.keepsDeclaration_settled config roots (Registry.ofFiles files)).name
  have htypes := map_type_of_typeSourcesOf hbefore (hname ▸ hsources)
  have hfields : (before.settled config roots (Registry.ofFiles files)).fields =
      before.fields.map fun field => { field with
        type := (before.settled config roots (Registry.ofFiles files)).finalType config field } :=
    (before.linked (Registry.ofFiles files)).1.fields_refined_eq config roots (Registry.ofFiles files)
  refine ⟨by simpa [hfields] using (congrArg List.length htypes).symm, fun entry hentry hleaves => ?_⟩
  rw [hfields, List.zip_map_left] at hentry
  obtain ⟨⟨field, source⟩, hpair, rfl⟩ := List.mem_map.1 hentry
  have hsource : field.type = source.type := eq_of_mem_zip htypes _ hpair
  have hleaves : (before.settled config roots (Registry.ofFiles files)).LeavesType config field.name
      field.type := hsource ▸ hleaves
  exact hleaves.finalType_eq.trans hsource

/-- After a run, each field whose type is no hint and is left alone by the configuration has the type that
is made of its source. It refers to nothing outside the registry exactly when it is the name of a bean as a
whole, or every name that the mapping kept in it is closed. -/
theorem closesType_iff :
    (∃ sources, files.TypeSourcesOf bean.name sources) ∧
      ∀ sources, files.TypeSourcesOf bean.name sources → bean.fields.length = sources.length ∧
        ∀ entry ∈ bean.fields.zip sources, entry.2.isHint = false →
          bean.LeavesType config entry.1.name entry.2.type →
          entry.1.type = entry.2.type ∧
            ((refinedBeans config roots files).ClosesType entry.1.type ↔
              (refinedBeans config roots files).contains entry.1.type = true ∨
                ∀ name, entry.2.Keeps name → (refinedBeans config roots files).ClosesName name) := by
  refine ⟨exists_typeSourcesOf_refined hbean, fun sources hsources => ?_⟩
  obtain ⟨hlength, htypes⟩ := type_eq_of_leavesType hbean hsources
  refine ⟨hlength, fun entry hentry hhint hleaves => ?_⟩
  have htype := htypes entry hentry hleaves
  refine ⟨htype, ?_⟩
  rw [htype]
  refine Registry.closesType_source_iff hhint fun helper hhelper => ?_
  rw [Registry.contains_congr (Registry.names_refinedBeans config roots files)]
  refine contains_of_helper_mem hsources ?_
  rw [← hhelper]
  exact (List.of_mem_zip hentry).2

end

/-- An interface with one member whose type is a list of another interface, and one with a type that nothing
defines: `interface A { x: Block[]; y: Foo; }` and `interface Block {}`. -/
def danglingMember : Source.Interface where
  name := "A"
  properties := [{ name := "x", type := "Block[]" }, { name := "y", type := "Foo" }]

/-- The two interfaces in a file. -/
def danglingFiles : Source.Files :=
  [{ path := "/p/a.ts", interfaces := [danglingMember, { name := "Block" }] }]

/-- The bean of the first interface has two fields, with types from the texts of the members. -/
theorem exists_danglingBean :
    ∃ bean ∈ (refinedBeans default ⟨[], []⟩ danglingFiles).beans,
      danglingFiles.TypeSourcesOf bean.name [.text false "Block[]", .text false "Foo"] := by
  have hbean : (Registry.ofFiles danglingFiles).bean? "A" =
      some ((Declaration.ofInterface danglingMember).bean "/p/a.ts") := rfl
  obtain ⟨member, hmember, hname, -⟩ := Registry.exists_mem_of_bean? hbean
  refine ⟨member.settled default ⟨[], []⟩ (Registry.ofFiles danglingFiles), ?_, ?_⟩
  · rw [beans_refinedBeans]
    exact List.mem_map_of_mem hmember
  · rw [(member.keepsDeclaration_settled _ _ _).name, hname]
    exact .declared (.head _) hbean

/-- A configuration without rules leaves all types alone. -/
theorem Bean.leavesType_default (bean : Bean) (field type : String) :
    bean.LeavesType default field type :=
  ⟨fieldOverride?_eq_none rfl _ _ _, substitute?_eq_none rfl _⟩

/-- A list of beans refers to nothing outside the registry. -/
theorem closesType_danglingFiles :
    ∃ bean ∈ (refinedBeans default ⟨[], []⟩ danglingFiles).beans, ∃ field ∈ bean.fields,
      field.type = javaTypeText false none (some "Block[]") ∧
        (refinedBeans default ⟨[], []⟩ danglingFiles).ClosesType field.type := by
  obtain ⟨bean, hbean, hsources⟩ := exists_danglingBean
  obtain ⟨hlength, hentries⟩ := (closesType_iff hbean).2 _ hsources
  obtain ⟨first, second, hfields⟩ := List.length_eq_two.1 hlength
  rw [hfields, List.zip_cons_cons, List.forall_mem_cons] at hentries
  obtain ⟨htype, hcloses⟩ := hentries.1 rfl (bean.leavesType_default _ _)
  refine ⟨bean, hbean, first, by simp [hfields], htype, hcloses.2 (.inr fun name hkeeps => ?_)⟩
  have hlist : read (TypeText.normalize "Block[]".toList) = .listOf "Block".toList := by
    rw [TypeText.normalize, unwrapParens, if_neg (by decide)]
    rfl
  have helement : read (TypeText.normalize "Block".toList) = .settled (.named "Block") := by
    rw [TypeText.normalize, unwrapParens, if_neg (by decide)]
    rfl
  obtain rfl : name = "Block" := by
    rcases keeps_iff.1 hkeeps with hmem | ⟨piece, hpiece, hkeeps⟩
    · rw [hlist] at hmem
      cases hmem
    · rw [hlist, Reading.pieces, List.mem_singleton] at hpiece
      rw [hpiece, keeps_iff, helement] at hkeeps
      simpa [Reading.names, Reading.pieces, Java.TypeExpr.names] using hkeeps
  refine .inr ?_
  rw [Registry.contains_congr (Registry.names_refinedBeans _ _ _)]
  rfl

/-- The type of the other member refers to something that nothing defines. -/
theorem not_forall_closesType :
    ¬ ∀ (config : Config) (roots : Roots) (files : Source.Files),
      ∀ bean ∈ (refinedBeans config roots files).beans, ∀ sources,
        files.TypeSourcesOf bean.name sources → ∀ entry ∈ bean.fields.zip sources,
          entry.2.isHint = false → bean.LeavesType config entry.1.name entry.2.type →
            (refinedBeans config roots files).ClosesType entry.1.type := by
  intro h
  obtain ⟨bean, hbean, hsources⟩ := exists_danglingBean
  obtain ⟨hlength, htypes⟩ := type_eq_of_leavesType hbean hsources
  obtain ⟨first, second, hfields⟩ := List.length_eq_two.1 hlength
  have hentry : (second, TypeSource.text false "Foo") ∈
      bean.fields.zip [.text false "Block[]", .text false "Foo"] := by simp [hfields]
  have hread : read (TypeText.normalize "Foo".toList) = .settled (.named "Foo") := by
    rw [TypeText.normalize, unwrapParens, if_neg (by decide)]
    rfl
  have htype : second.type = "Foo" := by
    rw [htypes _ hentry (bean.leavesType_default _ _)]
    show (javaType false "Foo".toList).print = "Foo"
    rw [javaType_of_settled hread, Java.TypeExpr.boxedIf, if_neg Bool.false_ne_true, Java.TypeExpr.print]
  have hcloses := h default ⟨[], []⟩ danglingFiles bean hbean _ hsources _ hentry rfl
    (bean.leavesType_default _ _)
  have hcontains : (refinedBeans default ⟨[], []⟩ danglingFiles).contains "Foo" = false :=
    Registry.contains_congr (Registry.names_refinedBeans _ _ _) "Foo"
  rw [htype, Registry.ClosesType, hcontains] at hcloses
  rcases hcloses with hwhole | hnames
  · cases hwhole
  · have hwords : "Foo".toList.all isWordPart = true := by decide
    rcases hnames "Foo" ⟨by decide, List.all_eq_true.1 hwords, .refl _⟩ with hfixed | hfound
    · rcases hfixed with hprimitive | hstring | hobject | hdot
      · exact absurd hprimitive (by decide)
      · exact absurd hstring (by decide)
      · exact absurd hobject (by decide)
      · exact absurd hdot (by decide)
    · rw [hcontains] at hfound
      cases hfound

end BeanGen

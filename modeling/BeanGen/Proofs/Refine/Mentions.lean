import BeanGen.Proofs.Bean.Creation
import BeanGen.Proofs.Refine.Bases
import BeanGen.Proofs.TypeText.Mapping

/-!
# The names that refined beans refer to

The types of a bean come from the texts of its declaration (`Source.Declaration.texts`), from the types
that the configuration gives (`Config.typeTexts`), and from the run itself, which writes `double` and
`boolean` for what the source language calls number and boolean, and the names of helpers for object
types. A name is unrelated to declarations when it stands in none of these texts and is no name of theirs
(`Source.Unrelated`), and uncoined when the run does not make it up (`Source.Uncoined`). The beans of
the declarations avoid such a name (`MadeFrom.avoids`), every pass keeps it so (`Bean.Avoids.onBean`),
and so do all passes together (`Bean.Avoids.refined`).
-/

namespace BeanGen

open Text
open Java (isIdentifier)
open TypeText (IsPlain)

/-! ## The texts of declarations and configurations -/

namespace Source

/-- The type of a member and the hint that overrides it. -/
def Property.ownTexts (property : Property) : List String :=
  property.type :: property.typeHint.toList

/-- The types and hints of a member and of the members of its object type. -/
def Property.texts (property : Property) : List String :=
  property.ownTexts ++ (property.members.getD []).flatMap ownTexts

/-- The types that a declaration is written with. -/
def Declaration.texts : Declaration → List String
  | ofInterface decl => decl.bases ++ decl.properties.flatMap Property.texts
  | ofEnum _ => []
  | ofClass decl => decl.base.toList ++ decl.implements ++ decl.properties.flatMap Property.texts
  | ofAlias decl => decl.target.toList ++ (decl.properties.getD []).flatMap Property.texts

/-- The texts of its members are texts of a declaration. -/
theorem Declaration.texts_of_mem_members {decl : Declaration} {property : Property}
    (h : property ∈ decl.members) : property.texts ⊆ decl.texts := by
  intro text htext
  cases decl with
  | ofEnum => cases h
  | ofInterface | ofClass | ofAlias =>
    exact List.mem_append_right _ (List.mem_flatMap.2 ⟨property, h, htext⟩)

end Source

/-- The types that a configuration gives: for names, for fields, for bases and for enums. -/
def Config.typeTexts (config : Config) : List String :=
  config.typeMappings.values ++ config.fieldTypeMappings.values ++
    config.interfaceExtendsMappings.values ++ config.enumInterfaceMapping.values ++
    config.defaultBaseClass.toList

/-- The name is unrelated to the declarations: none of them gives rise to it, and neither their types nor
those of the configuration mention it. -/
structure Source.Unrelated (config : Config) (entries : List (String × Declaration))
    (name : String) : Prop where
  fresh : ∀ entry ∈ entries, name ∉ entry.2.names
  unmentioned : ∀ entry ∈ entries, ∀ text ∈ entry.2.texts, ¬ Mentions name.toList text.toList
  unconfigured : ∀ text ∈ config.typeTexts, ¬ Mentions name.toList text.toList

/-- A run over the declarations does not make the name up: it is no primitive type that the mapping
writes, has none of the characters that type expressions are put together with, and is no helper name
with white space taken off. -/
structure Source.Uncoined (entries : List (String × Declaration)) (name : String) : Prop where
  primitive : name ∉ ["double", "boolean"]
  unstructured : ∀ c ∈ ['<', '>', ',', '[', ']'], c ∉ name.toList
  helper : ∀ entry ∈ entries, ∀ helper ∈ entry.2.helperNames, trimmed helper ≠ name

/-! ## Beans that avoid a name -/

/-- The name is not looked up in the types of the bean. Of the fields only those that can be declared
count. -/
structure Bean.Avoids (name : List Char) (bean : Bean) : Prop where
  base : ∀ type ∈ bean.base, TypeText.Avoids name type.toList
  interfaces : ∀ type ∈ bean.interfaces, TypeText.Avoids name type.toList
  fields : ∀ field ∈ bean.fields, isIdentifier field.name = true →
    TypeText.Avoids name field.type.toList

namespace Bean.Avoids

section
variable {name : List Char} (hplain : IsPlain name) {config : Config} {roots : Roots}
  {registry : Registry} {bean : Bean}

/-- Links are not written. -/
theorem unlinked (h : bean.Avoids name) : bean.unlinked.Avoids name :=
  ⟨h.base, h.interfaces, h.fields⟩

/-- The trimmed form of a text that does not mention a name avoids the name. -/
theorem of_nonBlank? {text type : String} (h : nonBlank? text = some type)
    (hunmentioned : ¬ Mentions name text.toList) : TypeText.Avoids name type.toList :=
  .inl fun hmention => hunmentioned (TypeText.mentions_of_nonBlank? h hmention)

/-- A value of the table that does not mention a name avoids the name when it is trimmed. -/
theorem of_bind_nonBlank? {table : Config.Table} {key type : String}
    (hvalues : ∀ value ∈ table.values, ¬ Mentions name value.toList)
    (h : (table.get? key).bind nonBlank? = some type) : TypeText.Avoids name type.toList := by
  obtain ⟨value, hget, hvalue⟩ := Option.bind_eq_some_iff.1 h
  exact of_nonBlank? hvalue (hvalues value (table.mem_values_of_get? hget))

/-- The interface of an enum is a value of its table. -/
theorem of_enumInterface? {table : Config.Table} {enum package type : String}
    (hvalues : ∀ value ∈ table.values, ¬ Mentions name value.toList)
    (h : enumInterface? table enum package = some type) : TypeText.Avoids name type.toList := by
  obtain ⟨value, hfound, hvalue⟩ := Option.bind_eq_some_iff.1 h
  refine of_nonBlank? hvalue (hvalues value ?_)
  rw [Option.or_eq_some_iff, Option.or_eq_some_iff] at hfound
  rcases hfound with (hname | ⟨-, hpackage⟩) | ⟨-, hall⟩
  · exact table.mem_values_of_get? hname
  · unfold packageInterface? at hpackage
    split at hpackage
    · cases hpackage
    · obtain ⟨entry, hentry, rfl⟩ := Option.map_eq_some_iff.1 hpackage
      exact List.mem_map_of_mem (List.mem_of_find?_eq_some hentry)
  · exact table.mem_values_of_get? hall

/-- The fixed type of a field is a value of its table. -/
theorem of_fieldOverride? {table : Config.Table} {package class_ field type : String}
    (hvalues : ∀ value ∈ table.values, ¬ Mentions name value.toList)
    (h : fieldOverride? table package class_ field = some type) :
    TypeText.Avoids name type.toList := by
  unfold fieldOverride? at h
  rw [Option.or_eq_some_iff, Option.or_eq_some_iff] at h
  rcases h with (hqualified | ⟨-, hsimple⟩) | ⟨-, hending⟩
  · exact of_bind_nonBlank? hvalues hqualified
  · exact of_bind_nonBlank? hvalues hsimple
  · obtain ⟨⟨key, value⟩, hentry, hfound⟩ := List.exists_of_findSome?_eq_some hending
    cases hkey : nonBlank? key with
    | none => simp [hkey] at hfound
    | some ending =>
      simp only [hkey, Option.ite_none_right_eq_some] at hfound
      exact of_nonBlank? hfound.2 (hvalues value (List.mem_map_of_mem hentry))

include hplain in
/-- A substitution whose values do not mention the name does not bring it in. -/
theorem of_substituted {table : Config.Table} {type : String}
    (hvalues : ∀ value ∈ table.values, ¬ Mentions name value.toList)
    (h : TypeText.Avoids name type.toList) :
    TypeText.Avoids name (substituted table type).1.toList := by
  unfold substituted
  split
  · next new hnew => exact h.substitute? hplain hvalues hnew
  · exact h

include hplain in
/-- Qualifying type names does not bring the name in. -/
theorem withTypeNames (h : bean.Avoids name) {table : Config.Table}
    (hvalues : ∀ value ∈ table.values, ¬ Mentions name value.toList) :
    (bean.withTypeNames registry table).1.Avoids name := by
  have hsubstituted : ∀ type, TypeText.Avoids name type.toList →
      TypeText.Avoids name (substituted table type).1.toList :=
    fun _ => of_substituted hplain hvalues
  refine ⟨fun type htype => ?_, fun type htype => ?_, fun field hfield hshown => ?_⟩
  · have hbase : (bean.withTypeNames registry table).1.base =
        bean.base.map fun type => (substituted table type).1 := by
      show (substitutedReference registry table bean.base bean.baseLink).1 = _
      unfold substitutedReference substituted
      cases bean.base with
      | none => rfl
      | some base =>
        rw [Option.map_some]
        cases TypeText.substitute? table (some base) <;> rfl
    rw [hbase] at htype
    obtain ⟨declared, hdeclared, rfl⟩ := Option.map_eq_some_iff.1 htype
    exact hsubstituted declared (h.base declared hdeclared)
  · have hinterfaces : (bean.withTypeNames registry table).1.interfaces =
        (bean.interfaces.map (substituted table)).map (·.1) := rfl
    rw [hinterfaces, List.map_map] at htype
    obtain ⟨declared, hdeclared, rfl⟩ := List.mem_map.1 htype
    exact hsubstituted declared (h.interfaces declared hdeclared)
  · have hfields : (bean.withTypeNames registry table).1.fields =
        bean.fields.map fun field => { field with type := (substituted table field.type).1 } := rfl
    rw [hfields] at hfield
    obtain ⟨declared, hdeclared, rfl⟩ := List.mem_map.1 hfield
    exact hsubstituted declared.type (h.fields declared hdeclared hshown)

/-- Repairing the declared base does not bring the name in. -/
theorem withKnownBase (h : bean.Avoids name) {table : Config.Table}
    (hvalues : ∀ value ∈ table.values, ¬ Mentions name value.toList) :
    (bean.withKnownBase registry table).1.Avoids name := by
  unfold Bean.withKnownBase
  split
  · exact h
  split
  · exact h
  split
  · next new hnew =>
    refine ⟨fun type htype => ?_, h.interfaces, h.fields⟩
    obtain rfl := Option.some.inj htype
    exact of_bind_nonBlank? hvalues hnew
  · exact ⟨by simp, h.interfaces, h.fields⟩

/-- Removing the base that every class has does not bring the name in. -/
theorem withoutRootBase (h : bean.Avoids name) : bean.withoutRootBase.1.Avoids name := by
  unfold Bean.withoutRootBase
  split
  · split
    · exact ⟨by simp, h.interfaces, h.fields⟩
    · exact h
  · exact h

/-- A default base that does not mention the name does not bring it in. -/
theorem withDefaultBase (h : bean.Avoids name) {default : String}
    (hdefault : TypeText.Avoids name default.toList) :
    (bean.withDefaultBase registry default).1.Avoids name := by
  unfold Bean.withDefaultBase
  split
  · refine ⟨fun type htype => ?_, h.interfaces, h.fields⟩
    obtain rfl := Option.some.inj htype
    exact hdefault
  · exact h

/-- A package does not bring the name in. -/
theorem placed (h : bean.Avoids name) : (bean.placed config roots).1.Avoids name := by
  unfold Bean.placed
  split
  · exact ⟨h.base, h.interfaces, h.fields⟩
  · exact h

/-- An interface for an enum does not bring in a name that the table does not mention. -/
theorem withEnumInterface (h : bean.Avoids name) {table : Config.Table}
    (hvalues : ∀ value ∈ table.values, ¬ Mentions name value.toList) :
    (bean.withEnumInterface table).1.Avoids name := by
  unfold Bean.withEnumInterface
  split
  · split
    · next interface hinterface =>
      refine ⟨h.base, fun type htype => ?_, h.fields⟩
      rcases List.mem_append.1 htype with hold | hnew
      · exact h.interfaces type hold
      · obtain rfl := List.mem_singleton.1 hnew
        exact of_enumInterface? hvalues hinterface
    · exact h
  · exact h

/-- Fixing the types of fields does not bring in a name that the table does not mention. -/
theorem withFieldTypes (h : bean.Avoids name) {table : Config.Table}
    (hvalues : ∀ value ∈ table.values, ¬ Mentions name value.toList) :
    (bean.withFieldTypes table).1.Avoids name := by
  refine ⟨h.base, h.interfaces, fun field hfield hshown => ?_⟩
  obtain ⟨declared, hdeclared, rfl⟩ := List.mem_map.1 hfield
  cases hfixed : fieldOverride? table bean.package bean.name declared.name with
  | none => simpa [hfixed] using h.fields declared hdeclared hshown
  | some type => simpa [hfixed] using of_fieldOverride? hvalues hfixed

include hplain in
/-- Settling the base does not bring in a name that the configuration does not mention. -/
theorem withBase (h : bean.Avoids name) (hconfig : ∀ text ∈ config.typeTexts, ¬ Mentions name text.toList) :
    (bean.withBase registry config).1.Avoids name := by
  have hvalues : ∀ value ∈ config.interfaceExtendsMappings.values, ¬ Mentions name value.toList :=
    fun value hvalue => hconfig value (by simp [Config.typeTexts, hvalue])
  have hdefault : TypeText.Avoids name (trimmed (config.defaultBaseClass.getD "")).toList := by
    refine .inl fun hmention => ?_
    rw [trimmed, String.toList_ofList] at hmention
    cases hgiven : config.defaultBaseClass with
    | none =>
      rw [hgiven] at hmention
      exact absurd rfl (hmention.of_trim.ne_nil hplain.ne_nil)
    | some text =>
      rw [hgiven] at hmention
      exact hconfig text (by simp [Config.typeTexts, hgiven]) hmention.of_trim
  rw [Bean.withBase_fst]
  refine (withoutRootBase ?_).withDefaultBase hdefault
  split
  · exact h.withKnownBase hvalues
  · exact h

include hplain in
/-- A pass brings in no name that the configuration does not mention. -/
theorem onBean (hconfig : ∀ text ∈ config.typeTexts, ¬ Mentions name text.toList) (pass : Pass)
    (h : bean.Avoids name) : (pass.onBean config roots registry bean).Avoids name := by
  have hgiven : ∀ {table : Config.Table}, (∀ value ∈ table.values, value ∈ config.typeTexts) →
      ∀ value ∈ table.values, ¬ Mentions name value.toList :=
    fun hsub value hvalue => hconfig value (hsub value hvalue)
  cases pass with
  | packages => exact h.placed
  | enumInterfaces => exact h.withEnumInterface (hgiven fun _ hvalue => by simp [Config.typeTexts, hvalue])
  | typeNames =>
    show (if config.typeMappings.isEmpty then bean
      else (bean.withTypeNames registry config.typeMappings).1).Avoids name
    split
    · exact h
    · exact h.withTypeNames hplain (hgiven fun _ hvalue => by simp [Config.typeTexts, hvalue])
  | fieldTypes => exact h.withFieldTypes (hgiven fun _ hvalue => by simp [Config.typeTexts, hvalue])
  | bases => exact h.withBase hplain hconfig

include hplain in
/-- All passes together bring in no name that the configuration does not mention. -/
theorem refined (hconfig : ∀ text ∈ config.typeTexts, ¬ Mentions name text.toList)
    (h : bean.Avoids name) : (bean.refined config roots registry).Avoids name := by
  unfold Bean.refined
  induction Pass.all generalizing bean with
  | nil => exact h
  | cons pass passes ih => exact ih (h.onBean hplain hconfig pass)

end

end Bean.Avoids

/-! ## The beans of declarations -/

/-- The name of a helper for a field that can be declared is one name to the reader of type
expressions. -/
theorem outline_helperName {owner : String} {property : Source.Property}
    (howner : isIdentifier owner = true) (hfield : isIdentifier property.name = true) :
    TypeText.outline (trim (helperName owner property).toList) =
      .simple (trim (helperName owner property).toList) := by
  have hchars : ∀ c ∈ (helperName owner property).toList, Java.isNamePart c = true ∨ c = '\n' := by
    intro c hc
    rw [helperName, String.toList_append] at hc
    rcases List.mem_append.1 hc with hc | hc
    · exact Java.isNamePart_or_eq_of_isIdentifier howner hc
    · exact Java.isNamePart_or_eq_of_capitalized hfield hc
  have hnone : ∀ c, Java.isNamePart c = false → c ≠ '\n' →
      c ∉ trim (helperName owner property).toList := by
    intro c hpart hbreak hc
    rcases hchars c ((Mentions.refl _).of_trim.subset hc) with hname | rfl
    · rw [hpart] at hname
      cases hname
    · exact hbreak rfl
  exact Java.outline_of_notMem (hnone _ (by decide) (by decide)) (hnone _ (by decide) (by decide))

/-- The type of text avoids a name that the mapping does not write. -/
theorem avoids_text {name : String} (hmapping : name ∉ TypeText.mappingNames) :
    TypeText.Avoids name.toList Java.TypeExpr.text.print.toList := by
  have htext : Java.TypeExpr.text.print = "String" := by
    rw [Java.TypeExpr.text, Java.TypeExpr.print]
  rw [htext]
  refine .inl fun hmention => hmapping ?_
  rw [String.toList_inj.1 (hmention.eq_of_forall (List.all_eq_true.1 (by decide)))]
  decide

section
variable {name : String} (hplain : IsPlain name.toList) (hdot : '.' ∉ name.toList)
  (hmapping : name ∉ TypeText.mappingNames)
include hplain hdot hmapping

/-- The type that the mapping gives avoids a name which hint and text do not mention. -/
theorem avoids_javaTypeText {optional : Bool} {hint type : Option String}
    (h : ∀ text ∈ hint.toList ++ type.toList, ¬ Mentions name.toList text.toList) :
    TypeText.Avoids name.toList (TypeText.javaTypeText optional hint type).toList := by
  refine .inl fun hmention => ?_
  rcases TypeText.mentions_of_javaTypeText hplain hdot hmention with ⟨text, htext, hold⟩ | hown
  · exact h text htext hold
  · rw [String.ofList_toList] at hown
    exact hmapping hown

/-- The type that the mapping gives a member avoids a name which its texts do not mention. -/
theorem avoids_mappedType {property : Source.Property}
    (h : ∀ text ∈ property.ownTexts, ¬ Mentions name.toList text.toList) :
    TypeText.Avoids name.toList (mappedType property).toList := by
  refine avoids_javaTypeText hplain hdot hmapping fun text htext => h text ?_
  rw [Source.Property.ownTexts]
  simpa [or_comm] using htext

/-- The field of a member avoids a name which the texts of the member do not mention, unless its helper
has the name. -/
theorem avoids_ofMember {owner : String} {property : Source.Property}
    (howner : isIdentifier owner = true) (hfield : isIdentifier property.name = true)
    (htexts : ∀ text ∈ property.ownTexts, ¬ Mentions name.toList text.toList)
    (hhelper : needsHelper property = true → trimmed (helperName owner property) ≠ name) :
    TypeText.Avoids name.toList (Field.ofMember owner property).type.toList := by
  show TypeText.Avoids name.toList
    (if needsHelper property then helperName owner property else mappedType property).toList
  split
  · next hneeds =>
    refine .inr ⟨outline_helperName howner hfield, fun heq => hhelper hneeds ?_⟩
    rw [trimmed, heq, String.ofList_toList]
  · exact avoids_mappedType hplain hdot hmapping htexts

end

section
variable {config : Config} {entries : List (String × Source.Declaration)} {name : String}

/-- A base comes from the texts of a declaration. -/
theorem MadeFrom.exists_of_base {bean : Bean} (h : MadeFrom entries bean) {type : String}
    (hbase : bean.base = some type) : ∃ entry ∈ entries, type ∈ entry.2.texts := by
  cases h with
  | @declared path decl hdecl =>
    refine ⟨_, hdecl, ?_⟩
    cases decl with
    | ofInterface decl => exact List.mem_append_left _ (List.mem_of_mem_head? hbase)
    | ofEnum => cases hbase
    | ofClass decl =>
      have hgiven : decl.base = some type := (Option.filter_eq_some_iff.1 hbase).1
      simp [Source.Declaration.texts, hgiven]
    | ofAlias decl =>
      simp only [Source.Declaration.bean] at hbase
      split at hbase <;> cases hbase
  | helper => cases hbase

/-- An interface comes from the texts of a declaration. -/
theorem MadeFrom.exists_of_interface {bean : Bean} (h : MadeFrom entries bean) {type : String}
    (hinterface : type ∈ bean.interfaces) : ∃ entry ∈ entries, type ∈ entry.2.texts := by
  cases h with
  | @declared path decl hdecl =>
    refine ⟨_, hdecl, ?_⟩
    cases decl with
    | ofInterface | ofEnum => cases hinterface
    | ofClass decl =>
      have hgiven : type ∈ decl.implements := List.mem_of_mem_filter hinterface
      simp [Source.Declaration.texts, hgiven]
    | ofAlias decl =>
      simp only [Source.Declaration.bean] at hinterface
      split at hinterface <;> cases hinterface
  | helper => cases hinterface

/-- Only an alias has a field without having members: its type is that of the target, or text. -/
theorem Source.Declaration.type_of_members_eq_nil {path : String} {decl : Declaration} {field : Field}
    (hmembers : decl.members = []) (hfield : field ∈ (decl.bean path).fields) :
    (∃ target ∈ decl.texts, field.type = TypeText.javaTypeText true none (some target)) ∨
      field.type = Java.TypeExpr.text.print := by
  cases decl with
  | ofInterface decl | ofClass decl =>
    have hnone : decl.properties = [] := hmembers
    simp [bean, hnone] at hfield
  | ofEnum => cases hfield
  | ofAlias decl =>
    simp only [bean] at hfield
    split at hfield
    · next property rest hproperties =>
      rw [members, hproperties] at hmembers
      cases hmembers
    · obtain rfl := List.mem_singleton.1 hfield
      dsimp only
      split
      · next target htarget =>
        have hgiven : decl.target = some target := (Option.filter_eq_some_iff.1 htarget).1
        exact .inl ⟨target, by simp [texts, hgiven], rfl⟩
      · exact .inr rfl

section
variable (hunrelated : Source.Unrelated config entries name) (hplain : IsPlain name.toList)
  (hdot : '.' ∉ name.toList) (hmapping : name ∉ TypeText.mappingNames)
include hunrelated hplain hdot hmapping

/-- The fields of a declared bean avoid a name that is unrelated to the declarations and uncoined. -/
theorem avoids_field_bean (huncoined : Source.Uncoined entries name) {path : String}
    {decl : Source.Declaration} (hdecl : (path, decl) ∈ entries) (howner : isIdentifier decl.name = true)
    {field : Field} (hfield : field ∈ (decl.bean path).fields) (hdeclarable : isIdentifier field.name = true) :
    TypeText.Avoids name.toList field.type.toList := by
  by_cases hmembers : decl.members = []
  · rcases decl.type_of_members_eq_nil hmembers hfield with ⟨target, htarget, htype⟩ | htype
    · rw [htype]
      refine avoids_javaTypeText hplain hdot hmapping fun text htext => ?_
      obtain rfl : text = target := by simpa using htext
      exact hunrelated.unmentioned _ hdecl text htarget
    · rw [htype]
      exact avoids_text hmapping
  · rw [decl.fields_bean path hmembers] at hfield
    obtain ⟨property, hproperty, rfl⟩ := List.mem_map.1 hfield
    refine avoids_ofMember hplain hdot hmapping howner hdeclarable (fun text htext => ?_) fun hneeds => ?_
    · exact hunrelated.unmentioned _ hdecl text
        (decl.texts_of_mem_members hproperty (List.mem_append_left _ htext))
    · exact huncoined.helper _ hdecl _ (decl.mem_helperNames hproperty hneeds)

/-- The fields of a helper avoid a name that is unrelated to the declarations. -/
theorem avoids_field_helperBean {path owner helper : String} {decl : Source.Declaration}
    {property : Source.Property} (hdecl : (path, decl) ∈ entries) (hmember : property ∈ decl.members)
    {field : Field} (hfield : field ∈ (helperBean owner path helper property).fields) :
    TypeText.Avoids name.toList field.type.toList := by
  obtain ⟨member, hmem, rfl⟩ := List.mem_map.1 hfield
  refine avoids_mappedType hplain hdot hmapping fun text htext => ?_
  exact hunrelated.unmentioned _ hdecl text (decl.texts_of_mem_members hmember
    (List.mem_append_right _ (List.mem_flatMap.2 ⟨member, hmem, htext⟩)))

end

/-- The beans of declarations avoid a name that is unrelated to them and uncoined. Of a declared bean this
is said only if its name can be declared, since no other one is written. -/
theorem MadeFrom.avoids {bean : Bean} (h : MadeFrom entries bean)
    (hunrelated : Source.Unrelated config entries name) (huncoined : Source.Uncoined entries name)
    (hplain : IsPlain name.toList) (hdot : '.' ∉ name.toList) (hmapping : name ∉ TypeText.mappingNames)
    (hshown : bean.owner = none → isIdentifier bean.name = true) : bean.Avoids name.toList := by
  refine ⟨fun type htype => ?_, fun type htype => ?_, fun field hfield hdeclarable => ?_⟩
  · obtain ⟨entry, hentry, htext⟩ := h.exists_of_base htype
    exact .inl (hunrelated.unmentioned entry hentry type htext)
  · obtain ⟨entry, hentry, htext⟩ := h.exists_of_interface htype
    exact .inl (hunrelated.unmentioned entry hentry type htext)
  · cases h with
    | @declared path decl hdecl =>
      have howner : isIdentifier decl.name = true := by
        rw [← decl.bean_name path]
        exact hshown (decl.bean_owner path)
      exact avoids_field_bean hunrelated hplain hdot hmapping huncoined hdecl howner hfield hdeclarable
    | helper hdecl hmember hneeds =>
      exact avoids_field_helperBean hunrelated hplain hdot hmapping hdecl hmember hfield

/-- In front of the last pass no base of a declaration is a name that is unrelated to the declarations
and uncoined. -/
theorem MadeFrom.base_prepared_ne {bean : Bean} (h : MadeFrom entries bean)
    (hunrelated : Source.Unrelated config entries name) (huncoined : Source.Uncoined entries name)
    (hblank : isBlankText name = false) (roots : Roots) (registry : Registry) :
    (bean.prepared config roots registry).base ≠ some name := by
  intro hbase
  rw [Bean.base_prepared, Option.or_eq_some_iff] at hbase
  rcases hbase with hnew | ⟨-, hdeclared⟩
  · obtain ⟨type, hdeclared, hnew⟩ : ∃ type, bean.base = some type ∧
        TypeText.substituteText? config.typeMappings type.toList = some name.toList := by
      obtain ⟨new, hbound, rfl⟩ := Option.map_eq_some_iff.1 hnew
      obtain ⟨type, hdeclared, hsubstituted⟩ := Option.bind_eq_some_iff.1 hbound
      exact ⟨type, hdeclared, by rw [hsubstituted, String.toList_ofList]⟩
    have hplain : IsPlain name.toList :=
      { ne_nil := by
          intro hempty
          rw [isBlankText, hempty] at hblank
          cases hblank
        trimmed := TypeText.trim_of_substituteText? hnew huncoined.unstructured
        unstructured := huncoined.unstructured }
    obtain ⟨entry, hentry, htype⟩ := h.exists_of_base hdeclared
    rcases TypeText.mentions_of_substituteText? hplain _ hnew (.refl _) with
      hold | ⟨value, hvalue, hmention⟩
    · exact hunrelated.unmentioned entry hentry type htype hold
    · exact hunrelated.unconfigured value (by simp [Config.typeTexts, hvalue]) hmention
  · obtain ⟨entry, hentry, htype⟩ := h.exists_of_base hdeclared
    exact hunrelated.unmentioned entry hentry name htype (.refl _)

end

end BeanGen

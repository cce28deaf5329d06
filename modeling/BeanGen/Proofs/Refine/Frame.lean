import BeanGen.Proofs.Refine.PerBean

/-!
# What the passes leave alone

Each of the five passes changes a part of a bean: placing it changes the package, the enum pass the
interfaces, replacing type names whatever refers to a type, fixing field types the fields, and the last pass
the base with its link and the list of dropped bases. Whatever is read off a bean without looking at that
part, the pass leaves alone (`Bean.placed_frame`, `Bean.withEnumInterface_frame`, `Pass.typeNames_frame`,
`Bean.withFieldTypes_frame`, `Bean.withBase_frame`). Links for interfaces and fields are two such readings. So where no type names are
replaced, a run keeps the links for interfaces (`Bean.interfaceLinks_refined`), though not always the
interfaces (`Bean.interfaces_refined`), and if no field has a fixed type either, it keeps the fields
(`Bean.fields_refined`).
-/

namespace BeanGen

section
variable {α : Type} (view : Bean → α) {config : Config} {roots : Roots} {registry : Registry}

/-- Placing a bean leaves alone what does not depend on the package. -/
theorem Bean.placed_frame
    (hview : ∀ (bean : Bean) package, view { bean with package := package } = view bean)
    (bean : Bean) : view (bean.placed config roots).1 = view bean := by
  unfold Bean.placed
  split
  · exact hview bean _
  · rfl

/-- The enum pass leaves alone what does not depend on the interfaces. -/
theorem Bean.withEnumInterface_frame
    (hview : ∀ (bean : Bean) interfaces, view { bean with interfaces := interfaces } = view bean)
    (table : Config.Table) (bean : Bean) : view (bean.withEnumInterface table).1 = view bean := by
  unfold Bean.withEnumInterface
  split
  · split
    · exact hview bean _
    · rfl
  · rfl

/-- Replacing type names leaves alone what does not depend on the references and their links. -/
theorem Pass.typeNames_frame
    (hview : ∀ (bean : Bean) base baseLink interfaces links target targetLink fields,
      view { bean with
        base := base, baseLink := baseLink, interfaces := interfaces, interfaceLinks := links,
        aliasTarget := target, aliasLink := targetLink, fields := fields } = view bean)
    (bean : Bean) : view (Pass.typeNames.onBean config roots registry bean) = view bean := by
  rw [Pass.onBean]
  split
  · rfl
  · exact hview bean _ _ _ _ _ _ _

/-- The last pass leaves alone what depends neither on the base and its link nor on the dropped bases. -/
theorem Bean.withBase_frame
    (hview : ∀ (bean : Bean) base link dropped,
      view { bean with base := base, baseLink := link, unresolvedBases := dropped } = view bean)
    (bean : Bean) : view (bean.withBase registry config).1 = view bean := by
  have hknown : ∀ bean : Bean,
      view (bean.withKnownBase registry config.interfaceExtendsMappings).1 = view bean := by
    intro bean
    unfold Bean.withKnownBase
    split
    · rfl
    split
    · rfl
    split
    · exact hview bean _ _ bean.unresolvedBases
    · exact hview bean _ _ _
  have hroot : ∀ bean : Bean, view bean.withoutRootBase.1 = view bean := by
    intro bean
    unfold Bean.withoutRootBase
    split
    · split
      · exact hview bean _ _ bean.unresolvedBases
      · rfl
    · rfl
  have hdefault : ∀ (default : String) (bean : Bean),
      view (bean.withDefaultBase registry default).1 = view bean := by
    intro default bean
    unfold Bean.withDefaultBase
    split
    · exact hview bean _ _ bean.unresolvedBases
    · rfl
  rw [Bean.withBase_fst, hdefault, hroot]
  split
  · exact hknown bean
  · rfl

end

/-- Fixing field types leaves alone what does not depend on the fields. -/
theorem Bean.withFieldTypes_frame {α : Type} (view : Bean → α)
    (hview : ∀ (bean : Bean) fields, view { bean with fields := fields } = view bean)
    (table : Config.Table) (bean : Bean) : view (bean.withFieldTypes table).1 = view bean :=
  hview bean _

/-- A table without entries fixes the type of no field. -/
theorem fieldOverride?_eq_none {table : Config.Table} (h : table.isEmpty = true)
    (package class_ field : String) : fieldOverride? table package class_ field = none := by
  have hentries : table.entries = [] := List.isEmpty_iff.1 h
  have hget : ∀ key, table.get? key = none := by
    intro key
    rw [Config.Table.get?, hentries]
    rfl
  simp only [fieldOverride?, hget, hentries]
  rfl

section
variable (config : Config) (roots : Roots) (registry : Registry) (bean : Bean)

/-- The passes one after the other. -/
theorem Bean.refined_steps :
    bean.refined config roots registry =
      (((Pass.typeNames.onBean config roots registry
          ((bean.placed config roots).1.withEnumInterface config.enumInterfaceMapping).1).withFieldTypes
        config.fieldTypeMappings).1.withBase registry config).1 :=
  rfl

/-- The links for interfaces stay, unless type names are replaced; then they are those of the interfaces
that the bean has in the end, name by name. -/
theorem Bean.interfaceLinks_refined :
    (bean.refined config roots registry).interfaceLinks =
      if config.typeMappings.isEmpty then bean.interfaceLinks
      else (bean.refined config roots registry).interfaces.filterMap fun name =>
        registry.linkTo? (some name) := by
  rw [refined_steps, withBase_frame interfaceLinks (fun _ _ _ _ => rfl),
    withBase_frame interfaces (fun _ _ _ _ => rfl),
    withFieldTypes_frame interfaceLinks (fun _ _ => rfl),
    withFieldTypes_frame interfaces (fun _ _ => rfl), Pass.onBean]
  split
  · rw [withEnumInterface_frame interfaceLinks (fun _ _ => rfl),
      placed_frame interfaceLinks (fun _ _ => rfl)]
  · rw [withTypeNames, List.filterMap_map]
    rfl

/-- Where no type names are replaced, the interfaces stay, but an enum gets the one that the configuration
has for it. -/
theorem Bean.interfaces_refined (htypes : config.typeMappings.isEmpty = true) :
    (bean.refined config roots registry).interfaces =
      if bean.kind = .javaEnum then
        bean.interfaces ++ (enumInterface? config.enumInterfaceMapping bean.name
          (bean.placed config roots).1.package).toList
      else bean.interfaces := by
  rw [refined_steps, withBase_frame interfaces (fun _ _ _ _ => rfl),
    withFieldTypes_frame interfaces (fun _ _ => rfl), Pass.onBean, if_pos htypes, withEnumInterface,
    placed_frame kind (fun _ _ => rfl), placed_frame name (fun _ _ => rfl)]
  have hplaced : (bean.placed config roots).1.interfaces = bean.interfaces :=
    placed_frame interfaces (fun _ _ => rfl) bean
  split
  · split
    · next interface hinterface =>
      rw [hinterface, hplaced]
      rfl
    · next hnone =>
      rw [hnone, hplaced]
      exact (List.append_nil _).symm
  · exact hplaced

/-- Where neither type names are replaced nor field types fixed, a bean keeps its fields. -/
theorem Bean.fields_refined (htypes : config.typeMappings.isEmpty = true)
    (hfields : config.fieldTypeMappings.isEmpty = true) :
    (bean.refined config roots registry).fields = bean.fields := by
  have hfixed : ∀ bean : Bean,
      (bean.withFieldTypes config.fieldTypeMappings).1.fields = bean.fields := by
    intro bean
    refine (List.map_congr_left fun field _ => ?_).trans (List.map_id _)
    show { field with type := (fieldOverride? config.fieldTypeMappings _ _ _).getD field.type } = field
    rw [fieldOverride?_eq_none hfields]
    rfl
  rw [refined_steps, withBase_frame fields (fun _ _ _ _ => rfl), hfixed, Pass.onBean, if_pos htypes,
    withEnumInterface_frame fields (fun _ _ => rfl), placed_frame fields (fun _ _ => rfl)]

end

end BeanGen

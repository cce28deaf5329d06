import BeanGen.Proofs.Refine.Lookup

/-!
# What refining does not look at

Apart from the pass that assigns packages no pass reads the path of a file, and none reads the visibility
that a field was declared with. So a bean with another path and other visibilities of its fields is refined
to the same bean with that path and these visibilities, if both paths get the same package
(`Bean.refined_redeclared`), and so are all beans of a run (`unlinkedBeans_refinedBeans_redeclared`).
-/

namespace BeanGen

/-- The field with another visibility. -/
def Field.redeclared (visibility : Option String → Option String) (field : Field) : Field :=
  { field with visibility := visibility field.visibility }

/-- The bean with another path of its file and other visibilities of its fields. -/
def Bean.redeclared (path visibility : Option String → Option String) (bean : Bean) : Bean :=
  { bean with
    sourcePath := path bean.sourcePath
    fields := bean.fields.map (Field.redeclared visibility) }

section
variable {config : Config} {roots roots' : Roots} {files files' : Source.Files}
  (path visibility : Option String → Option String)

/-- Neither of them plays a part in settling the base. -/
theorem Bean.withBase_redeclared (registry : Registry) (bean : Bean) :
    ((bean.redeclared path visibility).withBase registry config).1 =
      (bean.withBase registry config).1.redeclared path visibility := by
  have hknown : ∀ table, ((bean.redeclared path visibility).withKnownBase registry table).1 =
      (bean.withKnownBase registry table).1.redeclared path visibility := by
    intro table
    have hbase : (bean.redeclared path visibility).base = bean.base := rfl
    simp only [withKnownBase, hbase]
    cases bean.base with
    | none => rfl
    | some base =>
      dsimp only
      split
      · rfl
      · split <;> rfl
  have hroot : ∀ bean : Bean, (bean.redeclared path visibility).withoutRootBase.1 =
      bean.withoutRootBase.1.redeclared path visibility := by
    intro bean
    have hbase : (bean.redeclared path visibility).base = bean.base := rfl
    simp only [withoutRootBase, hbase]
    cases bean.base with
    | none => rfl
    | some base =>
      dsimp only
      split <;> rfl
  have hdefault : ∀ (default : String) (bean : Bean),
      ((bean.redeclared path visibility).withDefaultBase registry default).1 =
        (bean.withDefaultBase registry default).1.redeclared path visibility := by
    intro default bean
    have hlacks : (bean.redeclared path visibility).lacksBase default = bean.lacksBase default := rfl
    simp only [withDefaultBase, hlacks]
    split <;> rfl
  have hdeclares : (bean.redeclared path visibility).declaresBase = bean.declaresBase := rfl
  rw [withBase_fst, withBase_fst, hdeclares]
  split
  · rw [hknown, hroot, hdefault]
  · rw [hroot, hdefault]

variable (roots) in
/-- Behind the pass that assigns packages no pass reads either of them. -/
theorem Pass.onBean_redeclared (registry : Registry) {pass : Pass} (hpass : pass ≠ .packages)
    (bean : Bean) :
    pass.onBean config roots' registry (bean.redeclared path visibility) =
      (pass.onBean config roots registry bean).redeclared path visibility := by
  cases pass with
  | packages => exact absurd rfl hpass
  | enumInterfaces =>
    have hkind : (bean.redeclared path visibility).kind = bean.kind := rfl
    have hname : (bean.redeclared path visibility).name = bean.name := rfl
    have hpackage : (bean.redeclared path visibility).package = bean.package := rfl
    simp only [Pass.onBean, Bean.withEnumInterface, hkind, hname, hpackage]
    split
    · split <;> rfl
    · rfl
  | typeNames =>
    unfold onBean
    dsimp only
    split
    · rfl
    · simp only [Bean.withTypeNames, Bean.redeclared, List.map_map]
      rfl
  | fieldTypes =>
    simp only [Pass.onBean, Bean.withFieldTypes, Bean.redeclared, List.map_map]
    rfl
  | bases => exact bean.withBase_redeclared path visibility registry

/-- A bean whose file is given the same package at both paths is refined alike. -/
theorem Bean.refined_redeclared (registry : Registry) {bean : Bean}
    (h : packageOf? config roots' (path bean.sourcePath) = packageOf? config roots bean.sourcePath) :
    (bean.redeclared path visibility).refined config roots' registry =
      (bean.refined config roots registry).redeclared path visibility := by
  have hplaced : Pass.packages.onBean config roots' registry (bean.redeclared path visibility) =
      (Pass.packages.onBean config roots registry bean).redeclared path visibility := by
    show ((bean.redeclared path visibility).placed config roots').1 =
      (bean.placed config roots).1.redeclared path visibility
    have hpath : (bean.redeclared path visibility).sourcePath = path bean.sourcePath := rfl
    unfold placed
    rw [hpath, h]
    split <;> rfl
  have hrest : ∀ passes : List Pass, Pass.packages ∉ passes → ∀ bean : Bean,
      passes.foldl (fun bean pass => pass.onBean config roots' registry bean)
          (bean.redeclared path visibility) =
        (passes.foldl (fun bean pass => pass.onBean config roots registry bean)
          bean).redeclared path visibility := by
    intro passes hpasses
    induction passes with
    | nil => exact fun _ => rfl
    | cons pass passes ih =>
      intro bean
      have hpass : pass ≠ .packages := fun heq => hpasses (heq ▸ List.mem_cons_self)
      rw [List.foldl_cons, List.foldl_cons,
        Pass.onBean_redeclared roots path visibility registry hpass,
        ih fun hmem => hpasses (List.mem_cons_of_mem _ hmem)]
  have hfirst : ∀ (roots : Roots) (bean : Bean), bean.refined config roots registry =
      [Pass.enumInterfaces, .typeNames, .fieldTypes, .bases].foldl
        (fun bean pass => pass.onBean config roots registry bean)
        (Pass.packages.onBean config roots registry bean) := by
    intro roots bean
    rw [refined, Pass.all, List.foldl_cons]
  rw [hfirst, hfirst, hplaced, hrest _ (by decide)]

/-- Files that make the same beans but for paths and visibilities leave the same beans but for these, if
they are given the same packages. -/
theorem unlinkedBeans_refinedBeans_redeclared
    (hbeans : (Registry.ofFiles files').unlinkedBeans =
      (Registry.ofFiles files).unlinkedBeans.map (Bean.redeclared path visibility))
    (hpackage : ∀ bean ∈ (Registry.ofFiles files).unlinkedBeans,
      packageOf? config roots' (path bean.sourcePath) = packageOf? config roots bean.sourcePath) :
    (refinedBeans config roots' files').unlinkedBeans =
      (refinedBeans config roots files).unlinkedBeans.map (Bean.redeclared path visibility) := by
  have hnames : (Registry.ofFiles files').names = (Registry.ofFiles files).names := by
    rw [← Registry.names_unlinkedBeans, hbeans, List.map_map, ← Registry.names_unlinkedBeans]
    rfl
  rw [unlinkedBeans_refinedBeans, unlinkedBeans_refinedBeans, hbeans, List.map_map, List.map_map]
  refine List.map_congr_left fun bean hbean => ?_
  have hregistry : ((bean.redeclared path visibility).refined config roots'
        (Registry.ofFiles files')).unlinked =
      ((bean.redeclared path visibility).refined config roots' (Registry.ofFiles files)).unlinked :=
    Bean.unlinked_refined_of_names fun name => by rw [hnames]
  have hunlinked : ∀ bean : Bean, (bean.redeclared path visibility).unlinked =
      bean.unlinked.redeclared path visibility := fun _ => rfl
  rw [Function.comp_apply, Function.comp_apply, hregistry,
    Bean.refined_redeclared path visibility _ (hpackage bean hbean), hunlinked]

end

end BeanGen

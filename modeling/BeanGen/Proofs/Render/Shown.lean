import BeanGen.Proofs.Render.Congruence

/-!
# What no file shows

The links of a bean and the visibility that a field was declared with are kept, but they are written
nowhere. `Bean.shown` is a bean without them. Every step of the writer makes the same of a bean and of
what is shown of it (`Writer.unit_shown`), so two registries of beans that show the same are written as
the same files (`Writer.outputs_congr_shown`).
-/

namespace BeanGen

open Java (isIdentifier)

/-- The field without the visibility that it was declared with. -/
def Field.shown (field : Field) : Field :=
  { field with visibility := none }

/-- The bean without its links and without the visibility of its fields. -/
def Bean.shown (bean : Bean) : Bean :=
  { bean.unlinked with fields := bean.fields.map Field.shown }

@[simp] theorem Bean.shown_name (bean : Bean) : bean.shown.name = bean.name := rfl

/-- The beans of a registry, shown. -/
def Registry.shown (registry : Registry) : Registry where
  beans := registry.beans.map Bean.shown
  nodup := by simpa [Function.comp_def] using registry.nodup

/-- A writer that knows only what is shown of the beans. -/
def Writer.shown (writer : Writer) : Writer :=
  { writer with registry := writer.registry.shown }

/-- Changes that keep the key keep what is left of a row. -/
theorem Bean.firstByKey_map {α : Type} {key : α → String} {f : α → α} (h : ∀ a, key (f a) = key a)
    (seen : List String) (elements : List α) :
    firstByKey key seen (elements.map f) = (firstByKey key seen elements).map f := by
  induction elements generalizing seen with
  | nil => rfl
  | cons a rest ih =>
    rw [List.map_cons, firstByKey, firstByKey, h]
    split
    · exact ih seen
    · rw [ih, List.map_cons]

/-- The fields that are left of repeated ones are shown as such. -/
theorem Bean.distinctFields_shown (bean : Bean) :
    bean.shown.distinctFields = bean.distinctFields.map Field.shown := by
  have hname : ∀ field : Field, field.shown.name = field.name := fun _ => rfl
  exact firstByKey_map hname [] bean.fields

namespace Writer

section
variable (writer : Writer) (package inside name : String) (bean : Bean)

/-- The class that a helper is nested in. -/
theorem outerOf?_shown : writer.shown.outerOf? bean.shown = (writer.outerOf? bean).map Bean.shown := by
  have hfind : ∀ name, writer.shown.registry.get? name =
      (writer.registry.get? name).map Bean.shown := by
    intro name
    unfold Registry.get?
    split
    · rfl
    · exact List.find?_map
  have howner : bean.shown.owner = bean.owner := rfl
  unfold outerOf? Registry.resolve?
  rw [howner]
  cases bean.owner with
  | none => rfl
  | some owner =>
    rw [Option.bind_some, Option.bind_some, hfind]
    cases writer.registry.get? owner with
    | none => rfl
    | some outer =>
      have hkind : outer.shown.kind = outer.kind := rfl
      rw [Option.map_some, Option.filter_some, Option.filter_some, hkind]
      split <;> rfl

/-- A reference depends on what is shown. -/
theorem site?_shown : writer.shown.site? name = writer.site? name := by
  have hfind : writer.shown.registry.beans.find? (·.name == name) =
      (writer.registry.beans.find? (·.name == name)).map Bean.shown := List.find?_map
  unfold site? Registry.bean?
  rw [hfind]
  cases writer.registry.beans.find? (·.name == name) with
  | none => rfl
  | some bean =>
    have houter : writer.shown.outerOf? bean.shown.unlinked =
        (writer.outerOf? bean.unlinked).map Bean.shown := writer.outerOf?_shown bean
    rw [Option.map_some, Option.map_some, Option.map_some, Option.map_some, houter, Option.map_map]
    rfl

/-- A type is written alike. -/
theorem qualify_shown : writer.shown.qualify package inside = writer.qualify package inside := by
  funext type
  exact qualify_congr package inside fun name _ _ _ _ => writer.site?_shown _

/-- Types are written alike. -/
theorem qualifyAll_shown :
    writer.shown.qualifyAll package inside = writer.qualifyAll package inside := by
  unfold qualifyAll
  rw [qualify_shown]

/-- The helpers nested in a class. -/
theorem nestedIn_shown : writer.shown.nestedIn name = (writer.nestedIn name).map Bean.shown := by
  unfold nestedIn
  have hbeans : writer.shown.registry.beans = writer.registry.beans.map Bean.shown := rfl
  rw [hbeans, List.filter_map]
  refine congrArg (List.map _) (List.filter_congr fun bean _ => ?_)
  rw [Function.comp_apply, outerOf?_shown]
  cases writer.outerOf? bean <;> rfl

/-- A field is written alike. -/
theorem fieldDecl_shown (field : Field) :
    writer.shown.fieldDecl package inside field.shown = writer.fieldDecl package inside field := by
  unfold fieldDecl
  rw [qualify_shown]
  rfl

/-- A class is written alike, with the helpers nested in it. -/
theorem classDecl_shown (depth : Nat) :
    writer.shown.classDecl package depth bean.shown = writer.classDecl package depth bean := by
  have haround : ∀ (bean : Bean) nested, writer.shown.classAround package bean.shown nested =
      writer.classAround package bean nested := by
    intro bean nested
    have hfields : bean.shown.distinctFields.filter (fun field => isIdentifier field.name) =
        (bean.distinctFields.filter fun field => isIdentifier field.name).map Field.shown := by
      rw [Bean.distinctFields_shown, List.filter_map]
      rfl
    have hbase : writer.shown.baseOf? package bean.shown = writer.baseOf? package bean := by
      unfold baseOf?
      rw [qualify_shown]
      rfl
    unfold classAround
    dsimp only
    rw [hfields, hbase, qualifyAll_shown, List.map_map, List.isEmpty_map]
    have hdecl : writer.shown.fieldDecl package bean.shown.name ∘ Field.shown =
        writer.fieldDecl package bean.name := funext (writer.fieldDecl_shown package bean.name)
    rw [hdecl]
    rfl
  induction depth generalizing bean with
  | zero =>
    have hzero : ∀ (writer : Writer) (bean : Bean), writer.classDecl package 0 bean =
        writer.classAround package bean [] := fun writer bean => by
      rw [classDecl]
      rfl
    rw [hzero, hzero, haround]
  | succ depth ih =>
    rw [classDecl_succ, classDecl_succ, haround, nestedIn_shown, List.map_map]
    refine congrArg (writer.classAround package bean) (List.map_congr_left fun helper _ => ?_)
    rw [Function.comp_apply, ih]
    rfl

/-- The file of a bean is written alike. -/
theorem unit_shown : writer.shown.unit bean.shown = writer.unit bean := by
  have henum : writer.shown.enumDecl bean.shown = writer.enumDecl bean := by
    unfold enumDecl
    rw [qualifyAll_shown]
    rfl
  have hinterface : writer.shown.interfaceDecl bean.shown = writer.interfaceDecl bean := by
    unfold interfaceDecl
    rw [qualifyAll_shown, qualify_shown, Bean.distinctFields_shown, List.filterMap_map]
    rfl
  have hlength : writer.shown.registry.beans.length = writer.registry.beans.length :=
    List.length_map _
  have htype : writer.shown.typeDecl bean.shown = writer.typeDecl bean := by
    unfold typeDecl
    rw [henum, hinterface, hlength, classDecl_shown]
    rfl
  unfold unit
  rw [htype]
  rfl

/-- The files are written alike. -/
theorem outputs_shown (outputDir : String) :
    writer.shown.outputs outputDir = writer.outputs outputDir := by
  have hemitted : writer.shown.emitted = writer.emitted.map Bean.shown := by
    have hbeans : writer.shown.registry.beans = writer.registry.beans.map Bean.shown := rfl
    unfold emitted
    rw [hbeans, List.filter_map]
    refine congrArg (List.map _) (List.filter_congr fun bean _ => ?_)
    rw [Function.comp_apply, outerOf?_shown, Option.isNone_map]
    rfl
  rw [outputs, outputs, hemitted, List.map_map]
  refine List.map_congr_left fun bean _ => ?_
  rw [Function.comp_apply, unit_shown]
  rfl

end

/-- Beans that show the same are written as the same files. -/
theorem outputs_congr_shown {registry other : Registry} (config : Config) (outputDir : String)
    (h : registry.unlinkedBeans.map Bean.shown = other.unlinkedBeans.map Bean.shown) :
    (of registry config).outputs outputDir = (of other config).outputs outputDir := by
  have hbeans : ∀ registry : Registry,
      registry.unlinkedBeans.map Bean.shown = registry.shown.beans := fun _ => List.map_map
  have hregistry : registry.shown = other.shown := by
    rw [Registry.mk.injEq, ← hbeans, ← hbeans, h]
  have hwriter : (of registry config).shown = (of other config).shown := by
    show { of registry config with registry := registry.shown } =
      { of other config with registry := other.shown }
    rw [hregistry]
    rfl
  rw [← outputs_shown, hwriter, outputs_shown]

end Writer

end BeanGen

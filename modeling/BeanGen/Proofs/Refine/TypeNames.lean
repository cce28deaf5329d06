import BeanGen.Proofs.Refine.PerBean
import BeanGen.Proofs.TypeText.Relabeled
import BeanGen.Proofs.TypeText.Tree
import Mathlib.Data.List.Forall2

/-!
# What the replacement of type names changes

The replacement of type names goes over all references of a bean: its base, its interfaces, its alias target and
the types of its fields (`Bean.references`). It ought to change those in which the table has another name for one
of the names (`replacesName`), and to count these. But it compares texts, and an expression counts as changed
as soon as it is laid out otherwise than it is printed (`reprints`). So it leaves a reference without any name
of the table as it is only if the reference is laid out as printed, and its count exceeds the right one by
the number of those that are merely printed anew (`references_typeNames`). The text of an expression tree is
always laid out as printed, so over such texts the number is right (`Pass.count_typeNames_text`). But
`Map<String,Integer>` is not laid out so (`not_forall_references_typeNames`).
-/

namespace BeanGen

open Text Config

namespace TypeText

/-- A type expression after substitution. -/
def retyped (table : Table) (type : String) : String :=
  (substitute? table (some type)).getD type

/-- One of the undotted names in the expression is a key of the table. -/
def mentionsKey (table : Table) (type : String) : Bool :=
  (names type.toList).any fun name => !name.contains '.' && (table.get? (String.ofList name)).isSome

/-- The table has another name for one of the names in the expression. -/
def replacesName (table : Table) (type : String) : Bool :=
  (names type.toList).any fun name => (replacement? table name).any (· != name)

/-- There is a table to replace names by, and the expression changes when it is printed anew with every name as
it is. -/
def reprints (table : Table) (type : String) : Bool :=
  !table.isEmpty && relabeled (keeping (replacement? table)) type.toList != type.toList

section
variable {table : Table} {type : String} {name : List Char}

/-! ## Which expressions stay -/

/-- A substitution relabels an expression by its table, if there are entries in it. -/
theorem retyped_eq_self_iff_relabeled : retyped table type = type ↔
    table.isEmpty = true ∨ relabeled (replacement? table) type.toList = type.toList := by
  cases hempty : table.isEmpty with
  | true =>
    rw [retyped, substitute?, Option.bind_some, substituteText?, hempty, Bool.or_true, if_pos rfl]
    simp
  | false =>
    rw [retyped, substitute?, Option.bind_some, substituteText?_eq hempty]
    by_cases hsame : relabeled (replacement? table) type.toList = type.toList
    · simp [hsame]
    · rw [if_neg hsame, Option.map_some, Option.getD_some, ← String.toList_inj, String.toList_ofList]
      simp

/-- The expression is not printed anew. -/
theorem reprints_eq_false_iff : reprints table type = false ↔
    table.isEmpty = true ∨ relabeled (keeping (replacement? table)) type.toList = type.toList := by
  rw [reprints, Bool.and_eq_false_iff, Bool.not_eq_false', bne_eq_false_iff_eq]

/-- A name of an expression that mentions no key is not replaced. -/
theorem replacement?_eq_none (h : mentionsKey table type = false) (hname : name ∈ names type.toList) :
    replacement? table name = none := by
  have hkey := List.any_eq_false.1 h name hname
  rw [Bool.and_eq_true, Bool.not_eq_true', not_and, Bool.not_eq_true, Option.isSome_eq_false_iff,
    Option.isNone_iff_eq_none] at hkey
  rw [replacement?]
  split
  · rfl
  · next hdot =>
    rw [Bool.or_eq_true, not_or, Bool.not_eq_true, Bool.not_eq_true] at hdot
    rw [hkey hdot.2]
    rfl

/-- An expression that mentions no key stays exactly when it is not printed anew. -/
theorem retyped_eq_self_of_mentionsKey (h : mentionsKey table type = false) :
    retyped table type = type ↔ reprints table type = false := by
  have hsame : relabeled (keeping (replacement? table)) type.toList = relabeled (replacement? table) type.toList :=
    relabeled_congr _ fun name hname => by rw [keeping, replacement?_eq_none h hname, Option.map_none]
  rw [retyped_eq_self_iff_relabeled, reprints_eq_false_iff, hsame]

/-- No name is replaced by another one. -/
theorem replacesName_eq_false_iff : replacesName table type = false ↔
    ∀ name ∈ names type.toList, ∀ new, replacement? table name = some new → new = name := by
  rw [replacesName, List.any_eq_false]
  refine forall₂_congr fun name _ => ?_
  rw [Bool.not_eq_true, Option.any_eq_false]
  exact forall₂_congr fun new _ => bne_eq_false_iff_eq

/-- A name that is replaced is a key of the table. -/
theorem isUndivided_of_replacement? (hkeys : ∀ entry ∈ table.entries, IsUndivided entry.1.toList)
    {new : List Char} (h : replacement? table name = some new) : IsUndivided name := by
  obtain ⟨value, hget, -⟩ := exists_of_replacement? h
  obtain ⟨front, back, hentries, -⟩ := List.lookup_eq_some_iff.1 hget
  have hkey := hkeys (String.ofList name, value) (by rw [hentries]; simp)
  rwa [String.toList_ofList] at hkey

/-- With a table of simple names an expression stays exactly when no name is replaced by another one and it is
not printed anew. -/
theorem retyped_eq_self_iff (hkeys : ∀ entry ∈ table.entries, IsUndivided entry.1.toList) :
    retyped table type = type ↔ replacesName table type = false ∧ reprints table type = false := by
  rw [retyped_eq_self_iff_relabeled, reprints_eq_false_iff, replacesName_eq_false_iff]
  cases hempty : table.isEmpty with
  | true =>
    have hnone : ∀ name, replacement? table name = none := by
      intro name
      cases hreplace : replacement? table name with
      | none => rfl
      | some new =>
        obtain ⟨value, hget, -⟩ := exists_of_replacement? hreplace
        rw [Table.get?, List.isEmpty_iff.1 hempty] at hget
        cases hget
    simp [hnone]
  | false =>
    rw [relabeled_eq_self_iff (fun _ _ => trim_of_replacement?) fun _ _ _ => isUndivided_of_replacement? hkeys]
    simp [and_comm]

/-- The text of an expression tree is laid out as it is printed. -/
theorem reprints_text (table : Table) (tree : Tree TypeName) : reprints table tree.text = false := by
  have hlabel : (fun label : TypeName => label.relabeled (keeping (replacement? table))) = TypeName.text := by
    funext label
    rw [TypeName.relabeled, keeping]
    cases replacement? table label.text.toList <;> simp
  rw [reprints_eq_false_iff, tree.relabeled_text, hlabel, ← Tree.text]
  exact .inr rfl

end

end TypeText

open TypeText

/-! ## The references of a bean -/

/-- The types that a bean refers to. -/
def Bean.references (bean : Bean) : List String :=
  bean.base.toList ++ bean.interfaces ++ bean.aliasTarget.toList ++ bean.fields.map (·.type)

/-- The types that the beans of a registry refer to. -/
def Registry.references (registry : Registry) : List String :=
  registry.beans.flatMap Bean.references

/-- The bean with the types that it refers to changed. -/
def Bean.mapReferences (f : String → String) (bean : Bean) : Bean :=
  { bean with
    base := bean.base.map f
    interfaces := bean.interfaces.map f
    aliasTarget := bean.aliasTarget.map f
    fields := bean.fields.map fun field => { field with type := f field.type } }

section
variable (registry : Registry) (table : Table) (bean : Bean)

/-- Each reference is changed on its own. -/
theorem Bean.references_mapReferences (f : String → String) :
    (bean.mapReferences f).references = bean.references.map f := by
  simp [references, mapReferences, Option.toList_map, Function.comp_def]

/-- What is different after a substitution is counted. -/
theorem substituted_eq : substituted table =
    fun type => (retyped table type, if retyped table type != type then 1 else 0) := by
  funext type
  rw [substituted, retyped]
  cases hnew : substitute? table (some type) with
  | none => simp
  | some new => simp [ne_of_substitute? hnew]

/-- A reference is substituted where there is one. -/
theorem substitutedReference_fst (name : Option String) (link : Option Link) :
    (substitutedReference registry table name link).1 = name.map (retyped table) := by
  cases name with
  | none => rfl
  | some type =>
    rw [substitutedReference, Option.map_some, retyped]
    cases substitute? table (some type) <;> rfl

theorem substitutedReference_count (name : Option String) (link : Option Link) :
    (substitutedReference registry table name link).2.2 =
      name.toList.countP fun type => retyped table type != type := by
  cases name with
  | none => rfl
  | some type =>
    rw [substitutedReference, Option.toList_some, List.countP_singleton, retyped]
    cases hnew : substitute? table (some type) with
    | none => simp
    | some new => simp [ne_of_substitute? hnew]

/-- Counting what has a property is adding up ones. -/
theorem total_map_ite {α : Type} (p : α → Bool) (as : List α) :
    total (as.map fun a => if p a then 1 else 0) = as.countP p := by
  induction as with
  | nil => rfl
  | cons a as ih => rw [List.map_cons, total_cons, ih, List.countP_cons, Nat.add_comm]

/-- The replacement of type names substitutes in each reference and changes nothing else but links. -/
theorem Bean.unlinked_withTypeNames :
    (bean.withTypeNames registry table).1.unlinked = (bean.mapReferences (retyped table)).unlinked := by
  simp [withTypeNames, mapReferences, unlinked, substitutedReference_fst, substituted_eq]

/-- The replacement of type names counts the references that it changes. -/
theorem Bean.count_withTypeNames : (bean.withTypeNames registry table).2 =
    bean.references.countP fun type => retyped table type != type := by
  rw [references, List.countP_append, List.countP_append, List.countP_append, List.countP_map,
    ← substitutedReference_count registry table bean.base bean.baseLink,
    ← substitutedReference_count registry table bean.aliasTarget bean.aliasLink, ← total_map_ite, ← total_map_ite]
  simp only [withTypeNames, substituted_eq, List.map_map]
  rfl

end

/-! ## The pass over the registry -/

section
variable (config : Config) (roots : Roots) (registry : Registry)

/-- The pass substitutes in each reference of each bean and changes nothing else but links. -/
theorem Pass.unlinkedBeans_typeNames : (Pass.typeNames.run config roots registry).1.unlinkedBeans =
    registry.beans.map fun bean => (bean.mapReferences (retyped config.typeMappings)).unlinked := by
  rw [Registry.unlinkedBeans, Pass.beans_run, List.map_map]
  refine List.map_congr_left fun bean _ => ?_
  rw [Function.comp_apply, Pass.onBean]
  split
  · next hempty =>
    have hkept : retyped config.typeMappings = id := by
      funext type
      exact retyped_eq_self_iff_relabeled.2 (.inl hempty)
    simp [hkept, Bean.mapReferences]
  · exact bean.unlinked_withTypeNames registry config.typeMappings

/-- The references of the registry are substituted one by one. -/
theorem Pass.references_run :
    (Pass.typeNames.run config roots registry).1.references =
      registry.references.map (retyped config.typeMappings) := by
  have hunlinked : ∀ beans : List Bean,
      beans.flatMap Bean.references = (beans.map Bean.unlinked).flatMap Bean.references := by
    intro beans
    rw [List.flatMap_map]
    rfl
  rw [Registry.references, hunlinked, ← Registry.unlinkedBeans, unlinkedBeans_typeNames, List.flatMap_map,
    Registry.references, List.map_flatMap]
  exact List.flatMap_congr fun bean _ => bean.references_mapReferences _

/-- The pass counts the references that a substitution changes. -/
theorem Pass.count_typeNames : (Pass.typeNames.run config roots registry).2 =
    registry.references.countP fun type => retyped config.typeMappings type != type := by
  rw [Pass.run]
  split
  · next hempty =>
    refine (List.countP_eq_zero.2 fun type _ => ?_).symm
    rw [retyped_eq_self_iff_relabeled.2 (.inl hempty), bne_self_eq_false]
    exact Bool.false_ne_true
  · rw [Registry.references, List.countP_flatMap]
    exact congrArg total (List.map_congr_left fun bean _ => bean.count_withTypeNames registry config.typeMappings)

/-- Those that have one of two properties are those that have the first and those that have the other one only. -/
theorem countP_or {α : Type} (p q : α → Bool) (as : List α) :
    as.countP (fun a => p a || q a) = as.countP p + as.countP fun a => !p a && q a := by
  induction as with
  | nil => rfl
  | cons a as ih =>
    rw [List.countP_cons, List.countP_cons, List.countP_cons, ih]
    cases p a <;> cases q a <;> simp <;> omega

/-- With a table of simple names the pass counts the references in which a name is replaced by another one, and
those that are only printed anew. -/
theorem Pass.count_typeNames_eq (hkeys : ∀ entry ∈ config.typeMappings.entries, IsUndivided entry.1.toList) :
    (Pass.typeNames.run config roots registry).2 =
      registry.references.countP (replacesName config.typeMappings) +
        registry.references.countP fun type =>
          !replacesName config.typeMappings type && reprints config.typeMappings type := by
  rw [count_typeNames, ← countP_or]
  refine List.countP_congr fun type _ => ?_
  rw [bne_iff_ne, ne_eq, retyped_eq_self_iff hkeys, ← Bool.or_eq_false_iff, Bool.not_eq_false]

/-- Where every reference is the text of an expression tree, the pass counts the references in which a name is
replaced by another one. -/
theorem Pass.count_typeNames_text (hkeys : ∀ entry ∈ config.typeMappings.entries, IsUndivided entry.1.toList)
    (htext : ∀ type ∈ registry.references, ∃ tree : TypeText.Tree TypeName, type = tree.text) :
    (Pass.typeNames.run config roots registry).2 =
      registry.references.countP (replacesName config.typeMappings) := by
  rw [count_typeNames_eq config roots registry hkeys, Nat.add_eq_left, List.countP_eq_zero]
  intro type htype
  obtain ⟨tree, rfl⟩ := htext type htype
  rw [reprints_text, Bool.and_false]
  exact Bool.false_ne_true

/-- **What the replacement of type names changes.** It substitutes in each reference and changes nothing else of
a bean but links. A reference that mentions no key stays exactly when it is not printed anew. The number is that
of the references that become other ones: with a table of simple names these are the ones in which a name is
replaced by another one, and besides them those that are only printed anew. -/
theorem references_typeNames :
    (Pass.typeNames.run config roots registry).1.unlinkedBeans =
      registry.beans.map (fun bean => (bean.mapReferences (retyped config.typeMappings)).unlinked) ∧
    (∀ type, mentionsKey config.typeMappings type = false →
      (retyped config.typeMappings type = type ↔ reprints config.typeMappings type = false)) ∧
    (Pass.typeNames.run config roots registry).2 =
      registry.references.countP (fun type => retyped config.typeMappings type != type) ∧
    ((∀ entry ∈ config.typeMappings.entries, IsUndivided entry.1.toList) →
      (Pass.typeNames.run config roots registry).2 =
        registry.references.countP (replacesName config.typeMappings) +
          registry.references.countP fun type =>
            !replacesName config.typeMappings type && reprints config.typeMappings type) := by
  exact ⟨Pass.unlinkedBeans_typeNames config roots registry, fun _ => retyped_eq_self_of_mentionsKey,
    Pass.count_typeNames config roots registry, Pass.count_typeNames_eq config roots registry⟩

end

/-! ## An expression that is merely printed anew -/

/-- A table for `Foo`. -/
def fooTable : Table :=
  .ofPairs [("Foo", "com.x.Foo")]

/-- A class with a field that refers to `Foo` and a field that does not. -/
def fooRegistry : Registry :=
  .addAll .empty [{
    name := "A"
    kind := .javaClass
    fields := [{ name := "x", type := "Foo[]" }, { name := "y", type := "Map<String,Integer>" }] }]

theorem mentionsKey_fooTable : mentionsKey fooTable "Map<String,Integer>" = false := by
  have hnames : names "Map<String,Integer>".toList = ["Map".toList, "String".toList, "Integer".toList] := by cbv
  rw [mentionsKey, hnames]
  decide

theorem reprints_fooTable : reprints fooTable "Map<String,Integer>" = true := by
  have hprinted : relabeled (fun _ => none) "Map<String,Integer>".toList = "Map<String, Integer>".toList := by cbv
  have hkeeping : relabeled (keeping (replacement? fooTable)) "Map<String,Integer>".toList =
      relabeled (fun _ => none) "Map<String,Integer>".toList :=
    relabeled_congr _ fun name hname => by
      rw [keeping, replacement?_eq_none mentionsKey_fooTable hname, Option.map_none]
  rw [reprints, hkeeping, hprinted]
  decide

/-- Two references change, the second one though it mentions no key. -/
theorem references_typeNames_foo :
    (∀ entry ∈ fooTable.entries, IsUndivided entry.1.toList) ∧
    mentionsKey fooTable "Map<String,Integer>" = false ∧
    retyped fooTable "Map<String,Integer>" ≠ "Map<String,Integer>" ∧
    (Pass.typeNames.run { typeMappings := fooTable } ⟨[], []⟩ fooRegistry).2 = 2 := by
  have hkeys : ∀ entry ∈ fooTable.entries, IsUndivided entry.1.toList := by
    have hentries : fooTable.entries = [("Foo", "com.x.Foo")] := rfl
    rw [hentries, List.forall_mem_singleton]
    exact forall_eq_false_of_any (by decide)
  obtain ⟨-, hunmapped, -, hcount⟩ := references_typeNames { typeMappings := fooTable } ⟨[], []⟩ fooRegistry
  have hreferences : fooRegistry.references = ["Foo[]", "Map<String,Integer>"] := rfl
  have hfoo : replacesName fooTable "Foo[]" = true := by
    have hnames : names "Foo[]".toList = ["Foo".toList] := by cbv
    rw [replacesName, hnames]
    decide
  have hmap : replacesName fooTable "Map<String,Integer>" = false := by
    refine replacesName_eq_false_iff.2 fun name hname new hnew => ?_
    rw [replacement?_eq_none mentionsKey_fooTable hname] at hnew
    cases hnew
  refine ⟨hkeys, mentionsKey_fooTable, ?_, ?_⟩
  · rw [ne_eq, hunmapped _ mentionsKey_fooTable, reprints_fooTable]
    decide
  · rw [hcount hkeys, hreferences]
    simp [hfoo, hmap, reprints_fooTable]

/-- Not every reference that mentions no key stays, and the number is not only that of the references in which
a name is replaced by another one: a space is added behind the comma in `Map<String,Integer>`. -/
theorem not_forall_references_typeNames :
    ¬∀ (config : Config) (roots : Roots) (registry : Registry),
      List.Forall₂ (fun before after => mentionsKey config.typeMappings before = false → after = before)
        registry.references (Pass.typeNames.run config roots registry).1.references ∧
      (Pass.typeNames.run config roots registry).2 =
        registry.references.countP (replacesName config.typeMappings) := by
  intro h
  obtain ⟨hreferences, -⟩ := h { typeMappings := fooTable } ⟨[], []⟩ fooRegistry
  rw [Pass.references_run, List.forall₂_map_right_iff, List.forall₂_same] at hreferences
  have hstays := hreferences "Map<String,Integer>" (by decide) mentionsKey_fooTable
  rw [retyped_eq_self_of_mentionsKey mentionsKey_fooTable, reprints_fooTable] at hstays
  cases hstays

end BeanGen

import BeanGen.Bean.OfSource
import BeanGen.Proofs.Bean.Registry
import Mathlib.Data.List.Induction

/-!
# Beans in the order of their declarations

`Registry.ofFiles` goes through the files and the four kinds of declarations of each. The order it
takes is that of one list (`Source.Files.declarations`), and what it does to a registry is one step per
declaration (`Registry.enter`): the bean of the declaration (`Declaration.bean`) is added, and behind it
a helper for every directional member whose helper name is still free (`ofFiles_eq`).

A step says three things. It adds the names that the declaration gives rise to (`mem_names_enter`); a
name that the registry knew before and that is not the declaration's own keeps its bean
(`bean?_enter_of_contains`), because a helper never takes a name that is in use; and every bean comes
from a declaration or is a helper of one (`MadeFrom`). Over a whole run it follows that a name belongs
to its last declaration (`bean?_last`). The one exception is a declaration that a helper of its own
displaces: a member with an empty name derives the name of its owner, which is free as long as the
owner has not been added (`Declaration.derivesOwnName`).
-/

namespace BeanGen

/-! ## Declarations in order -/

namespace Source

/-- A declaration of any of the four kinds. -/
inductive Declaration where
  | ofInterface (decl : Interface)
  | ofEnum (decl : Enum)
  | ofClass (decl : Class)
  | ofAlias (decl : Alias)
  deriving Inhabited

namespace Declaration

/-- The declared name. -/
def name : Declaration → String
  | ofInterface decl => decl.name
  | ofEnum decl => decl.name
  | ofClass decl => decl.name
  | ofAlias decl => decl.name

/-- The members that become fields. An alias of no object type has none. -/
def members : Declaration → List Property
  | ofInterface decl => decl.properties
  | ofEnum _ => []
  | ofClass decl => decl.properties
  | ofAlias decl => decl.properties.getD []

end Declaration

/-- The declarations of a file in the order in which their beans are made. -/
def File.declarations (file : File) : List Declaration :=
  file.interfaces.map .ofInterface ++ file.enums.map .ofEnum ++ file.classes.map .ofClass ++
    file.aliases.map .ofAlias

/-- The declarations of all files in the order in which their beans are made, each with the path of
its file. -/
def Files.declarations (files : Files) : List (String × Declaration) :=
  files.flatMap fun file => file.declarations.map (file.path, ·)

end Source

open Source (Declaration Property)

/-! ## The bean of a declaration -/

/-- The name of the helper for a member of `owner`. -/
def helperName (owner : String) (property : Property) : String :=
  owner ++ Java.capitalized property.name

/-- The field for a member of `owner`: its type is that of the helper where the member needs one. -/
def Field.ofMember (owner : String) (property : Property) : Field :=
  .ofProperty property
    (if needsHelper property then helperName owner property else mappedType property)
    property.visibility

/-- The bean of a declaration in the file of a path. -/
def Source.Declaration.bean (path : String) : Declaration → Bean
  | .ofInterface decl =>
    { name := decl.name
      kind := .javaClass
      sourcePath := some path
      origin := some .interfaceDecl
      base := decl.bases.head?
      declaredBases := decl.bases
      fields := decl.properties.map (Field.ofMember decl.name) }
  | .ofEnum decl =>
    { name := decl.name
      kind := .javaEnum
      sourcePath := some path
      origin := some .enumDecl
      constants := decl.members.map fun member => ⟨member.name, member.value⟩ }
  | .ofClass decl =>
    { name := decl.name
      kind := .javaClass
      sourcePath := some path
      origin := some .classDecl
      base := decl.base.filter (· != "")
      declaredBases := (decl.base.filter (· != "")).toList
      interfaces := decl.implements.filter (· != "")
      fields := decl.properties.map (Field.ofMember decl.name) }
  | .ofAlias decl =>
    match decl.properties with
    | some (property :: rest) =>
      { name := decl.name
        kind := .javaClass
        sourcePath := some path
        origin := some .typeAlias
        fields := (property :: rest).map (Field.ofMember decl.name) }
    | _ =>
      { name := decl.name
        kind := .javaClass
        sourcePath := some path
        origin := some .typeAlias
        aliasTarget := decl.target
        fields := [{
          name := aliasField
          type := match decl.target.filter (· != "") with
            | some target => TypeText.javaTypeText true none (some target)
            | none => Java.TypeExpr.text.print }] }

@[simp] theorem Source.Declaration.bean_name (path : String) (decl : Declaration) :
    (decl.bean path).name = decl.name := by
  cases decl with
  | ofInterface | ofEnum | ofClass => rfl
  | ofAlias decl => simp only [bean]; split <;> rfl

@[simp] theorem Source.Declaration.bean_owner (path : String) (decl : Declaration) :
    (decl.bean path).owner = none := by
  cases decl with
  | ofInterface | ofEnum | ofClass => rfl
  | ofAlias decl => simp only [bean]; split <;> rfl

@[simp] theorem Source.Declaration.bean_unlinked (path : String) (decl : Declaration) :
    (decl.bean path).unlinked = decl.bean path := by
  cases decl with
  | ofInterface | ofEnum | ofClass => rfl
  | ofAlias decl => simp only [bean]; split <;> rfl

/-- A declaration with members becomes a class. -/
theorem Source.Declaration.kind_bean (path : String) {decl : Declaration} (h : decl.members ≠ []) :
    (decl.bean path).kind = .javaClass := by
  cases decl with
  | ofInterface | ofClass => rfl
  | ofEnum => exact absurd rfl h
  | ofAlias decl => simp only [bean]; split <;> rfl

/-- A declaration with members has a field for each. -/
theorem Source.Declaration.fields_bean (path : String) {decl : Declaration}
    (h : decl.members ≠ []) :
    (decl.bean path).fields = decl.members.map (Field.ofMember decl.name) := by
  cases decl with
  | ofInterface | ofClass => rfl
  | ofEnum => exact absurd rfl h
  | ofAlias decl =>
    obtain ⟨name, target, properties⟩ := decl
    match properties, h with
    | some (property :: rest), _ => rfl
    | some [], h => exact absurd rfl h
    | none, h => exact absurd rfl h

/-! ## Helpers -/

/-- The helpers made so far with that of one more member, if the member needs one and its name is
free. -/
def withHelper (registry : Registry) (owner path : String) (helpers : List Bean)
    (property : Property) : List Bean :=
  if needsHelper property then
    if registry.contains (helperName owner property) ||
        helpers.any (·.name == helperName owner property) then helpers
    else helpers ++ [helperBean owner path (helperName owner property) property]
  else helpers

/-- The helpers that a declaration adds to a registry. -/
def Source.Declaration.helpers (registry : Registry) (path : String) (decl : Declaration) : List Bean :=
  decl.members.foldl (withHelper registry decl.name path) []

/-- The names of helpers that members of the declaration derive, whether they are free or not. -/
def Source.Declaration.helperNames (decl : Declaration) : List String :=
  (decl.members.filter needsHelper).map (helperName decl.name)

/-- All names that a declaration gives rise to. -/
def Source.Declaration.names (decl : Declaration) : List String :=
  decl.name :: decl.helperNames

/-- A member that needs a helper derives the name of one. -/
theorem Source.Declaration.mem_helperNames {decl : Declaration} {property : Property}
    (hmember : property ∈ decl.members) (hneeds : needsHelper property = true) :
    helperName decl.name property ∈ decl.helperNames :=
  List.mem_map_of_mem (List.mem_filter.2 ⟨hmember, hneeds⟩)

/-- One more member adds its field, and its helper where it needs one. -/
theorem fieldsOf_concat (registry : Registry) (owner path : String) (properties : List Property)
    (property : Property) :
    fieldsOf registry owner path (properties ++ [property]) =
      ((fieldsOf registry owner path properties).1 ++ [Field.ofMember owner property],
        withHelper registry owner path (fieldsOf registry owner path properties).2 property) := by
  simp only [fieldsOf, List.foldl_append, List.foldl_cons, List.foldl_nil]
  by_cases hneeds : needsHelper property = true
  · simp [Field.ofMember, withHelper, helperName, hneeds]
  · simp [Field.ofMember, withHelper, hneeds]

/-- `fieldsOf` makes the fields member by member and the helpers along with them. -/
theorem fieldsOf_eq (registry : Registry) (owner path : String) (properties : List Property) :
    fieldsOf registry owner path properties =
      (properties.map (Field.ofMember owner),
        properties.foldl (withHelper registry owner path) []) := by
  induction properties using List.reverseRecOn with
  | nil => rfl
  | append_singleton properties property ih =>
    rw [fieldsOf_concat, ih, List.foldl_append, List.foldl_cons, List.foldl_nil, List.map_append,
      List.map_singleton]

section
variable {registry : Registry} {owner path : String} {decl : Declaration} {name : String}

/-- One more member adds its helper or nothing. -/
theorem mem_withHelper {helpers : List Bean} {property : Property} {helper : Bean} :
    helper ∈ withHelper registry owner path helpers property ↔
      helper ∈ helpers ∨ needsHelper property = true ∧
        registry.contains (helperName owner property) = false ∧
        (∀ other ∈ helpers, other.name ≠ helperName owner property) ∧
        helper = helperBean owner path (helperName owner property) property := by
  unfold withHelper
  split
  · next hneeds =>
    split
    · next htaken =>
      rw [Bool.or_eq_true, List.any_eq_true] at htaken
      constructor
      · exact .inl
      · rintro (hmem | ⟨-, hfree, hnone, -⟩)
        · exact hmem
        · rcases htaken with htaken | ⟨other, hother, heq⟩
          · exact absurd htaken (by simp [hfree])
          · exact absurd (eq_of_beq heq) (hnone other hother)
    · next hfree =>
      simp only [Bool.or_eq_true, not_or, Bool.not_eq_true, List.any_eq_false, beq_iff_eq] at hfree
      rw [List.mem_append, List.mem_singleton]
      exact or_congr_right ⟨fun h => ⟨hneeds, hfree.1, hfree.2, h⟩, fun h => h.2.2.2⟩
  · next hneeds => simp [hneeds]

/-- No two helpers of a declaration have one name. -/
theorem nodup_withHelper {helpers : List Bean} (property : Property)
    (h : (helpers.map (·.name)).Nodup) :
    ((withHelper registry owner path helpers property).map (·.name)).Nodup := by
  unfold withHelper
  split
  · split
    · exact h
    · next hfree =>
      simp only [Bool.or_eq_true, not_or, Bool.not_eq_true, List.any_eq_false, beq_iff_eq] at hfree
      rw [List.map_append, List.nodup_append]
      refine ⟨h, by simp, ?_⟩
      rintro _ hmem _ hnew rfl
      obtain ⟨other, hother, hname⟩ := List.mem_map.1 hmem
      rw [List.map_singleton, List.mem_singleton] at hnew
      exact hfree.2 other hother (hname.trans hnew)
  · exact h

/-- The helpers that a declaration adds have distinct names. -/
theorem Source.Declaration.nodup_helpers (registry : Registry) (path : String) (decl : Declaration) :
    ((decl.helpers registry path).map (·.name)).Nodup := by
  unfold helpers
  suffices ∀ made : List Bean, (made.map (·.name)).Nodup →
      ((decl.members.foldl (withHelper registry decl.name path) made).map (·.name)).Nodup from
    this [] (by simp)
  induction decl.members with
  | nil => exact fun _ h => h
  | cons property rest ih => exact fun made h => ih _ (nodup_withHelper property h)

/-- Each helper that a declaration adds is the one of a member that needs it, under a name that was
free. -/
theorem Source.Declaration.of_mem_helpers {helper : Bean} (h : helper ∈ decl.helpers registry path) :
    ∃ property ∈ decl.members, needsHelper property = true ∧
      registry.contains (helperName decl.name property) = false ∧
      helper = helperBean decl.name path (helperName decl.name property) property := by
  unfold helpers at h
  suffices ∀ (members : List Property) (made : List Bean),
      helper ∈ members.foldl (withHelper registry decl.name path) made →
      helper ∈ made ∨ ∃ property ∈ members, needsHelper property = true ∧
        registry.contains (helperName decl.name property) = false ∧
        helper = helperBean decl.name path (helperName decl.name property) property by
    rcases this _ _ h with hmem | hfound
    · cases hmem
    · exact hfound
  intro members
  induction members with
  | nil => exact fun _ h => .inl h
  | cons property rest ih =>
    intro made h
    rcases ih _ h with hmem | ⟨found, hfound, hspec⟩
    · rcases mem_withHelper.1 hmem with hmade | ⟨hneeds, hfree, -, heq⟩
      · exact .inl hmade
      · exact .inr ⟨property, List.mem_cons_self, hneeds, hfree, heq⟩
    · exact .inr ⟨found, List.mem_cons_of_mem _ hfound, hspec⟩

/-- Every member that needs a helper under a free name finds one of that name among the added. -/
theorem Source.Declaration.exists_mem_helpers (path : String) {property : Property}
    (hmem : property ∈ decl.members) (hneeds : needsHelper property = true)
    (hfree : registry.contains (helperName decl.name property) = false) :
    ∃ helper ∈ decl.helpers registry path, helper.name = helperName decl.name property := by
  unfold helpers
  suffices ∀ (members : List Property) (made : List Bean),
      (property ∈ members ∨ ∃ helper ∈ made, helper.name = helperName decl.name property) →
      ∃ helper ∈ members.foldl (withHelper registry decl.name path) made,
        helper.name = helperName decl.name property from this _ _ (.inl hmem)
  intro members
  induction members with
  | nil =>
    rintro made (hmem | hmade)
    · cases hmem
    · exact hmade
  | cons first rest ih =>
    intro made h
    refine ih _ ?_
    rcases h with hmem | ⟨helper, hhelper, hname⟩
    · rcases List.mem_cons.1 hmem with rfl | hmem
      · by_cases hmade : ∃ helper ∈ made, helper.name = helperName decl.name property
        · obtain ⟨helper, hhelper, hname⟩ := hmade
          exact .inr ⟨helper, mem_withHelper.2 (.inl hhelper), hname⟩
        · have hnone : ∀ other ∈ made, other.name ≠ helperName decl.name property :=
            fun other hother heq => hmade ⟨other, hother, heq⟩
          exact .inr ⟨_, mem_withHelper.2 (.inr ⟨hneeds, hfree, hnone, rfl⟩), rfl⟩
      · exact .inl hmem
    · exact .inr ⟨helper, mem_withHelper.2 (.inl hhelper), hname⟩

end

/-! ## One declaration after the other -/

/-- One step: the bean of a declaration and the helpers behind it. -/
def Registry.enter (registry : Registry) (entry : String × Declaration) : Registry :=
  (registry.add (entry.2.bean entry.1)).addAll (entry.2.helpers registry entry.1)

/-- The registry of declarations, one after the other. -/
def Registry.ofDeclarations (entries : List (String × Declaration)) : Registry :=
  entries.foldl Registry.enter .empty

/-- Declaring a bean with members is a step. -/
theorem Registry.declare_eq (registry : Registry) (path : String) (decl : Declaration) (bean : Bean)
    {properties : List Property} (hmembers : decl.members = properties)
    (hname : bean.name = decl.name)
    (hbean : decl.bean path =
      { bean with
        fields := properties.map (Field.ofMember decl.name)
        sourcePath := some path }) :
    registry.declare path properties bean = registry.enter (path, decl) := by
  unfold declare enter Declaration.helpers
  rw [fieldsOf_eq, hbean, hmembers, hname]

/-- Declaring an alias is a step. -/
theorem Registry.declareAlias_eq (path : String) (registry : Registry) (decl : Source.Alias) :
    registry.declareAlias path decl = registry.enter (path, .ofAlias decl) := by
  obtain ⟨name, target, properties⟩ := decl
  match properties with
  | some (property :: rest) =>
    exact registry.declare_eq path (.ofAlias ⟨name, target, some (property :: rest)⟩)
      { name := name, kind := .javaClass, origin := some .typeAlias } rfl rfl rfl
  | some [] | none => rfl

/-- The beans of a file are made in the order of its declarations. -/
theorem Registry.declareFile_eq (registry : Registry) (file : Source.File) :
    registry.declareFile file =
      (file.declarations.map (file.path, ·)).foldl Registry.enter registry := by
  have hinterface : ∀ registry decl, Registry.declareInterface file.path registry decl =
      registry.enter (file.path, .ofInterface decl) := fun _ _ => declare_eq _ _ _ _ rfl rfl rfl
  have hclass : ∀ registry decl, Registry.declareClass file.path registry decl =
      registry.enter (file.path, .ofClass decl) := fun _ _ => declare_eq _ _ _ _ rfl rfl rfl
  have henum : ∀ registry decl, Registry.declareEnum file.path registry decl =
      registry.enter (file.path, .ofEnum decl) := fun _ _ => rfl
  unfold declareFile Source.File.declarations
  simp only [List.map_append, List.map_map, List.foldl_append, List.foldl_map, Function.comp_apply]
  simp only [← hinterface, ← hclass, ← henum, ← declareAlias_eq]

/-- The beans of all files are made in the order of the declarations. -/
theorem Registry.ofFiles_eq (files : Source.Files) :
    Registry.ofFiles files = Registry.ofDeclarations files.declarations := by
  have hstep : Registry.declareFile = fun registry (file : Source.File) =>
      (file.declarations.map (file.path, ·)).foldl Registry.enter registry :=
    funext fun registry => funext fun file => Registry.declareFile_eq registry file
  rw [ofFiles, ofDeclarations, Source.Files.declarations, List.foldl_flatMap, hstep]

/-- A last declaration is entered into the registry of those before it. -/
theorem Registry.ofDeclarations_concat (entries : List (String × Declaration))
    (entry : String × Declaration) :
    Registry.ofDeclarations (entries ++ [entry]) =
      (Registry.ofDeclarations entries).enter entry := by
  rw [ofDeclarations, List.foldl_append]
  rfl

/-! ## What a step does to a name -/

namespace Registry

section
variable {registry : Registry} {entry : String × Declaration} {name : String}

/-- An added helper stands under its name. -/
theorem bean?_enter_of_mem {helper : Bean} (h : helper ∈ entry.2.helpers registry entry.1) :
    (registry.enter entry).bean? helper.name = some helper := by
  rw [enter, bean?_addAll_of_mem (entry.2.nodup_helpers registry entry.1) h]
  obtain ⟨property, -, -, -, rfl⟩ := Declaration.of_mem_helpers h
  rfl

/-- A name that no added helper has shows the bean of the declaration or what it showed before. -/
theorem bean?_enter_of_notMem
    (h : ∀ helper ∈ entry.2.helpers registry entry.1, helper.name ≠ name) :
    (registry.enter entry).bean? name =
      if entry.2.name = name then some (entry.2.bean entry.1) else registry.bean? name := by
  rw [enter, bean?_addAll_of_notMem h, bean?_add, Declaration.bean_name, Declaration.bean_unlinked]

/-- A name in use that is not the declaration's own keeps its bean: no helper takes it. -/
theorem bean?_enter_of_contains (hcontains : registry.contains name = true)
    (hne : entry.2.name ≠ name) : (registry.enter entry).bean? name = registry.bean? name := by
  rw [bean?_enter_of_notMem, if_neg hne]
  intro helper hhelper heq
  obtain ⟨property, -, -, hfree, rfl⟩ := Declaration.of_mem_helpers hhelper
  have hname : helperName entry.2.name property = name := heq
  rw [hname, hcontains] at hfree
  cases hfree

/-- A step adds the names that the declaration gives rise to, and takes none away. -/
theorem mem_names_enter :
    name ∈ (registry.enter entry).names ↔ name ∈ registry.names ∨ name ∈ entry.2.names := by
  simp only [← contains_iff, contains_eq, Declaration.names, List.mem_cons,
    Declaration.helperNames, List.mem_map, List.mem_filter]
  by_cases hhelper : ∃ helper ∈ entry.2.helpers registry entry.1, helper.name = name
  · obtain ⟨helper, hmem, rfl⟩ := hhelper
    obtain ⟨property, hproperty, hneeds, -, heq⟩ := Declaration.of_mem_helpers hmem
    rw [bean?_enter_of_mem hmem]
    exact iff_of_true rfl (.inr (.inr ⟨property, ⟨hproperty, hneeds⟩, by rw [heq]; rfl⟩))
  · have hnone : ∀ helper ∈ entry.2.helpers registry entry.1, helper.name ≠ name :=
      fun helper hmem heq => hhelper ⟨helper, hmem, heq⟩
    rw [bean?_enter_of_notMem hnone]
    split
    · next h => exact iff_of_true rfl (.inr (.inl h.symm))
    · next hne =>
      refine ⟨.inl, ?_⟩
      rintro (h | h | ⟨property, ⟨hproperty, hneeds⟩, rfl⟩)
      · exact h
      · exact absurd h.symm hne
      · rw [← contains_eq]
        by_contra hfree
        obtain ⟨helper, hmem, hname⟩ := Declaration.exists_mem_helpers entry.1 hproperty hneeds
          (Bool.not_eq_true _ ▸ hfree)
        exact hnone helper hmem hname

end

/-- The names of a registry are those that its declarations give rise to. -/
theorem mem_names_ofDeclarations {entries : List (String × Declaration)} {name : String} :
    name ∈ (ofDeclarations entries).names ↔ ∃ entry ∈ entries, name ∈ entry.2.names := by
  induction entries using List.reverseRecOn with
  | nil => simp [ofDeclarations, names, empty]
  | append_singleton entries entry ih =>
    rw [ofDeclarations_concat, mem_names_enter, ih]
    simp [or_and_right, exists_or]

end Registry

/-! ## Where a bean comes from -/

/-- The bean is that of a declaration, or the helper of a member of one. -/
inductive MadeFrom (entries : List (String × Declaration)) : Bean → Prop
  | declared {path : String} {decl : Declaration} (hdecl : (path, decl) ∈ entries) :
      MadeFrom entries (decl.bean path)
  | helper {path : String} {decl : Declaration} {property : Property}
      (hdecl : (path, decl) ∈ entries) (hmember : property ∈ decl.members)
      (hneeds : needsHelper property = true) :
      MadeFrom entries
        (helperBean decl.name path (helperName decl.name property) property)

/-- More declarations make at least the same beans. -/
theorem MadeFrom.mono {entries more : List (String × Declaration)} {bean : Bean}
    (h : MadeFrom entries bean) (hsub : entries ⊆ more) : MadeFrom more bean := by
  cases h with
  | declared hdecl => exact .declared (hsub hdecl)
  | helper hdecl hmember hneeds => exact .helper (hsub hdecl) hmember hneeds

/-- Every bean of the registry comes from one of the declarations. -/
theorem Registry.madeFrom_of_bean? {entries : List (String × Declaration)} {name : String}
    {bean : Bean} (h : (Registry.ofDeclarations entries).bean? name = some bean) :
    MadeFrom entries bean := by
  induction entries using List.reverseRecOn with
  | nil => cases h
  | append_singleton entries entry ih =>
    have hlast : entry ∈ entries ++ [entry] := by simp
    rw [ofDeclarations_concat] at h
    by_cases hhelper : ∃ helper ∈ entry.2.helpers (ofDeclarations entries) entry.1,
        helper.name = name
    · obtain ⟨helper, hmem, rfl⟩ := hhelper
      rw [bean?_enter_of_mem hmem] at h
      cases h
      obtain ⟨property, hproperty, hneeds, -, rfl⟩ := Declaration.of_mem_helpers hmem
      exact .helper hlast hproperty hneeds
    · rw [bean?_enter_of_notMem fun helper hmem heq => hhelper ⟨helper, hmem, heq⟩] at h
      split at h
      · cases h
        exact .declared hlast
      · exact (ih h).mono (List.subset_append_left _ _)

/-- Every bean of a run's declarations comes from one of them. -/
theorem Registry.madeFrom_of_mem {files : Source.Files} {bean : Bean}
    (h : bean ∈ (Registry.ofFiles files).beans) : MadeFrom files.declarations bean.unlinked := by
  have hview := bean?_of_mem h
  rw [ofFiles_eq] at hview
  exact madeFrom_of_bean? hview

/-- Without its links, too, every bean comes from one of the declarations. -/
theorem Registry.madeFrom_of_mem_unlinkedBeans {files : Source.Files} {bean : Bean}
    (h : bean ∈ (Registry.ofFiles files).unlinkedBeans) : MadeFrom files.declarations bean := by
  obtain ⟨member, hmember, rfl⟩ := List.mem_map.1 h
  exact madeFrom_of_mem hmember

section
variable {entries : List (String × Declaration)} {bean : Bean}

/-- No declaration becomes an interface. -/
theorem MadeFrom.kind_ne_javaInterface (h : MadeFrom entries bean) : bean.kind ≠ .javaInterface := by
  cases h with
  | @declared path decl hdecl =>
    cases decl with
    | ofInterface | ofEnum | ofClass => exact Bean.Kind.noConfusion
    | ofAlias decl => simp only [Declaration.bean]; split <;> exact Bean.Kind.noConfusion
  | helper => exact Bean.Kind.noConfusion

/-- Helpers are classes. -/
theorem MadeFrom.kind_of_isHelper (h : MadeFrom entries bean) (hhelper : bean.isHelper = true) :
    bean.kind = .javaClass := by
  cases h with
  | declared =>
    rw [Bean.isHelper, Declaration.bean_owner] at hhelper
    cases hhelper
  | helper => rfl

end

/-! ## Which declaration a name belongs to -/

/-- A member of the declaration derives the name of the declaration itself: the name of the member is
empty. -/
def Source.Declaration.derivesOwnName (decl : Declaration) : Prop :=
  ∃ property ∈ decl.members, needsHelper property = true ∧ property.name = ""

instance (decl : Declaration) : Decidable decl.derivesOwnName :=
  inferInstanceAs (Decidable (∃ property ∈ decl.members, _))

/-- The name of a helper is that of its owner when the name of the member is empty. -/
theorem helperName_eq_owner_iff (owner : String) (property : Property) :
    helperName owner property = owner ↔ property.name = "" := by
  rw [helperName, ← String.toList_inj, ← String.toList_inj, String.toList_append]
  simp [Java.capitalized, Text.capitalize_eq_nil_iff]

namespace Registry

section
variable {front back : List (String × Declaration)} {path : String} {decl : Declaration}

/-- Later declarations of other names leave a name in use alone. -/
theorem bean?_foldl_enter {registry : Registry} {name : String}
    (hcontains : registry.contains name = true) (hback : ∀ later ∈ back, later.2.name ≠ name) :
    (back.foldl enter registry).bean? name = registry.bean? name := by
  induction back generalizing registry with
  | nil => rfl
  | cons later rest ih =>
    have hkeep := bean?_enter_of_contains hcontains (hback later List.mem_cons_self)
    rw [List.foldl_cons, ih _ fun x hx => hback x (List.mem_cons_of_mem _ hx), hkeep]
    rw [contains_eq, hkeep, ← contains_eq]
    exact hcontains

/-- A name belongs to its last declaration, unless a helper of that declaration takes the name. -/
theorem bean?_last (hback : ∀ later ∈ back, later.2.name ≠ decl.name)
    (hkept : decl.derivesOwnName → ∃ entry ∈ front, decl.name ∈ entry.2.names) :
    (ofDeclarations (front ++ (path, decl) :: back)).bean? decl.name = some (decl.bean path) := by
  have hstep : ((ofDeclarations front).enter (path, decl)).bean? decl.name =
      some (decl.bean path) := by
    rw [bean?_enter_of_notMem, if_pos rfl]
    intro helper hhelper heq
    obtain ⟨property, hmember, hneeds, hfree, rfl⟩ := Declaration.of_mem_helpers hhelper
    have hname : helperName decl.name property = decl.name := heq
    have hempty := (helperName_eq_owner_iff _ _).1 hname
    have hknown := mem_names_ofDeclarations.2 (hkept ⟨property, hmember, hneeds, hempty⟩)
    rw [← contains_iff] at hknown
    rw [hname, hknown] at hfree
    cases hfree
  rw [ofDeclarations, List.foldl_append, List.foldl_cons,
    bean?_foldl_enter (by rw [contains_eq]; exact congrArg Option.isSome hstep) hback]
  exact hstep

/-- A helper of the last declaration of a name takes the name when a member derives it and nothing
before has it. -/
theorem bean?_last_of_derivesOwnName (path : String)
    (hback : ∀ later ∈ back, later.2.name ≠ decl.name)
    (hown : decl.derivesOwnName) (hfree : ∀ entry ∈ front, decl.name ∉ entry.2.names) :
    ∃ helper, (ofDeclarations (front ++ (path, decl) :: back)).bean? decl.name = some helper ∧
      helper.kind = .javaClass ∧ helper.owner = some decl.name := by
  obtain ⟨property, hmember, hneeds, hempty⟩ := hown
  have hname := (helperName_eq_owner_iff decl.name property).2 hempty
  have hunknown : (ofDeclarations front).contains (helperName decl.name property) = false := by
    rw [hname, ← Bool.not_eq_true, contains_iff, mem_names_ofDeclarations]
    rintro ⟨entry, hentry, hmem⟩
    exact hfree entry hentry hmem
  obtain ⟨helper, hhelper, hhelperName⟩ := Declaration.exists_mem_helpers path hmember hneeds
    hunknown
  have hstep : ((ofDeclarations front).enter (path, decl)).bean? helper.name = some helper :=
    bean?_enter_of_mem hhelper
  rw [hhelperName, hname] at hstep
  refine ⟨helper, ?_, ?_⟩
  · rw [ofDeclarations, List.foldl_append, List.foldl_cons,
      bean?_foldl_enter (by rw [contains_eq]; exact congrArg Option.isSome hstep) hback]
    exact hstep
  · obtain ⟨_, -, -, -, rfl⟩ := Declaration.of_mem_helpers hhelper
    exact ⟨rfl, rfl⟩

end

/-- Under the name of a declaration just entered stands its bean or a helper it owns itself. -/
theorem bean?_enter_self (registry : Registry) (entry : String × Declaration) :
    ∃ host, (registry.enter entry).bean? entry.2.name = some host ∧
      (host.owner = none ∨ host.owner = some entry.2.name) := by
  by_cases hhelper : ∃ helper ∈ entry.2.helpers registry entry.1, helper.name = entry.2.name
  · obtain ⟨helper, hmem, hname⟩ := hhelper
    refine ⟨helper, hname ▸ bean?_enter_of_mem hmem, .inr ?_⟩
    obtain ⟨property, -, -, -, rfl⟩ := Declaration.of_mem_helpers hmem
    rfl
  · have hnone : ∀ helper ∈ entry.2.helpers registry entry.1, helper.name ≠ entry.2.name :=
      fun helper hmem heq => hhelper ⟨helper, hmem, heq⟩
    exact ⟨_, by rw [bean?_enter_of_notMem hnone, if_pos rfl], .inl (Declaration.bean_owner _ _)⟩

/-- The owner of a helper is in the registry, and it is no helper of another owner. -/
theorem exists_owner {entries : List (String × Declaration)} {name owner : String} {bean : Bean}
    (h : (ofDeclarations entries).bean? name = some bean) (howner : bean.owner = some owner) :
    ∃ host, (ofDeclarations entries).bean? owner = some host ∧
      (host.owner = none ∨ host.owner = some owner) := by
  induction entries using List.reverseRecOn with
  | nil => cases h
  | append_singleton entries entry ih =>
    rw [ofDeclarations_concat] at h ⊢
    by_cases hself : entry.2.name = owner
    · exact hself ▸ bean?_enter_self (ofDeclarations entries) entry
    · by_cases hhelper : ∃ helper ∈ entry.2.helpers (ofDeclarations entries) entry.1,
          helper.name = name
      · obtain ⟨helper, hmem, rfl⟩ := hhelper
        rw [bean?_enter_of_mem hmem] at h
        cases h
        obtain ⟨property, -, -, -, rfl⟩ := Declaration.of_mem_helpers hmem
        exact absurd (Option.some.inj howner) hself
      · rw [bean?_enter_of_notMem fun helper hmem heq => hhelper ⟨helper, hmem, heq⟩] at h
        split at h
        · cases h
          rw [Declaration.bean_owner] at howner
          cases howner
        · obtain ⟨host, hhost, hspec⟩ := ih h
          have hcontains : (ofDeclarations entries).contains owner = true := by
            rw [contains_eq, hhost]
            rfl
          exact ⟨host, (bean?_enter_of_contains hcontains hself).trans hhost, hspec⟩

end Registry

end BeanGen

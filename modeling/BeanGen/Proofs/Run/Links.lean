import BeanGen.Proofs.Bean.Creation
import BeanGen.Proofs.Refine.Frame
import BeanGen.Proofs.Refine.Links

/-!
# The links of a run

A run makes the beans of the declarations, links them once and runs the five passes. The linking puts
all beans in step, since no bean has a link before (`Registry.reached_ofFiles`). From there the passes
keep the links for bases and alias targets in step, because each of them looks up the link for a name
that it changes. For interfaces they do not. The enum pass adds an interface to the names and no link. The
pass that replaces type names makes all links for interfaces anew and so repairs this, but it is skipped
where there is nothing to replace; and it makes a link for every name, so that a name mentioned twice is
linked twice. Hence the links of a run are in step up to two exceptions, which exclude each other
(`links_refinedBeans`).
-/

namespace BeanGen

/-! ## The beans of the declarations -/

namespace Registry

/-- Beans without links may be added one after the other. -/
theorem Reached.addAll {registry : Registry} (h : Reached registry) {beans : List Bean}
    (hbeans : ∀ bean ∈ beans, bean.unlinked = bean) : Reached (registry.addAll beans) := by
  induction beans generalizing registry with
  | nil => exact h
  | cons first rest ih =>
    have hadd := h.add first
    rw [hbeans first List.mem_cons_self] at hadd
    exact ih hadd fun bean hbean => hbeans bean (List.mem_cons_of_mem _ hbean)

/-- The beans of the declarations have no links when they are added. -/
theorem reached_ofFiles (files : Source.Files) : Reached (ofFiles files) := by
  rw [ofFiles_eq]
  induction files.declarations using List.reverseRecOn with
  | nil => exact .empty
  | append_singleton entries entry ih =>
    rw [ofDeclarations_concat, enter]
    have hbean := ih.add (entry.2.bean entry.1)
    rw [Source.Declaration.bean_unlinked] at hbean
    refine hbean.addAll fun helper hhelper => ?_
    obtain ⟨property, -, -, -, rfl⟩ := Source.Declaration.of_mem_helpers hhelper
    rfl

/-- Linking puts the beans of the declarations in step. -/
theorem inStep_linked {files : Source.Files} {bean : Bean} (hmem : bean ∈ (ofFiles files).beans) :
    (ofFiles files).InStep (bean.linked (ofFiles files)).1 := by
  have hbacked := (reached_ofFiles files).backsLinks
  exact (linked_eq (hbacked.base bean hmem) (hbacked.aliasTarget bean hmem)).1

/-- A run has the names of its declarations. -/
theorem names_refinedBeans (config : Config) (roots : Roots) (files : Source.Files) :
    (refinedBeans config roots files).names = (ofFiles files).names := by
  rw [names, beans_refinedBeans, List.map_map, names]
  exact List.map_congr_left fun bean _ => (bean.keepsDeclaration_settled config roots _).name

end Registry

/-- An enum is declared without interfaces. -/
theorem MadeFrom.interfaces_of_javaEnum {entries : List (String × Source.Declaration)} {bean : Bean}
    (h : MadeFrom entries bean) (hkind : bean.kind = .javaEnum) : bean.interfaces = [] := by
  cases h with
  | @declared path decl hdecl =>
    cases decl with
    | ofEnum => rfl
    | ofInterface | ofClass => cases hkind
    | ofAlias decl =>
      simp only [Source.Declaration.bean] at hkind
      split at hkind <;> cases hkind
  | helper => cases hkind

/-! ## Links with repetitions -/

section
variable {α β : Type} [BEq α] [LawfulBEq α] {f : α → Option β} {a : α}

/-- An element without an image may be left out. -/
theorem filterMap_filter_of_eq_none (ha : f a = none) (as : List α) :
    (as.filter (!· == a)).filterMap f = as.filterMap f := by
  rw [List.filterMap_filter]
  refine congrArg (List.filterMap · as) (funext fun b => ?_)
  by_cases hb : b = a
  · rw [hb, ha]
    exact ite_self _
  · exact if_pos (by simpa using hb)

/-- An element without an image is not among those that have one. -/
theorem filter_isSome_filter_of_eq_none (ha : f a = none) (as : List α) :
    (as.filter (!· == a)).filter (fun b => (f b).isSome) = as.filter fun b => (f b).isSome := by
  rw [List.filter_filter]
  refine List.filter_congr fun b _ => ?_
  by_cases hb : b = a
  · rw [hb, ha]
    rfl
  · rw [beq_eq_false_iff_ne.2 hb]
    exact Bool.and_true _

/-- Where no two elements have one image, leaving out repetitions changes nothing about the images exactly
when no element with an image is repeated. -/
theorem filterMap_eq_filterMap_eraseDups_iff
    (hf : ∀ {a b c}, f a = some c → f b = some c → a = b) (as : List α) :
    as.filterMap f = as.eraseDups.filterMap f ↔ (as.filter fun a => (f a).isSome).Nodup := by
  match as with
  | [] => simp
  | a :: as =>
    rw [List.eraseDups_cons]
    cases ha : f a with
    | none =>
      have ih := filterMap_eq_filterMap_eraseDups_iff hf (as.filter (!· == a))
      rw [filterMap_filter_of_eq_none ha, filter_isSome_filter_of_eq_none ha] at ih
      rw [List.filterMap_cons_none ha, List.filterMap_cons_none ha,
        List.filter_cons_of_neg (by rw [ha]; exact Bool.false_ne_true)]
      exact ih
    | some c =>
      rw [List.filterMap_cons_some ha, List.filterMap_cons_some ha,
        List.filter_cons_of_pos (by rw [ha]; rfl), List.nodup_cons, List.cons.injEq, eq_self,
        true_and]
      by_cases hmem : a ∈ as
      · -- the image of a repetition has no place among the others
        refine iff_of_false (fun heq => ?_) fun h => h.1 (List.mem_filter.2 ⟨hmem, by rw [ha]; rfl⟩)
        have himage : c ∈ as.filterMap f := List.mem_filterMap.2 ⟨a, hmem, ha⟩
        rw [heq, List.mem_filterMap] at himage
        obtain ⟨b, hb, hbc⟩ := himage
        obtain rfl := hf ha hbc
        simp at hb
      · have hrest : as.filter (!· == a) = as :=
          List.filter_eq_self.2 fun b hb => by simpa using ne_of_mem_of_not_mem hb hmem
        rw [hrest, filterMap_eq_filterMap_eraseDups_iff hf as]
        exact (and_iff_right fun hin => hmem (List.mem_of_mem_filter hin)).symm
termination_by as.length
decreasing_by
  · exact Nat.lt_succ_of_le (List.length_filter_le _ _)
  · exact Nat.lt_succ_self _

end

namespace Registry

section
variable (registry : Registry) (interfaces : List String)

/-- Names call for no links exactly when none of them denotes a bean. -/
theorem interfaceLinksOf_eq_nil_iff :
    registry.interfaceLinksOf interfaces = [] ↔ ∀ name ∈ interfaces, registry.get? name = none := by
  rw [interfaceLinksOf_eq, List.filterMap_eq_nil_iff]
  refine forall_congr' fun name => ?_
  rw [List.mem_eraseDups]
  exact imp_congr_right fun _ => Option.map_eq_none_iff

/-- Links made name by name are those that the names call for exactly when no name of a bean is
repeated. -/
theorem filterMap_linkTo?_eq_iff :
    (interfaces.filterMap fun name => registry.linkTo? (some name)) =
        registry.interfaceLinksOf interfaces ↔
      (interfaces.filter fun name => (registry.get? name).isSome).Nodup := by
  have hinjective : ∀ {name other : String} {link : Link}, registry.linkTo? (some name) = some link →
      registry.linkTo? (some other) = some link → name = other := by
    intro name other link hname hother
    obtain ⟨member, -, rfl, hmember⟩ := exists_of_linkTo? hname
    obtain ⟨_, -, hlink, hmember'⟩ := exists_of_linkTo? hother
    rw [Option.some.inj hmember, Option.some.inj hmember']
    exact Link.member.inj hlink
  have hdenotes : ∀ name, (registry.linkTo? (some name)).isSome = (registry.get? name).isSome :=
    fun name => Option.isSome_map
  rw [interfaceLinksOf_eq, filterMap_eq_filterMap_eraseDups_iff hinjective, funext hdenotes]

end

end Registry

/-! ## The links of a run -/

/-- In a run the links for bases and alias targets are in step with the names. Those for interfaces are in
step with two exceptions: where no type names are replaced, an enum that was given an interface which
denotes a bean; where they are, a bean among whose interfaces the name of a bean is repeated. -/
theorem links_refinedBeans (config : Config) (roots : Roots) (files : Source.Files) {bean : Bean}
    (hmem : bean ∈ (refinedBeans config roots files).beans) :
    bean.baseLink = (refinedBeans config roots files).linkTo? bean.base ∧
      bean.aliasLink = (refinedBeans config roots files).linkTo? bean.aliasTarget ∧
      (bean.interfaceLinks = (refinedBeans config roots files).interfaceLinksOf bean.interfaces ↔
        if config.typeMappings.isEmpty then
          bean.kind = .javaEnum →
            ∀ name ∈ bean.interfaces, (refinedBeans config roots files).get? name = none
        else
          (bean.interfaces.filter fun name =>
            ((refinedBeans config roots files).get? name).isSome).Nodup) := by
  have hnames := Registry.names_refinedBeans config roots files
  rw [beans_refinedBeans] at hmem
  obtain ⟨declared, hdeclared, rfl⟩ := List.mem_map.1 hmem
  have hstep := Registry.inStep_linked hdeclared
  have hreferences := Bean.HasReferences.refined (fun _ => rfl) ⟨hstep.base, hstep.aliasTarget⟩
    config roots (P := fun name link => link = (Registry.ofFiles files).linkTo? name)
  have hinterfaces := hstep.interfaces
  have hlinks := (declared.linked (Registry.ofFiles files)).1.interfaceLinks_refined config roots
    (Registry.ofFiles files)
  rw [← Registry.linkTo?_congr hnames] at hreferences hlinks
  rw [← Registry.interfaceLinksOf_congr hnames] at hinterfaces
  refine ⟨hreferences.base, hreferences.aliasTarget, ?_⟩
  unfold Bean.settled
  rw [hlinks]
  split
  · next htypes =>
    have hkind := (declared.keepsDeclaration_settled config roots (Registry.ofFiles files)).kind
    unfold Bean.settled at hkind
    rw [hinterfaces, Bean.interfaces_refined _ _ _ _ htypes, hkind]
    split
    · next henum =>
      have hdeclares : declared.interfaces = [] :=
        (Registry.madeFrom_of_mem hdeclared).interfaces_of_javaEnum henum
      have hnone : (declared.linked (Registry.ofFiles files)).1.interfaces = [] := hdeclares
      rw [hnone, List.nil_append, eq_comm, imp_iff_right (show declared.kind = .javaEnum from henum)]
      exact Registry.interfaceLinksOf_eq_nil_iff _ _
    · next hother => exact iff_of_true rfl fun henum => absurd henum hother
  · exact Registry.filterMap_linkTo?_eq_iff _ _

/-- All enums get the interface `M`. -/
def markedEnums : Config := { enumInterfaceMapping := .ofPairs [("*", "M")] }

/-- A class and an enum next to `M`: `interface M {}`, `enum E { X }` and
`class A extends M implements M {}`. -/
def markedTypes : Source.Files :=
  [{ path := "/p/a.ts"
     interfaces := [{ name := "M" }]
     enums := [{ name := "E", members := [⟨"X", none⟩] }]
     classes := [{ name := "A", base := some "M", implements := ["M"] }] }]

/-- What a run holds for the class `A`. -/
def markedClass : Bean where
  name := "A"
  kind := .javaClass
  sourcePath := some "/p/a.ts"
  origin := some .classDecl
  base := some "M"
  baseLink := some (.member "M")
  declaredBases := ["M"]
  interfaces := ["M"]
  interfaceLinks := [.member "M"]

/-- The class is linked to `M` twice, as its names say. -/
theorem links_refinedBeans_markedClass :
    markedClass ∈ (refinedBeans markedEnums ⟨[], []⟩ markedTypes).beans ∧
      markedClass.baseLink =
        (refinedBeans markedEnums ⟨[], []⟩ markedTypes).linkTo? markedClass.base ∧
      markedClass.aliasLink =
        (refinedBeans markedEnums ⟨[], []⟩ markedTypes).linkTo? markedClass.aliasTarget ∧
      markedClass.interfaceLinks =
        (refinedBeans markedEnums ⟨[], []⟩ markedTypes).interfaceLinksOf markedClass.interfaces := by
  have hmem : markedClass ∈ (refinedBeans markedEnums ⟨[], []⟩ markedTypes).beans := by decide
  obtain ⟨hbase, htarget, hinterfaces⟩ := links_refinedBeans markedEnums ⟨[], []⟩ markedTypes hmem
  -- no type names are replaced, and the bean is no enum
  exact ⟨hmem, hbase, htarget, hinterfaces.2 fun henum => nomatch henum⟩

/-- Not all beans of a run are in step with their names: the enum has the interface `M` and no link. -/
theorem not_forall_inStep_refinedBeans :
    ¬∀ (config : Config) (roots : Roots) (files : Source.Files),
      ∀ bean ∈ (refinedBeans config roots files).beans,
        (refinedBeans config roots files).InStep bean := by
  intro h
  have hlinks : ∀ bean ∈ (refinedBeans markedEnums ⟨[], []⟩ markedTypes).beans,
      bean.interfaceLinks =
        (refinedBeans markedEnums ⟨[], []⟩ markedTypes).interfaceLinksOf bean.interfaces :=
    fun bean hbean => (h markedEnums ⟨[], []⟩ markedTypes bean hbean).interfaces
  revert hlinks
  decide

end BeanGen

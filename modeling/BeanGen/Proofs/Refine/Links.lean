import BeanGen.Proofs.Bean.Links

/-!
# Linking again after any changes

A pass that gives a bean another base or alias target looks up the link for it at once, and a pass that
takes the base away takes the link along. So whatever holds of a name together with the link that the
registry has for it, a pass keeps for the base and for the alias target (`Bean.HasReferences.onBean`). One
such property is that the link is backed: every registry that comes about from beans without links, by
adding beans, linking and running passes in any order and under any configurations
(`Registry.Reached`), backs its links (`Registry.Reached.backsLinks`). For the interfaces nothing of the
kind holds, and nothing is needed, because linking makes these links anew. So one more linking brings
all links in step with the names, from wherever it starts (`Registry.Reached.coherent_link`).
-/

namespace BeanGen

/-! ## What a pass keeps of the references -/

/-- The base and the alias target of a bean have a property together with their links. -/
structure Bean.HasReferences (P : Option String → Option Link → Prop) (bean : Bean) : Prop where
  base : P bean.base bean.baseLink
  aliasTarget : P bean.aliasTarget bean.aliasLink

namespace Bean.HasReferences

section
variable {P : Option String → Option Link → Prop} {registry : Registry} {bean : Bean}
  (hlinked : ∀ name, P name (registry.linkTo? name)) (h : bean.HasReferences P)
include hlinked h

/-- Replacing type names keeps what holds of every name with its link. -/
theorem withTypeNames (table : Config.Table) :
    (bean.withTypeNames registry table).1.HasReferences P := by
  have hreference : ∀ name link, P name link →
      P (substitutedReference registry table name link).1
        (substitutedReference registry table name link).2.1 := by
    intro name link hbefore
    unfold substitutedReference
    split
    · exact hlinked _
    · exact hbefore
  exact ⟨hreference _ _ h.base, hreference _ _ h.aliasTarget⟩

/-- Repairing the declared base keeps what holds of every name with its link. -/
theorem withKnownBase (table : Config.Table) :
    (bean.withKnownBase registry table).1.HasReferences P := by
  unfold Bean.withKnownBase
  split
  · exact h
  split
  · exact h
  split
  · exact ⟨hlinked _, h.aliasTarget⟩
  · exact ⟨hlinked none, h.aliasTarget⟩

/-- Removing the base that every class has keeps what holds of every name with its link. -/
theorem withoutRootBase : bean.withoutRootBase.1.HasReferences P := by
  unfold Bean.withoutRootBase
  split
  · split
    · exact ⟨hlinked none, h.aliasTarget⟩
    · exact h
  · exact h

/-- Giving the default base keeps what holds of every name with its link. -/
theorem withDefaultBase (default : String) :
    (bean.withDefaultBase registry default).1.HasReferences P := by
  unfold Bean.withDefaultBase
  split
  · exact ⟨hlinked _, h.aliasTarget⟩
  · exact h

/-- A pass keeps what holds of every name with its link. -/
theorem onBean (config : Config) (roots : Roots) (pass : Pass) :
    (pass.onBean config roots registry bean).HasReferences P := by
  cases pass with
  | packages =>
    show (bean.placed config roots).1.HasReferences P
    unfold Bean.placed
    split
    · exact ⟨h.base, h.aliasTarget⟩
    · exact h
  | enumInterfaces =>
    show (bean.withEnumInterface config.enumInterfaceMapping).1.HasReferences P
    unfold Bean.withEnumInterface
    split
    · split
      · exact ⟨h.base, h.aliasTarget⟩
      · exact h
    · exact h
  | typeNames =>
    show (if config.typeMappings.isEmpty then bean
      else (bean.withTypeNames registry config.typeMappings).1).HasReferences P
    split
    · exact h
    · exact withTypeNames hlinked h _
  | fieldTypes => exact ⟨h.base, h.aliasTarget⟩
  | bases =>
    show (bean.withBase registry config).1.HasReferences P
    rw [Bean.withBase_fst]
    refine withDefaultBase hlinked (withoutRootBase hlinked ?_) _
    split
    · exact withKnownBase hlinked h _
    · exact h

/-- All passes together keep what holds of every name with its link. -/
theorem refined (config : Config) (roots : Roots) :
    (bean.refined config roots registry).HasReferences P := by
  unfold Bean.refined
  suffices ∀ (passes : List Pass) (current : Bean), current.HasReferences P →
      (passes.foldl (fun bean pass => pass.onBean config roots registry bean) current).HasReferences P
    from this _ _ h
  intro passes
  induction passes with
  | nil => exact fun _ hcurrent => hcurrent
  | cons pass passes ih => exact fun _ hcurrent => ih _ (onBean hlinked hcurrent config roots pass)

end

end Bean.HasReferences

namespace Registry

/-! ## Registries that come about from beans without links -/

/-- A registry comes about from beans without links: it is empty, or a bean without links was added last,
or it was linked last, or a pass was run last. -/
inductive Reached : Registry → Prop
  | empty : Reached .empty
  | add {registry : Registry} (bean : Bean) (h : Reached registry) :
      Reached (registry.add bean.unlinked)
  | link {registry : Registry} (h : Reached registry) : Reached registry.link.1
  | pass {registry : Registry} (config : Config) (roots : Roots) (pass : Pass)
      (h : Reached registry) : Reached (pass.run config roots registry).1

/-- A pass keeps the links backed. -/
theorem BacksLinks.pass {registry : Registry} (h : registry.BacksLinks) (config : Config)
    (roots : Roots) (pass : Pass) : (pass.run config roots registry).1.BacksLinks := by
  have hnames : registry.names ⊆ (pass.run config roots registry).1.names := by
    rw [pass.names_run]
    exact List.Subset.refl _
  have hbacked : ∀ bean ∈ (pass.run config roots registry).1.beans,
      bean.HasReferences registry.Backs := by
    intro bean hbean
    rw [Pass.beans_run] at hbean
    obtain ⟨before, hbefore, rfl⟩ := List.mem_map.1 hbean
    exact Bean.HasReferences.onBean registry.backs_linkTo?
      ⟨h.base before hbefore, h.aliasTarget before hbefore⟩ config roots pass
  exact ⟨fun bean hbean => (hbacked bean hbean).base.mono hnames,
    fun bean hbean => (hbacked bean hbean).aliasTarget.mono hnames⟩

/-- Every registry that comes about from beans without links backs its links. -/
theorem Reached.backsLinks {registry : Registry} (h : Reached registry) : registry.BacksLinks := by
  induction h with
  | empty => exact backsLinks_empty
  | add bean _ ih => exact ih.add bean
  | link _ ih => exact ih.link
  | pass config roots pass _ ih => exact ih.pass config roots pass

/-- Linking a registry that backs its links leaves nothing to do for linking it again. -/
theorem BacksLinks.link_link {registry : Registry} (h : registry.BacksLinks) :
    registry.link.1.link = registry.link := by
  have hsame : registry.link.1.link.1 = registry.link.1 :=
    link_fst_eq_self fun bean hbean => h.inStep_link hbean
  refine Prod.ext hsame ?_
  rw [h.link.count_link, hsame, h.count_link]

/-- From any registry that comes about from beans without links, linking brings all links in step with
the names. Every link then leads to a bean of the registry, the links are what linking counts, and
linking again does nothing and counts the same. -/
theorem Reached.coherent_link {registry : Registry} (h : Reached registry) :
    (∀ bean ∈ registry.link.1.beans, registry.link.1.InStep bean) ∧
      (∀ bean ∈ registry.link.1.beans, ∀ link ∈ bean.links,
        ∃ member ∈ registry.link.1.beans, link = .member member.name) ∧
      registry.link.2 = total (registry.link.1.beans.map fun bean => bean.links.length) ∧
      registry.link.1.link = registry.link := by
  have hbacked := h.backsLinks
  refine ⟨fun bean hbean => hbacked.inStep_link hbean, ?_, hbacked.count_link, hbacked.link_link⟩
  intro bean hbean link hlink
  exact (hbacked.inStep_link hbean).exists_member hlink

/-- A class `A` that extends `B` is linked to it, and then another `B` is added. -/
def afterReplacement : Registry :=
  ((Registry.empty.add { name := "A", kind := .javaClass, base := some "B" }).add
    { name := "B", kind := .javaClass }).link.1.add { name := "B", kind := .javaEnum }

/-- The class is linked to a bean that has been replaced; one more linking leads it to the new one. -/
theorem coherent_link_afterReplacement :
    Reached afterReplacement ∧
      (afterReplacement.beans.map (·.baseLink) = [some (.replaced "B"), none]) ∧
      (∀ bean ∈ afterReplacement.link.1.beans, afterReplacement.link.1.InStep bean) ∧
      (∀ bean ∈ afterReplacement.link.1.beans, ∀ link ∈ bean.links,
        ∃ member ∈ afterReplacement.link.1.beans, link = .member member.name) ∧
      afterReplacement.link.2 =
        total (afterReplacement.link.1.beans.map fun bean => bean.links.length) ∧
      afterReplacement.link.1.link = afterReplacement.link := by
  have hreached : Reached afterReplacement :=
    .add { name := "B", kind := .javaEnum }
      (.link (.add { name := "B", kind := .javaClass }
        (.add { name := "A", kind := .javaClass, base := some "B" } .empty)))
  exact ⟨hreached, by decide, hreached.coherent_link⟩

end Registry

end BeanGen

import BeanGen.Proofs.Bean.Order
import BeanGen.Proofs.Refine.Lookup
import BeanGen.Proofs.Render.Congruence

/-!
# The order of the source files

Where no name is declared twice and no helper name derived twice, the order of the files decides in
which order the beans are made and nothing else: the beans are the same
(`Registry.unlinkedBeans_refinedBeans_perm`), each owner has its helpers in the same order
(`Registry.filter_owner_refinedBeans_perm`), and a file shows nothing of the order in which beans of
different owners stand. So a run writes the same files in another order (`sourceOutputs_perm`).

Without the condition the order matters: of two declarations of a name the last one counts.
-/

namespace BeanGen

open Source (Unambiguous)

/-- Another order of the files is another order of the declarations. -/
theorem Source.Files.declarations_perm {files files' : Source.Files} (h : files.Perm files') :
    files.declarations.Perm files'.declarations :=
  h.flatMap_right _

namespace Registry

section
variable (config : Config) (roots : Roots) {files files' : Source.Files}
  (h : Unambiguous files.declarations) (hperm : files.Perm files')
include h hperm

/-- Other orders of the files refine a bean alike. -/
theorem unlinked_refined_perm (bean : Bean) :
    (bean.refined config roots (ofFiles files)).unlinked =
      (bean.refined config roots (ofFiles files')).unlinked := by
  have hbeans := unlinkedBeans_perm h (Source.Files.declarations_perm hperm)
  refine Bean.unlinked_refined_of_names fun name => ?_
  rw [ofFiles_eq, ofFiles_eq, ← names_unlinkedBeans, ← names_unlinkedBeans]
  exact (hbeans.map _).mem_iff

/-- Another order of the files makes the same beans in another order. -/
theorem unlinkedBeans_refinedBeans_perm :
    (refinedBeans config roots files).unlinkedBeans.Perm
      (refinedBeans config roots files').unlinkedBeans := by
  have hbeans := unlinkedBeans_perm h (Source.Files.declarations_perm hperm)
  rw [unlinkedBeans_refinedBeans, unlinkedBeans_refinedBeans,
    funext (unlinked_refined_perm config roots h hperm), ofFiles_eq, ofFiles_eq]
  exact hbeans.map _

/-- Another order of the files leaves the helpers of an owner in their order. -/
theorem filter_owner_refinedBeans_perm (owner : String) :
    (refinedBeans config roots files).unlinkedBeans.filter (·.owner == some owner) =
      (refinedBeans config roots files').unlinkedBeans.filter (·.owner == some owner) := by
  have hbeans := filter_owner_perm h (Source.Files.declarations_perm hperm) owner
  rw [unlinkedBeans_refinedBeans, unlinkedBeans_refinedBeans,
    funext (unlinked_refined_perm config roots h hperm), List.filter_map, List.filter_map]
  have hkept : ((fun bean : Bean => bean.owner == some owner) ∘ fun bean : Bean =>
        (bean.refined config roots (ofFiles files')).unlinked) = (·.owner == some owner) := by
    funext bean
    rw [Function.comp_apply, Bean.unlinked_owner, (bean.keepsDeclaration_refined config roots _).owner]
  rw [hkept, ofFiles_eq, ofFiles_eq, hbeans]

/-- Another order of the files has the same under every name. -/
theorem bean?_refinedBeans_perm :
    (refinedBeans config roots files).bean? = (refinedBeans config roots files').bean? := by
  have hbeans := unlinkedBeans_refinedBeans_perm config roots h hperm
  funext name
  refine Option.ext fun bean => ?_
  rw [bean?_eq_some_iff, bean?_eq_some_iff, hbeans.mem_iff]

end

end Registry

section
variable (config : Config) (roots : Roots) {files files' : Source.Files}
  (h : Unambiguous files.declarations) (hperm : files.Perm files')
include h hperm

/-- Another order of the files writes the same file for a bean. -/
theorem unit_runWriter_perm {bean : Bean}
    (hmem : bean ∈ (refinedBeans config roots files).unlinkedBeans)
    (htop : (refinedBeans config roots files).hostName? bean = none) :
    (runWriter config roots files).unit bean = (runWriter config roots files').unit bean := by
  have hview := Registry.bean?_refinedBeans_perm config roots h hperm
  have hbeans := Registry.unlinkedBeans_refinedBeans_perm config roots h hperm
  have howned := Registry.filter_owner_refinedBeans_perm config roots h hperm bean.name
  have htop' : (refinedBeans config roots files').hostName? bean = none := by
    rwa [Registry.hostName?, ← hview]
  refine unit_runWriter_congr hmem (hbeans.mem_iff.1 hmem) htop htop' rfl rfl (by rw [howned]) ?_
  intro shown _ _ type _ name _ _ _ _
  refine Writer.site?_congr ?_ fun other owner _ _ => ?_
  · rw [registry_runWriter, registry_runWriter, hview]
  · rw [registry_runWriter, registry_runWriter, hview]

/-- Where no name is declared twice and no helper name derived twice, another order of the files writes
the same files in another order. -/
theorem sourceOutputs_perm (outputDir : String) :
    (sourceOutputs config roots outputDir files).Perm
      (sourceOutputs config roots outputDir files') := by
  have hview := Registry.bean?_refinedBeans_perm config roots h hperm
  have hbeans := Registry.unlinkedBeans_refinedBeans_perm config roots h hperm
  have hshown : (refinedBeans config roots files).isEmitted =
      (refinedBeans config roots files').isEmitted := by
    funext bean
    rw [Registry.isEmitted, Registry.isEmitted, Registry.hostName?, Registry.hostName?, hview]
  rw [sourceOutputs_eq, sourceOutputs_eq, sourceUnits, sourceUnits, Writer.outputs_eq,
    Writer.outputs_eq, registry_runWriter, registry_runWriter, ← hshown]
  refine List.Perm.map _ ?_
  have hunits : ((refinedBeans config roots files).unlinkedBeans.filter
        (refinedBeans config roots files).isEmitted).map (fun bean =>
          (Writer.pathOf outputDir bean, (runWriter config roots files).unit bean)) =
      ((refinedBeans config roots files).unlinkedBeans.filter
        (refinedBeans config roots files).isEmitted).map fun bean =>
          (Writer.pathOf outputDir bean, (runWriter config roots files').unit bean) := by
    refine List.map_congr_left fun bean hbean => ?_
    obtain ⟨hmem, hemitted⟩ := List.mem_filter.1 hbean
    rw [unit_runWriter_perm config roots h hperm hmem (Registry.isEmitted_iff.1 hemitted).2]
  rw [hunits]
  exact (hbeans.filter _).map _

end

/-- Two files in which nothing is declared or derived twice: `interface A { b: { n: string } }` with
`class C extends AB {}`, and `enum AB {}`. The helper of `A` gives way to the enum. -/
def unambiguousFiles : Source.Files :=
  [{ path := "/p/a.ts"
     interfaces := [{
       name := "A"
       properties := [{
         name := "b"
         type := "\x7b n: string \x7d"
         members := some [{ name := "n", type := "string" }] }] }]
     classes := [{ name := "C", base := some "AB" }] },
   { path := "/p/b.ts", enums := [{ name := "AB" }] }]

/-- The two files in the other order are read with the same result. -/
theorem sourceOutputs_unambiguousFiles :
    Unambiguous unambiguousFiles.declarations ∧ unambiguousFiles.Perm unambiguousFiles.reverse ∧
      (sourceOutputs default ⟨[], []⟩ "out" unambiguousFiles).Perm
        (sourceOutputs default ⟨[], []⟩ "out" unambiguousFiles.reverse) := by
  have hunambiguous : Unambiguous unambiguousFiles.declarations := by
    -- only the first of the three declarations derives a helper name
    refine ⟨by decide, ?_⟩
    simp [unambiguousFiles, Source.Files.declarations, Source.File.declarations,
      Source.Declaration.helperNames, Source.Declaration.members, List.Disjoint]
  have hperm := (List.reverse_perm unambiguousFiles).symm
  exact ⟨hunambiguous, hperm, sourceOutputs_perm default ⟨[], []⟩ hunambiguous hperm "out"⟩

end BeanGen

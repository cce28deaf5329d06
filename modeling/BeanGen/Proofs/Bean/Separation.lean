import BeanGen.Proofs.Bean.Order

/-!
# Declarations of other names

A list of names separates declarations when each of these gives rise to names of the list only or to none
of them (`Source.Separates`). Then the declarations with names of the list do not concern the others:
without the beans of these names the beans are those that the other declarations make by themselves
(`unlinkedBeans_filter_separated`), so the same stands under every other name (`bean?_of_filter`), and
helpers are on the side of their owner (`owner_mem_iff`).
-/

namespace BeanGen

open Source (Declaration)

/-- Each declaration gives rise to names of the list only, or to none of them. -/
def Source.Separates (names : List String) (entries : List (String × Declaration)) : Prop :=
  ∀ entry ∈ entries, entry.2.names ⊆ names ∨ entry.2.names.Disjoint names

/-- The declarations whose names are not in the list. -/
def Source.without (names : List String) (entries : List (String × Declaration)) :
    List (String × Declaration) :=
  entries.filter fun entry => !names.contains entry.2.name

/-- The names of the beans that a declaration adds are names that it gives rise to. -/
theorem Source.Declaration.name_mem_of_mem_added {registry : Registry} {path : String}
    {decl : Declaration} {bean : Bean}
    (h : bean ∈ decl.added path (decl.helpers registry path)) : bean.name ∈ decl.names := by
  rcases List.mem_append.1 h with hown | hhelper
  · split at hown
    · cases hown
    · obtain rfl := List.mem_singleton.1 hown
      rw [bean_name]
      exact List.mem_cons_self
  · obtain ⟨property, hmember, hneeds, -, rfl⟩ := of_mem_helpers hhelper
    exact List.mem_cons_of_mem _ (mem_helperNames hmember hneeds)

namespace Registry

section
variable {names : List String} {registry other : Registry} {entry : String × Declaration}

/-- Registries that differ in the beans of listed names only hold the same under every other name. -/
theorem bean?_of_filter
    (h : registry.unlinkedBeans.filter (fun bean => !names.contains bean.name) = other.unlinkedBeans)
    {name : String} (hname : name ∉ names) : registry.bean? name = other.bean? name := by
  rw [bean?_eq_find?, bean?_eq_find?, ← h, List.find?_filter]
  refine congrArg (fun test => List.find? test _) (funext fun bean => ?_)
  by_cases hsame : bean.name = name
  · simp [hsame, hname]
  · simp [hsame]

/-- A declaration of listed names changes nothing but the beans of these names. -/
theorem filter_enter_of_subset (h : entry.2.names ⊆ names) :
    (registry.enter entry).unlinkedBeans.filter (fun bean => !names.contains bean.name) =
      registry.unlinkedBeans.filter fun bean => !names.contains bean.name := by
  have hname : entry.2.name ∈ names := h List.mem_cons_self
  have hadded : (entry.2.added entry.1 (entry.2.helpers registry entry.1)).filter
      (fun bean => !names.contains bean.name) = [] := by
    refine List.filter_eq_nil_iff.2 fun bean hbean => ?_
    simpa using h (Declaration.name_mem_of_mem_added hbean)
  rw [unlinkedBeans_enter, List.filter_append, hadded, List.append_nil, List.filter_filter]
  refine List.filter_congr fun bean _ => ?_
  by_cases hsame : bean.name = entry.2.name
  · simp [hsame, hname]
  · simp [hsame]

/-- A declaration of other names does the same to registries that differ in the beans of listed names
only. -/
theorem filter_enter_of_disjoint (h : entry.2.names.Disjoint names)
    (hother : registry.unlinkedBeans.filter (fun bean => !names.contains bean.name) =
      other.unlinkedBeans) :
    (registry.enter entry).unlinkedBeans.filter (fun bean => !names.contains bean.name) =
      (other.enter entry).unlinkedBeans := by
  -- whether the name of a helper is free is the same question in both registries
  have hhelpers : entry.2.helpers registry entry.1 = entry.2.helpers other entry.1 := by
    refine Declaration.helpers_congr (fun name hname => ?_) _
    rw [contains_eq, contains_eq, bean?_of_filter hother (h (List.mem_cons_of_mem _ hname))]
  have hadded : (entry.2.added entry.1 (entry.2.helpers registry entry.1)).filter
        (fun bean => !names.contains bean.name) =
      entry.2.added entry.1 (entry.2.helpers other entry.1) := by
    rw [hhelpers]
    refine List.filter_eq_self.2 fun bean hbean => ?_
    simpa using h (Declaration.name_mem_of_mem_added hbean)
  rw [unlinkedBeans_enter, unlinkedBeans_enter, List.filter_append, hadded, ← hother,
    List.filter_filter, List.filter_filter]
  exact congrArg (· ++ _) (List.filter_congr fun bean _ => Bool.and_comm _ _)

end

section
variable {names : List String} {entries : List (String × Declaration)}
  (h : Source.Separates names entries)
include h

/-- Without the beans of the listed names the beans are those of the other declarations. -/
theorem unlinkedBeans_filter_separated :
    (ofDeclarations entries).unlinkedBeans.filter (fun bean => !names.contains bean.name) =
      (ofDeclarations (Source.without names entries)).unlinkedBeans := by
  induction entries using List.reverseRecOn with
  | nil => rfl
  | append_singleton entries entry ih =>
    have hfront := ih fun other hother => h other (List.mem_append_left _ hother)
    have hname : entry.2.name ∈ entry.2.names := List.mem_cons_self
    rw [ofDeclarations_concat, Source.without, List.filter_append, ← Source.without]
    rcases h entry (by simp) with hlisted | hdisjoint
    · have hlast : [entry].filter (fun entry => !names.contains entry.2.name) = [] := by
        simpa using hlisted hname
      rw [hlast, List.append_nil, filter_enter_of_subset hlisted, hfront]
    · have hlast : [entry].filter (fun entry => !names.contains entry.2.name) = [entry] := by
        simpa using hdisjoint hname
      rw [hlast, ofDeclarations_concat, filter_enter_of_disjoint hdisjoint hfront]

/-- The name of a helper is listed when that of its owner is. -/
theorem owner_mem_iff {bean : Bean} {owner : String}
    (hmem : bean ∈ (ofDeclarations entries).unlinkedBeans) (howner : bean.owner = some owner) :
    owner ∈ names ↔ bean.name ∈ names := by
  have hmade := madeFrom_of_bean? (bean?_eq_some_iff.2 ⟨hmem, rfl⟩)
  cases hmade with
  | declared hdecl =>
    rw [Declaration.bean_owner] at howner
    cases howner
  | @helper path decl property hdecl hmember hneeds =>
    obtain rfl : decl.name = owner := Option.some.inj howner
    have hown : decl.name ∈ decl.names := List.mem_cons_self
    have hhelper : helperName decl.name property ∈ decl.names :=
      List.mem_cons_of_mem _ (Declaration.mem_helperNames hmember hneeds)
    rcases h _ hdecl with hlisted | hother
    · exact iff_of_true (hlisted hown) (hlisted hhelper)
    · exact iff_of_false (hother hown) (hother hhelper)

end

end Registry

end BeanGen

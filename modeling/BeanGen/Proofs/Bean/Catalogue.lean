import BeanGen.Proofs.Bean.Registry
import Mathlib.Data.List.Induction
import Mathlib.Data.List.Nodup
import Mathlib.Logic.Function.Basic

/-!
# A list of beans with an index

A registry is one list, and a name is looked up in this list. A catalogue keeps two things for the same
purpose: a list of beans, and an index that has the bean of each name. Adding a bean to a catalogue
changes both in steps of their own, so nothing in the type says that they agree.

They do: one addition keeps them in step (`Catalogue.InStep.add`), and after any sequence of additions
the list consists of the last added bean of each name in the order of these additions
(`lastOfEachName`). A registry that the same beans are added to shows the same list and finds the same
beans (`Registry.inStep_addAll`). Only the links of its beans can differ from those of the added ones,
since a link follows the bean that it leads to.
-/

namespace BeanGen

/-- The beans of a sequence that are not followed by another of their name. -/
def lastOfEachName : List Bean → List Bean
  | [] => []
  | bean :: later =>
    if later.any (·.name == bean.name) then lastOfEachName later else bean :: lastOfEachName later

/-- A list of beans, and the beans by name. -/
structure Catalogue where
  listed : List Bean
  index : String → Option Bean

namespace Catalogue

/-- The catalogue without beans. -/
def empty : Catalogue := ⟨[], fun _ => none⟩

/-- Takes the bean that the index has under the name out of the list, puts the new bean behind the
others, and makes it the one of its name. -/
def add (catalogue : Catalogue) (bean : Bean) : Catalogue where
  listed :=
    (match catalogue.index bean.name with
      | some previous => catalogue.listed.filter (· != previous)
      | none => catalogue.listed) ++ [bean]
  index := Function.update catalogue.index bean.name (some bean)

/-- Adds beans from left to right. -/
def addAll (catalogue : Catalogue) (beans : List Bean) : Catalogue :=
  beans.foldl add catalogue

end Catalogue

section
variable {bean : Bean}

/-! ## The last bean of each name -/

/-- A further bean comes last, and an earlier one of its name is none of them any more. -/
theorem lastOfEachName_concat (beans : List Bean) (bean : Bean) :
    lastOfEachName (beans ++ [bean]) =
      (lastOfEachName beans).filter (·.name != bean.name) ++ [bean] := by
  induction beans with
  | nil => rfl
  | cons first later ih =>
    rw [List.cons_append, lastOfEachName, lastOfEachName, ih, List.any_append, List.any_cons, List.any_nil,
      Bool.or_false]
    by_cases hsame : bean.name = first.name
    · -- the further bean has the name of the first, which is left out whether or not one between has it
      have hfirst : (first.name != bean.name) = false := by simpa using hsame.symm
      rw [if_pos (by simp [hsame])]
      split
      · rfl
      · rw [List.filter_cons_of_neg (by simp [hfirst])]
    · have hfirst : (bean.name == first.name) = false := by simpa using hsame
      rw [hfirst, Bool.or_false]
      split
      · rfl
      · rw [List.filter_cons_of_pos (by simpa using Ne.symm hsame), List.cons_append]

/-! ## The registry -/

/-- A registry lists the last added bean of each name. -/
theorem Registry.unlinkedBeans_addAll_empty (beans : List Bean) :
    (Registry.empty.addAll beans).unlinkedBeans = (lastOfEachName beans).map Bean.unlinked := by
  induction beans using List.reverseRecOn with
  | nil => rfl
  | append_singleton beans bean ih =>
    rw [addAll, List.foldl_append, ← addAll]
    show ((empty.addAll beans).add bean).unlinkedBeans = _
    rw [unlinkedBeans_add, ih, lastOfEachName_concat, List.map_append, List.filter_map]
    rfl

/-! ## The catalogue -/

namespace Catalogue

/-- The list and the index agree: no name is listed twice, and the index has under a name the listed bean
of this name. -/
structure InStep (catalogue : Catalogue) : Prop where
  nodup : (catalogue.listed.map (·.name)).Nodup
  index_eq : ∀ name, catalogue.index name = catalogue.listed.find? (·.name == name)

/-- In a catalogue in step the bean of a name is taken out of the list as the bean that the index has
there. -/
theorem InStep.listed_add {catalogue : Catalogue} (h : catalogue.InStep) (bean : Bean) :
    (catalogue.add bean).listed = catalogue.listed.filter (·.name != bean.name) ++ [bean] := by
  unfold add
  dsimp only
  refine congrArg (· ++ [bean]) ?_
  split
  · next previous hindex =>
    rw [h.index_eq] at hindex
    have hname : previous.name = bean.name := by simpa using List.find?_some hindex
    refine List.filter_congr fun other hother => ?_
    rw [Bool.eq_iff_iff, bne_iff_ne, bne_iff_ne, not_iff_not]
    refine ⟨fun heq => by rw [heq, hname], fun heq => ?_⟩
    -- both are what the list has under the name
    have hfind := Registry.find?_eq_of_mem h.nodup hother
    rw [heq, hindex] at hfind
    exact (Option.some.inj hfind).symm
  · next hindex =>
    rw [h.index_eq, List.find?_eq_none] at hindex
    exact (List.filter_eq_self.2 fun other hother => by simpa using hindex other hother).symm

/-- Adding a bean keeps list and index in step. -/
theorem InStep.add {catalogue : Catalogue} (h : catalogue.InStep) (bean : Bean) :
    (catalogue.add bean).InStep := by
  refine ⟨?_, fun name => ?_⟩
  · rw [h.listed_add, List.map_append, List.nodup_append, List.map_singleton]
    refine ⟨(List.filter_sublist.map _).nodup h.nodup, List.nodup_singleton _, ?_⟩
    rintro _ hmem _ hlast rfl
    obtain ⟨other, hother, hname⟩ := List.mem_map.1 hmem
    simp [List.mem_singleton.1 hlast ▸ hname] at hother
  · rw [h.listed_add, List.find?_append]
    show Function.update catalogue.index bean.name (some bean) name = _
    by_cases hname : name = bean.name
    · subst hname
      have hnone : (catalogue.listed.filter (·.name != bean.name)).find? (·.name == bean.name) = none := by
        rw [List.find?_eq_none]
        intro other hother
        simpa using (List.mem_filter.1 hother).2
      rw [Function.update_self, hnone, Option.none_or, List.find?_singleton, if_pos (beq_self_eq_true _)]
    · have hlast : [bean].find? (·.name == name) = none := by
        rw [List.find?_cons_of_neg (by simpa using Ne.symm hname), List.find?_nil]
      rw [Function.update_of_ne hname, h.index_eq, hlast, Option.or_none, List.find?_filter]
      refine congrArg (List.find? · catalogue.listed) (funext fun other => ?_)
      by_cases hother : other.name = name
      · simp [hother, hname]
      · simp [hother]

/-- After additions to the empty catalogue list and index are in step, and listed are the last beans of
their names. -/
theorem inStep_addAll_empty (beans : List Bean) :
    (empty.addAll beans).InStep ∧ (empty.addAll beans).listed = lastOfEachName beans := by
  induction beans using List.reverseRecOn with
  | nil => exact ⟨⟨.nil, fun _ => rfl⟩, rfl⟩
  | append_singleton beans bean ih =>
    obtain ⟨hstep, hlisted⟩ := ih
    rw [addAll, List.foldl_append, ← addAll]
    show ((empty.addAll beans).add bean).InStep ∧ ((empty.addAll beans).add bean).listed = _
    refine ⟨hstep.add bean, ?_⟩
    rw [hstep.listed_add, hlisted, lastOfEachName_concat]

/-- The index of a catalogue in step has a bean under a name when the bean is listed and has the name. -/
theorem InStep.index_eq_some_iff {catalogue : Catalogue} (h : catalogue.InStep) {name : String} :
    catalogue.index name = some bean ↔ bean ∈ catalogue.listed ∧ bean.name = name := by
  rw [h.index_eq]
  constructor
  · exact fun hfind => ⟨List.mem_of_find?_eq_some hfind, by simpa using List.find?_some hfind⟩
  · rintro ⟨hmem, rfl⟩
    exact Registry.find?_eq_of_mem h.nodup hmem

end Catalogue

/-- What stands under a name in a registry is the bean that a catalogue has there. -/
theorem Registry.bean?_addAll_empty (beans : List Bean) (name : String) :
    (empty.addAll beans).bean? name =
      ((Catalogue.empty.addAll beans).index name).map Bean.unlinked := by
  obtain ⟨hstep, hlisted⟩ := Catalogue.inStep_addAll_empty beans
  rw [bean?_eq_find?, unlinkedBeans_addAll_empty, List.find?_map, hstep.index_eq, hlisted]
  rfl

/-- A name other than the empty one refers to the bean of the list with this name. -/
theorem Registry.get?_eq_some_iff {registry : Registry} {name : String} :
    registry.get? name = some bean ↔ bean ∈ registry.beans ∧ bean.name = name ∧ name ≠ "" := by
  constructor
  · exact mem_of_get?
  · rintro ⟨hmem, rfl, hne⟩
    rw [get?, if_neg hne, find?_eq_of_mem registry.nodup hmem]

/-- **The list and the index stay in step.** Whatever beans are added to the empty registry, with
whatever repetitions of names: the list has no name twice, its names are the known ones, each name leads
to the very bean of the list, and the list consists of the last added bean of each name in the order of
these additions. The same holds of a catalogue, whose index is kept apart from its list, and the two
know the same beans under the same names. -/
theorem Registry.inStep_addAll (beans : List Bean) :
    ((empty.addAll beans).names.Nodup ∧
      (∀ name, (empty.addAll beans).contains name = true ↔ name ∈ (empty.addAll beans).names) ∧
      (∀ name bean, (empty.addAll beans).get? name = some bean ↔
        bean ∈ (empty.addAll beans).beans ∧ bean.name = name ∧ name ≠ "") ∧
      (empty.addAll beans).unlinkedBeans = (lastOfEachName beans).map Bean.unlinked) ∧
    (((Catalogue.empty.addAll beans).listed.map (·.name)).Nodup ∧
      (∀ name bean, (Catalogue.empty.addAll beans).index name = some bean ↔
        bean ∈ (Catalogue.empty.addAll beans).listed ∧ bean.name = name) ∧
      (Catalogue.empty.addAll beans).listed = lastOfEachName beans) ∧
    ∀ name, (empty.addAll beans).bean? name =
      ((Catalogue.empty.addAll beans).index name).map Bean.unlinked := by
  obtain ⟨hstep, hlisted⟩ := Catalogue.inStep_addAll_empty beans
  refine ⟨⟨(empty.addAll beans).nodup, fun _ => contains_iff, fun _ _ => get?_eq_some_iff,
    unlinkedBeans_addAll_empty beans⟩, ⟨hstep.nodup, fun _ _ => hstep.index_eq_some_iff, hlisted⟩,
    bean?_addAll_empty beans⟩

example :
    (Registry.empty.addAll [{ name := "A", kind := .javaClass }, { name := "B", kind := .javaEnum },
      { name := "A", kind := .javaInterface }]).names = ["B", "A"] := by
  decide

end

end BeanGen

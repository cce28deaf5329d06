import BeanGen.Bean.Registry

/-!
# What a registry holds under a name

A registry is looked into by name only. `Registry.bean?` is that view: the bean of a name without its
links, since a link follows the beans it leads to while all else in a bean stays as it was added. Every
operation has one lemma that says what it does to the view: `add` changes it at one name
(`bean?_add`), `addAll` at the names it is given (`bean?_addAll_of_mem`), and `update` changes each bean
where it stands (`beans_update`). The names of a registry are distinct, so its list of beans and the view
say the same (`bean?_of_mem`).

Where the order of the beans matters, `Registry.unlinkedBeans` is the view: the list of all beans without
their links. Adding beans takes their names out of this list and puts the beans behind it
(`unlinkedBeans_add`, `unlinkedBeans_addAll`).
-/

namespace BeanGen

/-- The bean without its links. -/
def Bean.unlinked (bean : Bean) : Bean :=
  { bean with baseLink := none, interfaceLinks := [], aliasLink := none }

@[simp] theorem Bean.unlinked_name (bean : Bean) : bean.unlinked.name = bean.name := rfl
@[simp] theorem Bean.unlinked_kind (bean : Bean) : bean.unlinked.kind = bean.kind := rfl
@[simp] theorem Bean.unlinked_sourcePath (bean : Bean) :
    bean.unlinked.sourcePath = bean.sourcePath := rfl
@[simp] theorem Bean.unlinked_owner (bean : Bean) : bean.unlinked.owner = bean.owner := rfl
@[simp] theorem Bean.unlinked_package (bean : Bean) : bean.unlinked.package = bean.package := rfl
@[simp] theorem Bean.unlinked_unlinked (bean : Bean) : bean.unlinked.unlinked = bean.unlinked := rfl

namespace Registry

section
variable {registry : Registry} {bean : Bean} {name : String}

/-- The bean of a name, without its links. Unlike `get?` it finds a bean with an empty name, too. -/
def bean? (registry : Registry) (name : String) : Option Bean :=
  (registry.beans.find? (·.name == name)).map Bean.unlinked

/-! ## The view and the list of beans -/

/-- In a list of beans with distinct names each bean is the one found under its name. -/
theorem find?_eq_of_mem {beans : List Bean} (hnodup : (beans.map (·.name)).Nodup)
    (hmem : bean ∈ beans) : beans.find? (·.name == bean.name) = some bean := by
  induction beans with
  | nil => cases hmem
  | cons first rest ih =>
    rw [List.map_cons, List.nodup_cons] at hnodup
    rcases List.mem_cons.1 hmem with rfl | hmem
    · simp
    · have hne : first.name ≠ bean.name := fun heq =>
        hnodup.1 (heq ▸ List.mem_map_of_mem hmem)
      rw [List.find?_cons_of_neg (by simpa using hne)]
      exact ih hnodup.2 hmem

/-- A bean of the registry is what the view shows under its name. -/
theorem bean?_of_mem (hmem : bean ∈ registry.beans) :
    registry.bean? bean.name = some bean.unlinked := by
  rw [bean?, find?_eq_of_mem registry.nodup hmem]
  rfl

/-- What the view shows is a bean of the registry. -/
theorem exists_mem_of_bean? (h : registry.bean? name = some bean) :
    ∃ member ∈ registry.beans, member.name = name ∧ member.unlinked = bean := by
  obtain ⟨member, hfind, rfl⟩ := Option.map_eq_some_iff.1 h
  exact ⟨member, List.mem_of_find?_eq_some hfind, by simpa using List.find?_some hfind, rfl⟩

/-- Beans of the registry with one name are one bean. -/
theorem eq_of_name_eq {other : Bean} (hmem : bean ∈ registry.beans)
    (hother : other ∈ registry.beans) (h : bean.name = other.name) : bean = other := by
  have hfind := find?_eq_of_mem registry.nodup hmem
  rw [h, find?_eq_of_mem registry.nodup hother] at hfind
  exact (Option.some.inj hfind).symm

/-- Of all beans only the one of the name is left by the test for a name. -/
theorem filter_name (registry : Registry) (name : String) :
    registry.beans.filter (·.name == name) = (registry.beans.find? (·.name == name)).toList := by
  obtain ⟨beans, hnodup⟩ := registry
  show beans.filter (·.name == name) = (beans.find? (·.name == name)).toList
  induction beans with
  | nil => rfl
  | cons first rest ih =>
    rw [List.map_cons, List.nodup_cons] at hnodup
    by_cases h : first.name = name
    · have hrest : rest.filter (·.name == name) = [] := by
        rw [List.filter_eq_nil_iff]
        intro bean hbean heq
        exact hnodup.1 (List.mem_map.2 ⟨bean, hbean, by rw [eq_of_beq heq, h]⟩)
      simp [h, hrest]
    · rw [List.filter_cons_of_neg (by simpa using h), List.find?_cons_of_neg (by simpa using h)]
      exact ih hnodup.2

/-! ## Names -/

/-- `contains` says whether the view shows anything. -/
theorem contains_eq (registry : Registry) (name : String) :
    registry.contains name = (registry.bean? name).isSome := by
  rw [bean?, Option.isSome_map, List.isSome_find?]
  rfl

/-- A name is contained when it is one of the names. -/
theorem contains_iff : registry.contains name = true ↔ name ∈ registry.names := by
  rw [contains, List.any_eq_true, names, List.mem_map]
  simp only [beq_iff_eq]

/-- `get?` is the view, except that it finds nothing under the empty name. -/
theorem get?_unlinked (registry : Registry) (name : String) :
    (registry.get? name).map Bean.unlinked = if name = "" then none else registry.bean? name := by
  unfold get? bean?
  split <;> rfl

/-- The bean that `get?` finds is a member and has the name. -/
theorem mem_of_get? (h : registry.get? name = some bean) :
    bean ∈ registry.beans ∧ bean.name = name ∧ name ≠ "" := by
  unfold get? at h
  split at h
  · cases h
  · next hne =>
    exact ⟨List.mem_of_find?_eq_some h, by simpa using List.find?_some h, hne⟩

/-! ## Adding beans -/

@[simp] theorem bean?_empty (name : String) : empty.bean? name = none := rfl

/-- Displacing the bean of a name hides that name and no other. -/
theorem find?_displace (displaced name : String) (beans : List Bean) :
    ((displace displaced beans).find? (·.name == name)).map Bean.unlinked =
      if displaced = name then none
      else (beans.find? (·.name == name)).map Bean.unlinked := by
  unfold displace
  split
  · next old _ =>
    rw [List.find?_map, List.find?_filter, Option.map_map]
    split
    · next h =>
      subst h
      have hnone : beans.find? (fun bean =>
          decide ((bean.name != displaced) = true ∧
            ((fun bean : Bean => bean.name == displaced) ∘ relink old) bean = true)) = none := by
        simp [List.find?_eq_none, relink]
      rw [hnone, Option.map_none]
    · next h =>
      have htest : (fun bean : Bean =>
          decide ((bean.name != displaced) = true ∧
            ((fun bean : Bean => bean.name == name) ∘ relink old) bean = true)) =
          fun bean => bean.name == name := by
        funext bean
        by_cases hname : bean.name = name
        · simp [relink, hname, Ne.symm h]
        · simp [relink, hname]
      rw [htest]
      rfl
  · next hnone =>
    split
    · next h => rw [← h, hnone, Option.map_none]
    · rfl

/-- An added bean stands under its name; all other names show what they showed before. -/
theorem bean?_add (registry : Registry) (bean : Bean) (name : String) :
    (registry.add bean).bean? name =
      if bean.name = name then some bean.unlinked else registry.bean? name := by
  have hdisplace := find?_displace bean.name name registry.beans
  unfold bean? add
  rw [List.find?_append, List.find?_singleton]
  split at hdisplace
  · next h =>
    rw [Option.map_eq_none_iff.1 hdisplace]
    simp [h]
  · next h =>
    simp [h, hdisplace]

/-- A name that none of the added beans has shows what it showed before. -/
theorem bean?_addAll_of_notMem {beans : List Bean} (h : ∀ bean ∈ beans, bean.name ≠ name) :
    (registry.addAll beans).bean? name = registry.bean? name := by
  induction beans generalizing registry with
  | nil => rfl
  | cons first rest ih =>
    show ((registry.add first).addAll rest).bean? name = _
    rw [ih fun bean hbean => h bean (List.mem_cons_of_mem _ hbean), bean?_add,
      if_neg (h first List.mem_cons_self)]

/-- Of added beans with distinct names each stands under its own. -/
theorem bean?_addAll_of_mem {beans : List Bean} (hnodup : (beans.map (·.name)).Nodup)
    (hmem : bean ∈ beans) : (registry.addAll beans).bean? bean.name = some bean.unlinked := by
  induction beans generalizing registry with
  | nil => cases hmem
  | cons first rest ih =>
    rw [List.map_cons, List.nodup_cons] at hnodup
    show ((registry.add first).addAll rest).bean? bean.name = _
    rcases List.mem_cons.1 hmem with rfl | hmem
    · have hrest : ∀ other ∈ rest, other.name ≠ bean.name := fun other hother heq =>
        hnodup.1 (heq ▸ List.mem_map_of_mem hother)
      rw [bean?_addAll_of_notMem hrest, bean?_add, if_pos rfl]
    · exact ih hnodup.2 hmem

/-! ## The order of the beans -/

/-- All beans in their order, without their links. -/
def unlinkedBeans (registry : Registry) : List Bean :=
  registry.beans.map Bean.unlinked

@[simp] theorem unlinkedBeans_empty : empty.unlinkedBeans = [] := rfl

/-- The names of the list are those of the registry. -/
theorem names_unlinkedBeans (registry : Registry) :
    registry.unlinkedBeans.map (·.name) = registry.names := by
  simp [unlinkedBeans, names, Function.comp_def]

/-- What stands under a name is found in the list. -/
theorem bean?_eq_find? (registry : Registry) (name : String) :
    registry.bean? name = registry.unlinkedBeans.find? (·.name == name) := by
  rw [bean?, unlinkedBeans, List.find?_map]
  rfl

/-- What stands under a name is a bean of the list with this name. -/
theorem bean?_eq_some_iff :
    registry.bean? name = some bean ↔ bean ∈ registry.unlinkedBeans ∧ bean.name = name := by
  constructor
  · intro h
    obtain ⟨member, hmem, hname, rfl⟩ := exists_mem_of_bean? h
    exact ⟨List.mem_map_of_mem hmem, hname⟩
  · rintro ⟨hmem, rfl⟩
    obtain ⟨member, hmember, rfl⟩ := List.mem_map.1 hmem
    rw [Bean.unlinked_name]
    exact bean?_of_mem hmember

/-- Displacing a bean takes it out of the list. Other beans change in their links only. -/
theorem unlinked_displace (displaced : String) (beans : List Bean) :
    (displace displaced beans).map Bean.unlinked =
      (beans.map Bean.unlinked).filter (·.name != displaced) := by
  unfold displace
  split
  · rw [List.map_map, List.filter_map]
    rfl
  · next hnone =>
    rw [List.find?_eq_none] at hnone
    refine (List.filter_eq_self.2 fun bean hbean => ?_).symm
    obtain ⟨member, hmember, rfl⟩ := List.mem_map.1 hbean
    simpa using hnone member hmember

/-- An added bean comes last, and an earlier bean of its name is gone. -/
theorem unlinkedBeans_add (registry : Registry) (bean : Bean) :
    (registry.add bean).unlinkedBeans =
      registry.unlinkedBeans.filter (·.name != bean.name) ++ [bean.unlinked] := by
  show (displace bean.name registry.beans ++ [bean]).map Bean.unlinked = _
  rw [List.map_append, unlinked_displace]
  rfl

/-- Added beans with distinct names come last in their order, and earlier beans of their names are
gone. -/
theorem unlinkedBeans_addAll {beans : List Bean} (hnodup : (beans.map (·.name)).Nodup) :
    (registry.addAll beans).unlinkedBeans =
      registry.unlinkedBeans.filter (fun bean => !(beans.map (·.name)).contains bean.name) ++
        beans.map Bean.unlinked := by
  induction beans generalizing registry with
  | nil =>
    rw [List.map_nil, List.map_nil, List.append_nil]
    exact (List.filter_eq_self.2 fun _ _ => rfl).symm
  | cons first rest ih =>
    rw [List.map_cons, List.nodup_cons] at hnodup
    show ((registry.add first).addAll rest).unlinkedBeans = _
    have hfirst : [first.unlinked].filter
        (fun bean => !(rest.map (·.name)).contains bean.name) = [first.unlinked] := by
      simpa using hnodup.1
    rw [ih hnodup.2, unlinkedBeans_add, List.filter_append, hfirst, List.filter_filter,
      List.append_assoc, List.map_cons]
    refine congrArg (· ++ _) (List.filter_congr fun bean _ => ?_)
    by_cases h : bean.name = first.name <;> simp [h]

/-! ## Changing beans in place -/

/-- A pass that keeps the names changes every bean where it stands. -/
theorem beans_update (registry : Registry) {f : Bean → Bean × Nat}
    (hname : ∀ bean, (f bean).1.name = bean.name) :
    (registry.update f).1.beans = registry.beans.map fun bean => (f bean).1 := by
  refine List.map_congr_left fun bean _ => ?_
  show { (f bean).1 with name := bean.name } = (f bean).1
  rw [← hname bean]

/-- The names stay. -/
@[simp] theorem names_update (registry : Registry) (f : Bean → Bean × Nat) :
    (registry.update f).1.names = registry.names := by
  simp [update, mapBeans, names, Function.comp_def]

end

end Registry

end BeanGen

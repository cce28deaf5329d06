import BeanGen.Count
import BeanGen.Bean.Basic

/-!
# The registry of beans

All beans of a run in the order of their generation, each name once. Adding a bean under a name that
is taken replaces the earlier bean and moves the name to the end.
-/

namespace BeanGen

/-- Beans in order, no name twice. -/
structure Registry where
  beans : List Bean
  nodup : (beans.map (·.name)).Nodup

namespace Registry

/-- The registry without beans. -/
def empty : Registry := ⟨[], by simp⟩

instance : Inhabited Registry := ⟨empty⟩

/-- The names of all beans, in order. -/
def names (registry : Registry) : List String :=
  registry.beans.map (·.name)

/-- There is a bean of that name. -/
def contains (registry : Registry) (name : String) : Bool :=
  registry.beans.any (·.name == name)

/-- The bean that a name refers to. The empty name refers to none. -/
def get? (registry : Registry) (name : String) : Option Bean :=
  if name = "" then none else registry.beans.find? (·.name == name)

/-- The bean that a reference refers to, if there is a reference. -/
def resolve? (registry : Registry) (name : Option String) : Option Bean :=
  name.bind registry.get?

/-- A link that led to `old` now says that `old` has been replaced. -/
def relinkOne (old : Bean) (link : Link) : Link :=
  if link = .member old.name then .replaced old.qualifiedName else link

/-- `relinkOne` for every link of a bean. -/
def relink (old bean : Bean) : Bean :=
  { bean with
    baseLink := bean.baseLink.map (relinkOne old)
    interfaceLinks := bean.interfaceLinks.map (relinkOne old)
    aliasLink := bean.aliasLink.map (relinkOne old) }

/-- The beans without the one of a name, with the links to it marked. -/
def displace (name : String) (beans : List Bean) : List Bean :=
  match beans.find? (·.name == name) with
  | some old => (beans.filter (·.name != name)).map (relink old)
  | none => beans

/-- Displacing a bean takes its name away and no other. -/
theorem names_displace (name : String) (beans : List Bean) :
    (displace name beans).map (·.name) = (beans.map (·.name)).filter (· != name) := by
  unfold displace
  split
  · simp [relink, List.filter_map, Function.comp_def]
  · rename_i h
    rw [List.find?_eq_none] at h
    refine (List.filter_eq_self.2 fun n hn => ?_).symm
    obtain ⟨bean, hbean, rfl⟩ := List.mem_map.1 hn
    simpa using h bean hbean

/-- Adds a bean at the end, in place of an earlier bean of its name. -/
def add (registry : Registry) (bean : Bean) : Registry where
  beans := displace bean.name registry.beans ++ [bean]
  nodup := by
    rw [List.map_append, names_displace, List.nodup_append]
    refine ⟨registry.nodup.filter _, by simp, ?_⟩
    intro a ha b hb
    obtain rfl : b = bean.name := by simpa using hb
    simpa using (List.mem_filter.1 ha).2

/-- Adds beans from left to right. -/
def addAll (registry : Registry) (beans : List Bean) : Registry :=
  beans.foldl add registry

/-- Changes every bean. Names stay. -/
def mapBeans (registry : Registry) (f : Bean → Bean) : Registry where
  beans := registry.beans.map fun bean => { f bean with name := bean.name }
  nodup := by simpa [Function.comp_def] using registry.nodup

/-- Changes every bean and adds up what each change counts. -/
def update (registry : Registry) (f : Bean → Bean × Nat) : Registry × Nat :=
  (registry.mapBeans fun bean => (f bean).1, total (registry.beans.map fun bean => (f bean).2))

/-- The qualified name of what a link leads to, as of now. -/
def linkName (registry : Registry) : Link → String
  | .member name => ((registry.get? name).map Bean.qualifiedName).getD name
  | .replaced qualifiedName => qualifiedName

/-- The link for a name, if it refers to a bean. -/
def linkTo? (registry : Registry) (name : Option String) : Option Link :=
  (registry.resolve? name).map fun bean => .member bean.name

end Registry

end BeanGen

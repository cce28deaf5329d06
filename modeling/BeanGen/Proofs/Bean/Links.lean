import BeanGen.Proofs.Refine.PerBean
import Mathlib.Data.List.Basic

/-!
# Links and the names they stand for

A bean refers to others by name, and its links say which of these names denote beans. The two are in
step when each link is the one that its name calls for (`Registry.InStep`). Linking takes a link for
every name that denotes a bean, but it never takes one away: a base or an alias target that denotes
nothing keeps the link it had. So linking puts a bean in step only if every such link was backed before,
that is, if its name still denotes some bean (`Registry.BacksLinks`). Backing is an invariant, because
names never leave a registry: it outlasts further additions (`BacksLinks.add`) and linking itself
(`BacksLinks.link`), and from a backed registry linking reaches the links that the names call for
(`BacksLinks.inStep_link`).
-/

namespace BeanGen

/-- All links of a bean. -/
def Bean.links (bean : Bean) : List Link :=
  bean.baseLink.toList ++ bean.interfaceLinks ++ bean.aliasLink.toList

namespace Registry

/-- The links that interface names call for: of the distinct names, in the order in which they are first
mentioned, those that denote beans. -/
def interfaceLinksOf (registry : Registry) (interfaces : List String) : List Link :=
  (interfaces.eraseDups.filter (· != "")).filterMap fun name => registry.linkTo? (some name)

/-- The links of a bean are those that its names call for. -/
structure InStep (registry : Registry) (bean : Bean) : Prop where
  base : bean.baseLink = registry.linkTo? bean.base
  interfaces : bean.interfaceLinks = registry.interfaceLinksOf bean.interfaces
  aliasTarget : bean.aliasLink = registry.linkTo? bean.aliasTarget

/-- Where there is a link, the name denotes some bean, though not necessarily the one that the link leads
to. -/
def Backs (registry : Registry) (name : Option String) (link : Option Link) : Prop :=
  link.isSome = true → (registry.linkTo? name).isSome = true

/-- The registry backs the links of each of its beans for the base and the alias target. -/
structure BacksLinks (registry : Registry) : Prop where
  base : ∀ bean ∈ registry.beans, registry.Backs bean.base bean.baseLink
  aliasTarget : ∀ bean ∈ registry.beans, registry.Backs bean.aliasTarget bean.aliasLink

section
variable {registry other : Registry} {bean : Bean} {name : Option String}

/-! ## Names that denote beans -/

/-- A link for a name leads to the bean of that name. -/
theorem exists_of_linkTo? {link : Link} (h : registry.linkTo? name = some link) :
    ∃ member ∈ registry.beans, link = .member member.name ∧ name = some member.name := by
  cases name with
  | none => cases h
  | some name =>
    unfold linkTo? resolve? at h
    rw [Option.bind_some] at h
    obtain ⟨member, hget, rfl⟩ := Option.map_eq_some_iff.1 h
    obtain ⟨hmem, rfl, -⟩ := mem_of_get? hget
    exact ⟨member, hmem, rfl, rfl⟩

/-- A name denotes a bean when it is one of the names and not empty. -/
theorem isSome_linkTo?_iff {name : String} :
    (registry.linkTo? (some name)).isSome = true ↔ name ≠ "" ∧ name ∈ registry.names := by
  rw [← contains_iff, linkTo?_some]
  split
  · next h => exact iff_of_true rfl h
  · next h => exact iff_of_false Bool.false_ne_true h

/-- There is no link for the empty name. -/
theorem linkTo?_empty (registry : Registry) : registry.linkTo? (some "") = none := rfl

/-- A name that denotes a bean denotes one in every registry with more names. -/
theorem isSome_linkTo?_mono (hnames : registry.names ⊆ other.names)
    (h : (registry.linkTo? name).isSome = true) : (other.linkTo? name).isSome = true := by
  cases name with
  | none => cases h
  | some name =>
    rw [isSome_linkTo?_iff] at h ⊢
    exact ⟨h.1, hnames h.2⟩

/-- What a registry backs, one with more names backs. -/
theorem Backs.mono {link : Option Link} (h : registry.Backs name link)
    (hnames : registry.names ⊆ other.names) : other.Backs name link :=
  fun hlink => isSome_linkTo?_mono hnames (h hlink)

/-- A registry backs the link that it has for a name. -/
theorem backs_linkTo? (registry : Registry) (name : Option String) :
    registry.Backs name (registry.linkTo? name) := id

/-- The links for interfaces depend on the names of the registry only. -/
theorem interfaceLinksOf_congr (h : registry.names = other.names) :
    registry.interfaceLinksOf = other.interfaceLinksOf := by
  funext interfaces
  rw [interfaceLinksOf, interfaceLinksOf, linkTo?_congr h]

/-- Registries with the same names have the same beans in step. -/
theorem InStep.congr (hstep : registry.InStep bean) (h : registry.names = other.names) :
    other.InStep bean := by
  refine ⟨?_, ?_, ?_⟩
  · rw [← linkTo?_congr h]
    exact hstep.base
  · rw [← interfaceLinksOf_congr h]
    exact hstep.interfaces
  · rw [← linkTo?_congr h]
    exact hstep.aliasTarget

/-- A bean in step links to beans of the registry only. -/
theorem InStep.exists_member {link : Link} (hstep : registry.InStep bean)
    (hlink : link ∈ bean.links) :
    ∃ member ∈ registry.beans, link = .member member.name := by
  have hfound : ∃ name, registry.linkTo? name = some link := by
    rw [Bean.links, List.mem_append, List.mem_append, Option.mem_toList, Option.mem_toList] at hlink
    rcases hlink with (hbase | hinterface) | htarget
    · exact ⟨_, hstep.base ▸ hbase⟩
    · rw [hstep.interfaces, interfaceLinksOf, List.mem_filterMap] at hinterface
      obtain ⟨name, -, hname⟩ := hinterface
      exact ⟨some name, hname⟩
    · exact ⟨_, hstep.aliasTarget ▸ htarget⟩
  obtain ⟨name, hname⟩ := hfound
  obtain ⟨member, hmember, heq, -⟩ := exists_of_linkTo? hname
  exact ⟨member, hmember, heq⟩

/-! ## Adding beans -/

/-- An added bean takes no name away. -/
theorem names_subset_add (registry : Registry) (bean : Bean) :
    registry.names ⊆ (registry.add bean).names := by
  intro name hname
  rw [← contains_iff, contains_eq] at hname ⊢
  rw [bean?_add]
  split
  · rfl
  · exact hname

/-- Apart from the added bean there are only beans that were there before. Their links may have been
marked, but neither a name nor a link is gone. -/
theorem mem_beans_add {new : Bean} (h : bean ∈ (registry.add new).beans) :
    bean = new ∨ ∃ before ∈ registry.beans, bean.unlinked = before.unlinked ∧
      bean.baseLink.isSome = before.baseLink.isSome ∧
      bean.aliasLink.isSome = before.aliasLink.isSome := by
  rcases List.mem_append.1 (show bean ∈ displace new.name registry.beans ++ [new] from h) with h | h
  · refine .inr ?_
    unfold displace at h
    split at h
    · obtain ⟨before, hbefore, rfl⟩ := List.mem_map.1 h
      exact ⟨before, List.mem_of_mem_filter hbefore, rfl, Option.isSome_map, Option.isSome_map⟩
    · exact ⟨bean, h, rfl, rfl, rfl⟩
  · exact .inl (List.mem_singleton.1 h)

/-- The registry without beans backs its links. -/
theorem backsLinks_empty : empty.BacksLinks :=
  ⟨fun _ hbean => absurd hbean List.not_mem_nil, fun _ hbean => absurd hbean List.not_mem_nil⟩

/-- Adding a bean that has no links yet keeps the links backed. -/
theorem BacksLinks.add (h : registry.BacksLinks) (new : Bean) :
    (registry.add new.unlinked).BacksLinks := by
  have hnames := names_subset_add registry new.unlinked
  refine ⟨fun bean hbean => ?_, fun bean hbean => ?_⟩
  · rcases mem_beans_add hbean with rfl | ⟨before, hbefore, hsame, hlink, -⟩
    · exact fun hlink => nomatch hlink
    · have hbase : bean.base = before.base := congrArg (·.base) hsame
      have hbacked := (h.base before hbefore).mono hnames
      unfold Backs at hbacked ⊢
      rwa [hbase, hlink]
  · rcases mem_beans_add hbean with rfl | ⟨before, hbefore, hsame, -, hlink⟩
    · exact fun hlink => nomatch hlink
    · have htarget : bean.aliasTarget = before.aliasTarget := congrArg (·.aliasTarget) hsame
      have hbacked := (h.aliasTarget before hbefore).mono hnames
      unfold Backs at hbacked ⊢
      rwa [htarget, hlink]

/-! ## Linking -/

/-- Without the elements seen before, the first of each text are the distinct ones among the rest. -/
theorem firstByKey_id (seen texts : List String) :
    Bean.firstByKey id seen texts = (texts.filter (!seen.contains ·)).eraseDups := by
  induction texts generalizing seen with
  | nil => rfl
  | cons text rest ih =>
    rw [Bean.firstByKey]
    by_cases hseen : seen.contains text = true
    · rw [if_pos (show seen.contains (id text) = true from hseen), ih,
        List.filter_cons_of_neg (by rw [hseen]; exact Bool.false_ne_true)]
    · rw [if_neg (show ¬seen.contains (id text) = true from hseen), ih,
        List.filter_cons_of_pos (by rw [Bool.eq_false_iff.2 hseen]; rfl), List.eraseDups_cons,
        List.filter_filter]
      have htest : ∀ other, (!(id text :: seen).contains other) =
          (!other == text && !seen.contains other) := by
        intro other
        rw [List.contains_cons, Bool.not_or]
        rfl
      rw [funext htest]

/-- Distinct texts are those in the order of their first occurrence. -/
theorem distinctTexts_eq (texts : List String) : distinctTexts texts = texts.eraseDups := by
  rw [distinctTexts, firstByKey_id]
  exact congrArg _ (List.filter_eq_self.2 fun _ _ => rfl)

/-- The empty name needs no test: there is no link for it. -/
theorem interfaceLinksOf_eq (registry : Registry) (interfaces : List String) :
    registry.interfaceLinksOf interfaces =
      interfaces.eraseDups.filterMap fun name => registry.linkTo? (some name) := by
  have hempty : ∀ name, (if (name != "") = true then registry.linkTo? (some name) else none) =
      registry.linkTo? (some name) := by
    intro name
    by_cases hname : name = ""
    · rw [hname, linkTo?_empty]
      rfl
    · rw [if_pos (by simpa using hname)]
  rw [interfaceLinksOf, List.filterMap_filter, funext hempty]

/-- Where the link before was backed, linking anew takes what the name calls for, and counts it. -/
theorem relinked_eq {before : Option Link} (h : registry.Backs name before) :
    relinked registry name before =
      (registry.linkTo? name, (registry.linkTo? name).toList.length) := by
  unfold relinked
  cases hlink : registry.linkTo? name with
  | some link => rfl
  | none =>
    cases before with
    | none => rfl
    | some link =>
      have hsome := h rfl
      rw [hlink] at hsome
      cases hsome

/-- A linked bean whose links were backed has the links that its names call for, and they are counted. -/
theorem linked_eq (hbase : registry.Backs bean.base bean.baseLink)
    (htarget : registry.Backs bean.aliasTarget bean.aliasLink) :
    registry.InStep (bean.linked registry).1 ∧
      (bean.linked registry).2 = (bean.linked registry).1.links.length := by
  have hlinked : bean.linked registry =
      ({ bean with
          baseLink := registry.linkTo? bean.base
          interfaceLinks := registry.interfaceLinksOf bean.interfaces
          aliasLink := registry.linkTo? bean.aliasTarget },
        (registry.linkTo? bean.base).toList.length +
          (registry.interfaceLinksOf bean.interfaces).length +
          (registry.linkTo? bean.aliasTarget).toList.length) := by
    rw [Bean.linked, relinked_eq hbase, relinked_eq htarget, distinctTexts_eq, interfaceLinksOf_eq]
  rw [hlinked]
  refine ⟨⟨rfl, rfl, rfl⟩, ?_⟩
  rw [Bean.links, List.length_append, List.length_append]

/-- Linking keeps the names. -/
theorem names_link (registry : Registry) : registry.link.1.names = registry.names :=
  names_update registry _

/-- Linking a registry that backs its links puts every bean in step. -/
theorem BacksLinks.inStep_link (h : registry.BacksLinks) (hbean : bean ∈ registry.link.1.beans) :
    registry.link.1.InStep bean := by
  rw [beans_link] at hbean
  obtain ⟨before, hbefore, rfl⟩ := List.mem_map.1 hbean
  have hstep := (linked_eq (h.base before hbefore) (h.aliasTarget before hbefore)).1
  exact hstep.congr registry.names_link.symm

/-- Linking keeps the links backed. -/
theorem BacksLinks.link (h : registry.BacksLinks) : registry.link.1.BacksLinks := by
  refine ⟨fun bean hbean => ?_, fun bean hbean => ?_⟩
  · rw [(h.inStep_link hbean).base]
    exact backs_linkTo? _ _
  · rw [(h.inStep_link hbean).aliasTarget]
    exact backs_linkTo? _ _

/-- Linking a registry that backs its links counts the links that the beans have then. -/
theorem BacksLinks.count_link (h : registry.BacksLinks) :
    registry.link.2 = total (registry.link.1.beans.map fun bean => bean.links.length) := by
  rw [beans_link, List.map_map]
  show total (registry.beans.map fun bean => (bean.linked registry).2) = _
  refine congrArg total (List.map_congr_left fun bean hbean => ?_)
  exact (linked_eq (h.base bean hbean) (h.aliasTarget bean hbean)).2

/-- A bean in step is linked already. -/
theorem InStep.linked_eq_self (hstep : registry.InStep bean) : (bean.linked registry).1 = bean := by
  have hbase : registry.Backs bean.base bean.baseLink := hstep.base ▸ backs_linkTo? _ _
  have htarget : registry.Backs bean.aliasTarget bean.aliasLink :=
    hstep.aliasTarget ▸ backs_linkTo? _ _
  rw [Bean.linked, relinked_eq hbase, relinked_eq htarget, distinctTexts_eq, ← interfaceLinksOf_eq,
    ← hstep.base, ← hstep.interfaces, ← hstep.aliasTarget]

/-- A registry is its list of beans. -/
theorem eq_of_beans_eq (h : registry.beans = other.beans) : registry = other := by
  cases registry
  cases other
  cases h
  rfl

/-- A registry whose beans are in step stays as it is when it is linked. -/
theorem link_fst_eq_self (h : ∀ bean ∈ registry.beans, registry.InStep bean) :
    registry.link.1 = registry := by
  refine eq_of_beans_eq ?_
  rw [beans_link]
  exact (List.map_congr_left fun bean hbean => (h bean hbean).linked_eq_self).trans (List.map_id _)

end

end Registry

end BeanGen

import BeanGen.Proofs.Bean.Creation
import Mathlib.Data.List.Nodup
import Mathlib.Data.List.Perm.Basic

/-!
# The order of the beans and the order of the declarations

A step takes the name of its declaration out of the list of beans and puts the new beans behind it
(`unlinkedBeans_enter`): the bean of the declaration, unless a helper of its own has displaced it, and
the helpers whose names were free (`Declaration.added`).

Declarations are unambiguous when no name is declared twice and no helper name is derived by two of them
(`Source.Unambiguous`). Then each declaration leaves one block of beans that does not depend on the
others but for the names they declare (`Declaration.block`), and the beans of a run are these blocks in
the order of the declarations (`unlinkedBeans_ofDeclarations`). So another order of the declarations
gives the same beans in another order (`unlinkedBeans_perm`), but the helpers of one owner in the same
(`filter_owner_perm`).
-/

namespace BeanGen

open Source (Declaration)

/-! ## What a step does to the list of beans -/

/-- The beans that a declaration adds next to its helpers: its own, unless a helper takes its name. -/
def Source.Declaration.added (path : String) (decl : Declaration) (helpers : List Bean) : List Bean :=
  (if helpers.any (·.name == decl.name) then [] else [decl.bean path]) ++ helpers

section
variable {registry : Registry} {path : String} {decl : Declaration}

/-- One more member adds its helper to those with free names as it adds it to all, if its name is
free. -/
theorem withHelper_filter (registry : Registry) (owner path : String) (made : List Bean)
    (property : Source.Property) :
    withHelper registry owner path (made.filter fun helper => !registry.contains helper.name) property =
      (withHelper .empty owner path made property).filter fun helper =>
        !registry.contains helper.name := by
  have hempty : ∀ name, Registry.empty.contains name = false := fun _ => rfl
  have hname : (helperBean owner path (helperName owner property) property).name =
      helperName owner property := rfl
  unfold withHelper
  rw [hempty, Bool.false_or]
  split
  · cases htaken : registry.contains (helperName owner property) with
    | true =>
      rw [Bool.true_or, if_pos rfl]
      split
      · rfl
      · rw [List.filter_append, List.filter_cons_of_neg (by rw [hname, htaken]; decide),
          List.filter_nil, List.append_nil]
    | false =>
      -- a helper of this name would be free, too, so it is among all when it is among the free
      have hany : (made.filter fun helper => !registry.contains helper.name).any
          (·.name == helperName owner property) =
            made.any (·.name == helperName owner property) := by
        rw [List.any_filter]
        refine List.any_congr rfl fun helper => ?_
        by_cases hsame : helper.name = helperName owner property
        · simp [hsame, htaken]
        · simp [hsame]
      rw [Bool.false_or, hany]
      split
      · rfl
      · rw [List.filter_append, List.filter_cons_of_pos (by rw [hname, htaken]; rfl), List.filter_nil]
  · rfl

/-- Whether a name is free decides for each helper on its own. -/
theorem Source.Declaration.helpers_eq_filter (registry : Registry) (path : String)
    (decl : Declaration) :
    decl.helpers registry path =
      (decl.helpers .empty path).filter fun helper => !registry.contains helper.name := by
  unfold helpers
  suffices ∀ made : List Bean,
      decl.members.foldl (withHelper registry decl.name path)
          (made.filter fun helper => !registry.contains helper.name) =
        (decl.members.foldl (withHelper .empty decl.name path) made).filter fun helper =>
          !registry.contains helper.name from this []
  induction decl.members with
  | nil => exact fun _ => rfl
  | cons property rest ih =>
    intro made
    rw [List.foldl_cons, List.foldl_cons, withHelper_filter, ih]

/-- A declaration adds the same helpers where the same of their names are taken. -/
theorem Source.Declaration.helpers_congr {registry other : Registry} {decl : Declaration}
    (h : ∀ name ∈ decl.helperNames, registry.contains name = other.contains name) (path : String) :
    decl.helpers registry path = decl.helpers other path := by
  rw [helpers_eq_filter registry, helpers_eq_filter other]
  refine List.filter_congr fun helper hhelper => ?_
  obtain ⟨property, hmember, hneeds, -, rfl⟩ := of_mem_helpers hhelper
  exact congrArg _ (h _ (mem_helperNames hmember hneeds))

/-- The helpers of a declaration have no links. -/
theorem Source.Declaration.map_unlinked_helpers (registry : Registry) (path : String)
    (decl : Declaration) :
    (decl.helpers registry path).map Bean.unlinked = decl.helpers registry path := by
  conv_rhs => rw [← List.map_id (decl.helpers registry path)]
  refine List.map_congr_left fun helper hhelper => ?_
  obtain ⟨property, -, -, -, rfl⟩ := of_mem_helpers hhelper
  rfl

/-- A step takes the name of the declaration out of the list and puts the beans it adds behind. -/
theorem Registry.unlinkedBeans_enter (registry : Registry) (entry : String × Declaration) :
    (registry.enter entry).unlinkedBeans =
      registry.unlinkedBeans.filter (·.name != entry.2.name) ++
        entry.2.added entry.1 (entry.2.helpers registry entry.1) := by
  obtain ⟨path, decl⟩ := entry
  have hfree : ∀ bean ∈ registry.unlinkedBeans,
      ((decl.helpers registry path).map (·.name)).contains bean.name = false := by
    intro bean hbean
    rw [← Bool.not_eq_true, List.contains_iff_mem]
    intro hmem
    obtain ⟨helper, hhelper, hname⟩ := List.mem_map.1 hmem
    obtain ⟨property, -, -, hfree, rfl⟩ := Declaration.of_mem_helpers hhelper
    have hcontains : registry.contains bean.name = true := by
      rw [contains_iff, ← names_unlinkedBeans]
      exact List.mem_map_of_mem hbean
    rw [← hname] at hcontains
    exact Bool.false_ne_true (hfree.symm.trans hcontains)
  have hold : (registry.unlinkedBeans.filter (·.name != decl.name)).filter
        (fun bean => !((decl.helpers registry path).map (·.name)).contains bean.name) =
      registry.unlinkedBeans.filter (·.name != decl.name) :=
    List.filter_eq_self.2 fun bean hbean => by
      rw [hfree bean (List.mem_of_mem_filter hbean), Bool.not_false]
  have hown : [decl.bean path].filter
        (fun bean => !((decl.helpers registry path).map (·.name)).contains bean.name) =
      if (decl.helpers registry path).any (·.name == decl.name) then [] else [decl.bean path] := by
    have htaken : ((decl.helpers registry path).map (·.name)).contains decl.name =
        (decl.helpers registry path).any (·.name == decl.name) := by
      rw [List.contains_eq_any_beq, List.any_map]
      refine List.any_congr rfl fun helper => ?_
      exact Bool.beq_comm
    rw [List.filter_singleton, Declaration.bean_name, htaken]
    cases (decl.helpers registry path).any (·.name == decl.name) <;> rfl
  rw [enter, unlinkedBeans_addAll (decl.nodup_helpers registry path), unlinkedBeans_add,
    List.filter_append, Declaration.bean_name, Declaration.bean_unlinked, hold, hown,
    Declaration.map_unlinked_helpers, Declaration.added, List.append_assoc]

end

/-! ## Changed declarations -/

/-- Where a change of declarations changes each bean by `g` and no name, it changes all beans by `g`. -/
theorem Registry.unlinkedBeans_map {f : String × Declaration → String × Declaration}
    {g : Bean → Bean} (hname : ∀ bean, (g bean).name = bean.name)
    (hbean : ∀ entry, (f entry).2.bean (f entry).1 = g (entry.2.bean entry.1))
    (hhelpers : ∀ registry entry,
      (f entry).2.helpers registry (f entry).1 = (entry.2.helpers registry entry.1).map g)
    (entries : List (String × Declaration)) :
    (ofDeclarations (entries.map f)).unlinkedBeans =
      (ofDeclarations entries).unlinkedBeans.map g := by
  have hdeclared : ∀ entry, (f entry).2.name = entry.2.name := by
    intro entry
    have h := congrArg Bean.name (hbean entry)
    rwa [hname, Declaration.bean_name, Declaration.bean_name] at h
  have hadded : ∀ entry helpers, (f entry).2.added (f entry).1 (helpers.map g) =
      (entry.2.added entry.1 helpers).map g := by
    intro entry helpers
    have hany : (helpers.map g).any (·.name == entry.2.name) =
        helpers.any (·.name == entry.2.name) := by
      rw [List.any_map]
      exact List.any_congr rfl fun bean => by rw [Function.comp_apply, hname]
    unfold Declaration.added
    rw [hdeclared, hany, hbean, List.map_append]
    split <;> rfl
  induction entries using List.reverseRecOn with
  | nil => rfl
  | append_singleton entries entry ih =>
    have hnames : (ofDeclarations (entries.map f)).names = (ofDeclarations entries).names := by
      rw [← names_unlinkedBeans, ih, List.map_map, ← names_unlinkedBeans]
      exact List.map_congr_left fun bean _ => hname bean
    have hfree : ∀ name ∈ (f entry).2.helperNames, (ofDeclarations (entries.map f)).contains name =
        (ofDeclarations entries).contains name := fun name _ => by
      rw [Bool.eq_iff_iff, contains_iff, contains_iff, hnames]
    have hother : ((fun bean : Bean => bean.name != entry.2.name) ∘ g) = (·.name != entry.2.name) :=
      funext fun bean => by rw [Function.comp_apply, hname]
    rw [List.map_append, List.map_singleton, ofDeclarations_concat, ofDeclarations_concat,
      unlinkedBeans_enter, unlinkedBeans_enter, ih,
      Declaration.helpers_congr hfree, hhelpers, hadded,
      List.map_append, List.filter_map, hdeclared, hother]

/-! ## Blocks of beans -/

/-- No name is declared twice, and no helper name is derived by two declarations. -/
structure Source.Unambiguous (entries : List (String × Declaration)) : Prop where
  declared : (entries.map (·.2.name)).Nodup
  derived : entries.Pairwise fun a b => a.2.helperNames.Disjoint b.2.helperNames

/-- The beans that a declaration leaves when the names in `declared` are declared: a helper gives way
to a declaration of its name, except to the one that it is a helper of. -/
def Source.Declaration.block (declared : List String) (entry : String × Declaration) : List Bean :=
  entry.2.added entry.1 <| (entry.2.helpers .empty entry.1).filter fun helper =>
    helper.name == entry.2.name || !declared.contains helper.name

namespace Source

section
variable {entries : List (String × Declaration)} {entry : String × Declaration}

/-- The declarations but the last are unambiguous, too, and the last one declares and derives other
names. -/
theorem Unambiguous.of_concat (h : Unambiguous (entries ++ [entry])) :
    Unambiguous entries ∧ entry.2.name ∉ entries.map (·.2.name) ∧
      ∀ other ∈ entries, other.2.helperNames.Disjoint entry.2.helperNames := by
  have hdeclared := h.declared
  rw [List.map_append, List.nodup_append] at hdeclared
  have hderived := List.pairwise_append.1 h.derived
  refine ⟨⟨hdeclared.1, hderived.1⟩, fun hmem => ?_, fun other hother => ?_⟩
  · exact hdeclared.2.2 _ hmem _ (List.mem_singleton_self _) rfl
  · exact hderived.2.2 other hother entry (List.mem_singleton_self _)

/-- Whether declarations are unambiguous does not depend on their order. -/
theorem Unambiguous.perm {entries' : List (String × Declaration)} (h : Unambiguous entries)
    (hperm : entries.Perm entries') : Unambiguous entries' := by
  refine ⟨(hperm.map _).nodup_iff.1 h.declared, ?_⟩
  refine (hperm.pairwise_iff fun hdisjoint => ?_).1 h.derived
  intro name hname hother
  exact hdisjoint hother hname

/-- A block depends on the declared names only. -/
theorem Declaration.block_congr {declared declared' : List String}
    (h : ∀ name, name ∈ declared ↔ name ∈ declared') : block declared = block declared' := by
  have hcontains : ∀ name, declared.contains name = declared'.contains name := fun name => by
    rw [Bool.eq_iff_iff, List.contains_iff_mem, List.contains_iff_mem, h]
  funext entry
  unfold block
  simp only [hcontains]

/-- The owner of the helpers in a block is the declaration. -/
theorem Declaration.owner_of_mem_block {declared : List String} {bean : Bean}
    (h : bean ∈ block declared entry) : bean.owner = none ∨ bean.owner = some entry.2.name := by
  unfold block added at h
  rcases List.mem_append.1 h with hown | hhelper
  · split at hown
    · cases hown
    · obtain rfl := List.mem_singleton.1 hown
      exact .inl (bean_owner _ _)
  · obtain ⟨property, -, -, -, rfl⟩ := of_mem_helpers (List.mem_of_mem_filter hhelper)
    exact .inr rfl

end

end Source

namespace Registry

section
variable {entries : List (String × Declaration)} {entry : String × Declaration}

open Source (Unambiguous)

/-- Behind unambiguous declarations a helper name of the next one is free unless it is declared. -/
theorem contains_helper (h : Unambiguous (entries ++ [entry])) {name : String}
    (hname : name ∈ entry.2.helperNames) :
    (ofDeclarations entries).contains name = (entries.map (·.2.name)).contains name := by
  obtain ⟨-, -, hderived⟩ := h.of_concat
  rw [Bool.eq_iff_iff, contains_iff, mem_names_ofDeclarations, List.contains_iff_mem, List.mem_map]
  refine exists_congr fun other => and_congr_right fun hother => ?_
  rw [Declaration.names, List.mem_cons, or_iff_left fun hmem => hderived other hother hmem hname]
  exact eq_comm

/-- What an unambiguous declaration adds behind others is its block. -/
theorem added_eq_block (h : Unambiguous (entries ++ [entry])) :
    entry.2.added entry.1 (entry.2.helpers (ofDeclarations entries) entry.1) =
      Declaration.block ((entries ++ [entry]).map (·.2.name)) entry := by
  rw [Declaration.block, Declaration.helpers_eq_filter (ofDeclarations entries)]
  refine congrArg (entry.2.added entry.1) (List.filter_congr fun helper hhelper => ?_)
  obtain ⟨property, hmember, hneeds, -, rfl⟩ := Declaration.of_mem_helpers hhelper
  have hderives := Declaration.mem_helperNames hmember hneeds
  have hname : (helperBean entry.2.name entry.1 (helperName entry.2.name property) property).name =
      helperName entry.2.name property := rfl
  obtain ⟨-, hnew, -⟩ := h.of_concat
  rw [hname, contains_helper h hderives, List.map_append, List.map_singleton]
  by_cases hown : helperName entry.2.name property = entry.2.name
  · simpa [hown] using hnew
  · have hother : entry.2.name ≠ helperName entry.2.name property := fun heq => hown heq.symm
    rw [beq_false_of_ne hown, Bool.false_or]
    simp [hother.symm]

/-- A declaration of another name takes out of a block what has this name. -/
theorem filter_block {declared : List String} {name : String} (hne : entry.2.name ≠ name) :
    (Declaration.block declared entry).filter (·.name != name) =
      Declaration.block (declared ++ [name]) entry := by
  obtain ⟨path, decl⟩ := entry
  have hne : decl.name ≠ name := hne
  generalize hhelpers : decl.helpers .empty path = helpers
  have htest : ∀ helper : Bean,
      ((helper.name == decl.name || !(declared ++ [name]).contains helper.name) =
        ((helper.name != name) && (helper.name == decl.name || !declared.contains helper.name))) := by
    intro helper
    by_cases hown : helper.name = decl.name
    · simp [hown, hne]
    · rw [beq_false_of_ne hown]
      by_cases hname : helper.name = name <;> simp [hname]
  have hfilter : helpers.filter (fun helper => helper.name == decl.name ||
        !(declared ++ [name]).contains helper.name) =
      (helpers.filter fun helper => helper.name == decl.name ||
        !declared.contains helper.name).filter (·.name != name) := by
    rw [List.filter_filter]
    exact List.filter_congr fun helper _ => htest helper
  have hany : (helpers.filter fun helper => helper.name == decl.name ||
        !(declared ++ [name]).contains helper.name).any (·.name == decl.name) =
      (helpers.filter fun helper => helper.name == decl.name ||
        !declared.contains helper.name).any (·.name == decl.name) := by
    rw [List.any_filter, List.any_filter]
    refine List.any_congr rfl fun helper => ?_
    cases helper.name == decl.name <;> simp
  have hself : [decl.bean path].filter (·.name != name) = [decl.bean path] := by
    simpa using hne
  simp only [Declaration.block, Declaration.added, hhelpers, hany, List.filter_append]
  rw [hfilter]
  refine congrArg (· ++ _) ?_
  split
  · rfl
  · exact hself

/-- The beans of unambiguous declarations are their blocks, one behind the other. -/
theorem unlinkedBeans_ofDeclarations (h : Unambiguous entries) :
    (ofDeclarations entries).unlinkedBeans =
      entries.flatMap (Declaration.block (entries.map (·.2.name))) := by
  induction entries using List.reverseRecOn with
  | nil => rfl
  | append_singleton entries entry ih =>
    obtain ⟨hfront, hnew, -⟩ := h.of_concat
    rw [ofDeclarations_concat, unlinkedBeans_enter, ih hfront, added_eq_block h, List.flatMap_append,
      List.flatMap_singleton, List.filter_flatMap]
    refine congrArg (· ++ _) (List.flatMap_congr fun other hother => ?_)
    have hne : other.2.name ≠ entry.2.name := fun heq =>
      hnew (heq ▸ List.mem_map_of_mem hother)
    rw [filter_block hne, List.map_append, List.map_singleton]

/-! ## Another order of the declarations -/

section
variable {entries' : List (String × Declaration)}

/-- Another order of unambiguous declarations makes the same beans in another order. -/
theorem unlinkedBeans_perm (h : Unambiguous entries) (hperm : entries.Perm entries') :
    (ofDeclarations entries).unlinkedBeans.Perm (ofDeclarations entries').unlinkedBeans := by
  have hnames : ∀ name, name ∈ entries.map (·.2.name) ↔ name ∈ entries'.map (·.2.name) :=
    fun _ => (hperm.map _).mem_iff
  rw [unlinkedBeans_ofDeclarations h, unlinkedBeans_ofDeclarations (h.perm hperm),
    Declaration.block_congr hnames]
  exact hperm.flatMap_right _

/-- The helpers of one owner are those in the block of its declaration. -/
theorem filter_owner_eq (h : Unambiguous entries) (owner : String) :
    (ofDeclarations entries).unlinkedBeans.filter (·.owner == some owner) =
      (entries.filter (·.2.name == owner)).flatMap fun entry =>
        (Declaration.block (entries.map (·.2.name)) entry).filter (·.owner == some owner) := by
  rw [unlinkedBeans_ofDeclarations h, List.filter_flatMap]
  generalize entries.map (·.2.name) = declared
  clear h
  induction entries with
  | nil => rfl
  | cons entry rest ih =>
    rw [List.flatMap_cons, ih]
    by_cases howner : entry.2.name = owner
    · rw [List.filter_cons_of_pos (by simpa using howner), List.flatMap_cons]
    · have hnone : (Declaration.block declared entry).filter (·.owner == some owner) = [] := by
        refine List.filter_eq_nil_iff.2 fun bean hbean => ?_
        rcases Declaration.owner_of_mem_block hbean with hown | hown
        · simp [hown]
        · simpa [hown] using howner
      rw [List.filter_cons_of_neg (by simpa using howner), hnone, List.nil_append]

/-- Another order of unambiguous declarations leaves the helpers of an owner in their order. -/
theorem filter_owner_perm (h : Unambiguous entries) (hperm : entries.Perm entries')
    (owner : String) :
    (ofDeclarations entries).unlinkedBeans.filter (·.owner == some owner) =
      (ofDeclarations entries').unlinkedBeans.filter (·.owner == some owner) := by
  have hnames : ∀ name, name ∈ entries.map (·.2.name) ↔ name ∈ entries'.map (·.2.name) :=
    fun _ => (hperm.map _).mem_iff
  have hcount : (entries.filter (·.2.name == owner)).length ≤ 1 := by
    have hle := List.nodup_iff_count_le_one.1 h.declared owner
    rwa [List.count, List.countP_map, List.countP_eq_length_filter] at hle
  have hfilter := hperm.filter (·.2.name == owner)
  rw [filter_owner_eq h, filter_owner_eq (h.perm hperm), Declaration.block_congr hnames]
  -- at most one declaration has the name, and a list of one element has no other order
  generalize entries.filter (·.2.name == owner) = owners at hcount hfilter
  match owners with
  | [] => rw [hfilter.nil_eq]
  | [entry] => rw [List.singleton_perm.1 hfilter]
  | _ :: _ :: _ => simp at hcount

end

end

end Registry

end BeanGen

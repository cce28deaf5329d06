import BeanGen.Proofs.Bean.Creation

/-!
# Helpers and the fields they are made for

A helper is made along with a field of its owner that has it for its type. Only names tie the two
together afterwards. When a later declaration replaces the owner, the helpers stay, and the new owner
may have no field of their type. So it is the last declaration of the owner's name that decides: the
owner of a helper has a field of its type exactly when this declaration gives it one
(`ownedByField_iff_of_last`). As everywhere, the exception is a declaration that a helper of its own
displaces. Without it, and without names that are declared twice, each helper has such a field
(`ownedByField_of_nodup`).
-/

namespace BeanGen

open Source (Declaration)

/-- The owner of the helper is in the registry, it is no helper itself, and the helper is the type of one
of its fields. -/
def Registry.OwnedByField (registry : Registry) (helper : Bean) : Prop :=
  ∃ host ∈ registry.beans, helper.owner = some host.name ∧ host.isHelper = false ∧
    ∃ field ∈ host.fields, field.type = helper.name

instance (registry : Registry) (helper : Bean) : Decidable (registry.OwnedByField helper) :=
  inferInstanceAs (Decidable (∃ host ∈ registry.beans, _))

/-- Of the elements with a property one is the last. -/
theorem exists_last {α : Type} {P : α → Prop} {as : List α} (h : ∃ a ∈ as, P a) :
    ∃ front last back, as = front ++ last :: back ∧ P last ∧ ∀ later ∈ back, ¬P later := by
  induction as with
  | nil =>
    obtain ⟨_, hmem, -⟩ := h
    cases hmem
  | cons first rest ih =>
    by_cases hrest : ∃ a ∈ rest, P a
    · obtain ⟨front, last, back, rfl, hlast, hback⟩ := ih hrest
      exact ⟨first :: front, last, back, rfl, hlast, hback⟩
    · have hback : ∀ later ∈ rest, ¬P later := fun later hlater hP => hrest ⟨later, hlater, hP⟩
      obtain ⟨a, hmem, hP⟩ := h
      rcases List.mem_cons.1 hmem with rfl | hmem
      · exact ⟨[], a, rest, rfl, hP, hback⟩
      · exact absurd hP (hback a hmem)

/-- The owner of a helper has been declared. -/
theorem MadeFrom.exists_of_owner {entries : List (String × Declaration)} {bean : Bean}
    {owner : String} (h : MadeFrom entries bean) (howner : bean.owner = some owner) :
    ∃ entry ∈ entries, entry.2.name = owner := by
  cases h with
  | declared =>
    rw [Declaration.bean_owner] at howner
    cases howner
  | helper hdecl => exact ⟨_, hdecl, Option.some.inj howner⟩

namespace Registry

section
variable {back : List (String × Declaration)} {decl : Declaration}

/-- The last declaration of a name gives the bean of that name, unless a helper of its own takes it. What
stands there otherwise is a helper. -/
theorem bean?_last_cases (front : List (String × Declaration)) (path : String)
    (hback : ∀ later ∈ back, later.2.name ≠ decl.name) :
    ∃ host, (ofDeclarations (front ++ (path, decl) :: back)).bean? decl.name = some host ∧
      if decl.derivesOwnName ∧ ∀ entry ∈ front, decl.name ∉ entry.2.names then host.isHelper = true
      else host = decl.bean path := by
  split
  · next hown =>
    obtain ⟨host, hhost, -, howner⟩ := bean?_last_of_derivesOwnName path hback hown.1 hown.2
    refine ⟨host, hhost, ?_⟩
    rw [Bean.isHelper, howner]
    rfl
  · next hkept =>
    refine ⟨_, bean?_last hback fun hown => ?_, rfl⟩
    by_contra hnone
    exact hkept ⟨hown, fun entry hentry hname => hnone ⟨entry, hentry, hname⟩⟩

end

section
variable {files : Source.Files} {helper : Bean}

/-- The owner of a helper has a field of its type exactly when the last declaration of the owner's name has
one, and is not displaced by a helper of its own. -/
theorem ownedByField_iff_of_last {front back : List (String × Declaration)} {path : String}
    {decl : Declaration} (hsplit : files.declarations = front ++ (path, decl) :: back)
    (hback : ∀ later ∈ back, later.2.name ≠ decl.name) (howner : helper.owner = some decl.name) :
    (ofFiles files).OwnedByField helper ↔
      (∃ field ∈ (decl.bean path).fields, field.type = helper.name) ∧
        ¬(decl.derivesOwnName ∧ ∀ entry ∈ front, decl.name ∉ entry.2.names) := by
  obtain ⟨host, hhost, hspec⟩ := bean?_last_cases front path hback
  rw [← hsplit, ← ofFiles_eq] at hhost
  obtain ⟨member, hmember, hname, rfl⟩ := exists_mem_of_bean? hhost
  -- beans have distinct names, so the owner is the one that stands under the name
  have howned : (ofFiles files).OwnedByField helper ↔ member.unlinked.isHelper = false ∧
      ∃ field ∈ member.unlinked.fields, field.type = helper.name := by
    constructor
    · rintro ⟨other, hother, hnamed, hfield⟩
      have hsame : other.name = member.name :=
        (Option.some.inj (hnamed.symm.trans howner)).trans hname.symm
      obtain rfl := eq_of_name_eq hother hmember hsame
      exact hfield
    · intro hfield
      exact ⟨member, hmember, howner.trans (congrArg some hname.symm), hfield⟩
  rw [howned]
  split at hspec
  · next hown =>
    rw [hspec]
    exact iff_of_false (fun h => Bool.noConfusion h.1) fun h => h.2 hown
  · next hkept =>
    rw [hspec, Bean.isHelper, Declaration.bean_owner, and_comm]
    exact and_congr_right fun _ => iff_of_true rfl hkept

/-- Where no name is declared twice and no declaration derives its own name, every helper has a field of its
owner. -/
theorem ownedByField_of_nodup (hnodup : (files.declarations.map (·.2.name)).Nodup)
    (hown : ∀ entry ∈ files.declarations, ¬entry.2.derivesOwnName)
    (hmem : helper ∈ (ofFiles files).beans) (hhelper : helper.isHelper = true) :
    (ofFiles files).OwnedByField helper := by
  have hmade := madeFrom_of_mem hmem
  have howner : helper.owner = helper.unlinked.owner := rfl
  have hname : helper.name = helper.unlinked.name := rfl
  rw [Bean.isHelper, howner] at hhelper
  generalize helper.unlinked = view at hmade howner hname hhelper
  cases hmade with
  | declared =>
    rw [Declaration.bean_owner] at hhelper
    cases hhelper
  | @helper path decl property hdecl hmember hneeds =>
    obtain ⟨front, back, hsplit⟩ := List.append_of_mem hdecl
    rw [hsplit, List.map_append, List.nodup_append, List.map_cons, List.nodup_cons] at hnodup
    have hback : ∀ later ∈ back, later.2.name ≠ decl.name := fun later hlater heq =>
      hnodup.2.1.1 (List.mem_map.2 ⟨later, hlater, heq⟩)
    refine (ownedByField_iff_of_last hsplit hback howner).2 ⟨?_, fun h => hown _ hdecl h.1⟩
    rw [Declaration.fields_bean path (List.ne_nil_of_mem hmember), hname]
    refine ⟨_, List.mem_map_of_mem hmember, ?_⟩
    rw [Field.ofMember, if_pos hneeds]
    rfl

/-- Every helper has a last declaration of its owner's name, and the owner has a field of the helper's type
exactly when this declaration has one and is not displaced by a helper of its own. -/
theorem ownedByField_iff {owner : String} (hmem : helper ∈ (ofFiles files).beans)
    (howner : helper.owner = some owner) :
    ∃ front path decl back, files.declarations = front ++ (path, decl) :: back ∧
      decl.name = owner ∧ (∀ later ∈ back, later.2.name ≠ owner) ∧
      ((ofFiles files).OwnedByField helper ↔
        (∃ field ∈ (decl.bean path).fields, field.type = helper.name) ∧
          ¬(decl.derivesOwnName ∧ ∀ entry ∈ front, owner ∉ entry.2.names)) := by
  obtain ⟨front, ⟨path, decl⟩, back, hsplit, hname, hback⟩ :=
    exists_last ((madeFrom_of_mem hmem).exists_of_owner howner)
  change decl.name = owner at hname
  subst hname
  exact ⟨front, path, decl, back, hsplit, rfl, hback, ownedByField_iff_of_last hsplit hback howner⟩

end

end Registry

/-- A member of directional type: `b: { n: string }`. -/
def directionalProperty : Source.Property where
  name := "b"
  type := "\x7b n: string \x7d"
  members := some [{ name := "n", type := "string" }]

/-- One interface with the member: `interface A { b: { n: string } }`. -/
def directionalFiles : Source.Files :=
  [{ path := "/p/a.ts", interfaces := [{ name := "A", properties := [directionalProperty] }] }]

/-- The helper of the member. -/
def directionalHelper : Bean :=
  helperBean "A" "/p/a.ts" "AB" directionalProperty

/-- The helper has a field of its owner, which the only declaration gives it. -/
theorem ownedByField_directionalHelper :
    directionalHelper ∈ (Registry.ofFiles directionalFiles).beans ∧
      directionalHelper.owner = some "A" ∧
      (Registry.ofFiles directionalFiles).OwnedByField directionalHelper := by
  have hmem : directionalHelper ∈ (Registry.ofFiles directionalFiles).beans := .tail _ (.head _)
  have howner : directionalHelper.owner = some "A" := rfl
  refine ⟨hmem, howner, ?_⟩
  obtain ⟨front, path, decl, back, hsplit, -, -, howned⟩ := Registry.ownedByField_iff hmem howner
  cases front with
  | nil =>
    cases hsplit
    exact howned.2 ⟨⟨_, .head _, rfl⟩, by decide⟩
  | cons first rest =>
    have hlength := congrArg List.length hsplit
    simp [directionalFiles, Source.Files.declarations, Source.File.declarations] at hlength

/-- The interface is declared again without the member: `interface A {}`. -/
def redeclaredOwner : Source.Files :=
  [{ path := "/p/a.ts"
     interfaces := [{ name := "A", properties := [directionalProperty] }, { name := "A" }] }]

/-- Not every helper has a field of its owner: the helper of the member stays when its owner is declared
again without the member. -/
theorem not_forall_ownedByField :
    ¬∀ (files : Source.Files), ∀ helper ∈ (Registry.ofFiles files).beans,
      helper.isHelper = true → (Registry.ofFiles files).OwnedByField helper := by
  intro h
  have howned := h redeclaredOwner
  revert howned
  decide

end BeanGen

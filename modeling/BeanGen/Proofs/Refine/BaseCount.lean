import BeanGen.Proofs.Refine.FinalBases
import BeanGen.Proofs.Refine.TypeNames

/-!
# What the last pass counts

The last pass ought to count the beans whose base changes. But it goes through three steps with each bean and
counts every step that does something. Two steps may follow one another: a base is dropped or taken away and
the default one is handed out, or a base is replaced by the class that every class extends, which is then taken
away. And one step may do nothing: a base is replaced by itself. These are the beans that are counted too often
(`Bean.IsOvercounted`). No bean is counted too seldom, so the number is right exactly when there are no such
beans (`count_bases_iff`).
-/

namespace BeanGen

open Text

/-- The number of beans that have another base in the second registry, place by place. -/
def Registry.changedBases (before after : Registry) : Nat :=
  (before.beans.zip after.beans).countP fun (old, new) => new.base != old.base

/-- The last pass counts the bean more often than its base changes. -/
inductive Bean.IsOvercounted (registry : Registry) (config : Config) (bean : Bean) : Prop where
  /-- An unknown base is replaced by itself. -/
  | replacedByItself {base : String} (hunknown : bean.HasUnknownBase registry base)
      (h : config.baseFor? base = some base) : bean.IsOvercounted registry config
  /-- An unknown base is replaced by the class that every class extends. -/
  | replacedByRoot {base new : String} (hunknown : bean.HasUnknownBase registry base)
      (h : config.baseFor? base = some new) (hroot : Java.isRootObject new = true) :
      bean.IsOvercounted registry config
  /-- The default base takes the place of another one. -/
  | defaultInstead {base : String} (hbase : bean.base = some base) (hne : base ≠ "")
      (htakes : bean.takesDefaultBase registry config = true) : bean.IsOvercounted registry config

/-- A number is 0 or 1 as nothing or something has changed, unless it is too high. -/
structure Tallies (changes : Bool) (count : Nat) (tooHigh : Prop) : Prop where
  le : (if changes then 1 else 0) ≤ count
  eq_iff : count = (if changes then 1 else 0) ↔ ¬tooHigh

section
variable {changes : Bool} {count : Nat} {tooHigh : Prop}

/-- Two is too high. -/
theorem Tallies.of_two_le (hcount : 2 ≤ count) (hover : tooHigh) : Tallies changes count tooHigh := by
  constructor
  · split <;> omega
  · refine iff_of_false (fun heq => ?_) (not_not.2 hover)
    split at heq <;> omega

/-- A number that is as it should be is not too high. -/
theorem Tallies.of_eq (hcount : count = if changes then 1 else 0) (hover : ¬tooHigh) :
    Tallies changes count tooHigh :=
  ⟨hcount.ge, iff_of_true hcount hover⟩

/-- Totals of numbers, each at most as high as another one, are equal exactly when the numbers are. -/
theorem total_map_eq_iff {α : Type} {f g : α → Nat} {as : List α} (h : ∀ a ∈ as, f a ≤ g a) :
    total (as.map f) ≤ total (as.map g) ∧
      (total (as.map g) = total (as.map f) ↔ ∀ a ∈ as, g a = f a) := by
  induction as with
  | nil => simp
  | cons a as ih =>
    rw [List.forall_mem_cons] at h
    obtain ⟨hle, hiff⟩ := ih h.2
    rw [List.map_cons, List.map_cons, total_cons, total_cons, List.forall_mem_cons, ← hiff]
    omega

end

namespace Bean

section
variable {registry : Registry} {config : Config} {bean : Bean} {base : String}

/-! ## The three steps -/

/-- The first step counts a base of which nothing is known. -/
theorem count_withKnownBase_of_unknown (table : Config.Table) (h : bean.HasUnknownBase registry base) :
    (bean.withKnownBase registry table).2 = 1 := by
  obtain ⟨-, hbase, hopen⟩ := hasUnknownBase_iff.1 h
  rw [withKnownBase, hbase]
  dsimp only
  rw [if_neg (by rw [hopen]; exact Bool.false_ne_true)]
  split <;> rfl

/-- The first step does nothing about any other base. -/
theorem withKnownBase_of_known (table : Config.Table) (hdeclares : bean.declaresBase = true)
    (h : ∀ base, ¬ bean.HasUnknownBase registry base) : bean.withKnownBase registry table = (bean, 0) := by
  rw [withKnownBase]
  cases hbase : bean.base with
  | none => rfl
  | some base =>
    dsimp only
    rw [if_pos (blank_or_known_of_not_hasUnknownBase hdeclares hbase h)]

/-- The second step counts the class that every class extends. -/
theorem count_withoutRootBase (bean : Bean) :
    bean.withoutRootBase.2 = if bean.base.any Java.isRootObject then 1 else 0 := by
  rw [withoutRootBase]
  cases bean.base with
  | none => rfl
  | some base =>
    dsimp only
    rw [bne_and_isRootObject, Option.any_some]
    split <;> rfl

/-- The third step counts the beans that get the default base. -/
theorem count_withDefaultBase (registry : Registry) (default : String) (bean : Bean) :
    (bean.withDefaultBase registry default).2 = if bean.lacksBase default then 1 else 0 := by
  rw [withDefaultBase]
  split <;> rfl

/-- The pass counts what its steps count. -/
theorem count_withBase (registry : Registry) (config : Config) (bean : Bean) :
    (bean.withBase registry config).2 =
      (if bean.declaresBase then
          (bean.withKnownBase registry config.interfaceExtendsMappings).2
        else 0) +
        (if (if bean.declaresBase then
            (bean.withKnownBase registry config.interfaceExtendsMappings).1
          else bean).base.any Java.isRootObject then 1 else 0) +
        if bean.takesDefaultBase registry config then 1 else 0 := by
  rw [← lacksBase_withOwnBase, ← count_withoutRootBase, ← count_withDefaultBase registry, withOwnBase]
  by_cases hdeclares : bean.declaresBase = true
  · simp only [withBase, if_pos hdeclares, Config.defaultBase]
  · simp only [withBase, if_neg hdeclares, Config.defaultBase]

/-- Where nothing is known of the base, the pass counts that it goes, and what happens to the one in its
place. -/
theorem count_withBase_of_unknown (config : Config) (h : bean.HasUnknownBase registry base) :
    (bean.withBase registry config).2 =
      1 + (if (config.baseFor? base).any Java.isRootObject then 1 else 0) +
        if bean.takesDefaultBase registry config then 1 else 0 := by
  obtain ⟨hdeclares, hbase, hopen⟩ := hasUnknownBase_iff.1 h
  have hnew : (bean.withKnownBase registry config.interfaceExtendsMappings).1.base =
      config.baseFor? base := by
    rw [base_withKnownBase registry _ hbase, hopen]
    rfl
  rw [count_withBase, if_pos hdeclares, if_pos hdeclares, count_withKnownBase_of_unknown _ h, hnew]

/-- Any other base is counted where it is taken away and where the default one is handed out. -/
theorem count_withBase_of_known (config : Config) (h : ∀ base, ¬ bean.HasUnknownBase registry base) :
    (bean.withBase registry config).2 =
      (if bean.base.any Java.isRootObject then 1 else 0) +
        if bean.takesDefaultBase registry config then 1 else 0 := by
  rw [count_withBase]
  by_cases hdeclares : bean.declaresBase = true
  · rw [if_pos hdeclares, if_pos hdeclares, withKnownBase_of_known _ hdeclares h, Nat.zero_add]
  · rw [if_neg hdeclares, if_neg hdeclares, Nat.zero_add]

/-! ## One bean -/

/-- A bean with an unknown base is counted too often when it gets the default base, or another one that does not
change it or does not stay. -/
theorem isOvercounted_iff_of_unknown (h : bean.HasUnknownBase registry base) :
    bean.IsOvercounted registry config ↔ bean.takesDefaultBase registry config = true ∨
      ∃ new, config.baseFor? base = some new ∧ (new = base ∨ Java.isRootObject new = true) := by
  have hunique : ∀ other, bean.HasUnknownBase registry other → other = base := fun other hother =>
    Option.some.inj (hother.base_eq.symm.trans h.base_eq)
  constructor
  · intro hover
    cases hover with
    | replacedByItself hunknown hnew =>
      rw [hunique _ hunknown] at hnew
      exact .inr ⟨_, hnew, .inl rfl⟩
    | replacedByRoot hunknown hnew hroot =>
      rw [hunique _ hunknown] at hnew
      exact .inr ⟨_, hnew, .inr hroot⟩
    | defaultInstead _ _ htakes => exact .inl htakes
  · rintro (htakes | ⟨new, hnew, rfl | hroot⟩)
    · refine .defaultInstead h.base_eq ?_ htakes
      rintro rfl
      exact absurd h.nonblank (by decide)
    · exact .replacedByItself h hnew
    · exact .replacedByRoot h hnew hroot

/-- Any other bean is counted too often when it has a base and gets the default one in its place. -/
theorem isOvercounted_iff_of_known (h : ∀ base, ¬ bean.HasUnknownBase registry base) :
    bean.IsOvercounted registry config ↔
      bean.takesDefaultBase registry config = true ∧ ∃ base, bean.base = some base ∧ base ≠ "" := by
  constructor
  · intro hover
    cases hover with
    | replacedByItself hunknown | replacedByRoot hunknown => exact absurd hunknown (h _)
    | defaultInstead hbase hne htakes => exact ⟨htakes, _, hbase, hne⟩
  · rintro ⟨htakes, base, hbase, hne⟩
    exact .defaultInstead hbase hne htakes

variable (roots : Roots)

/-- A bean with an unknown base is counted once, unless something more happens to it or nothing at all. -/
theorem tallies_of_unknown (config : Config) (h : bean.HasUnknownBase registry base) :
    Tallies ((Pass.bases.onBean config roots registry bean).base != bean.base)
      (bean.withBase registry config).2 (bean.IsOvercounted registry config) := by
  rw [isOvercounted_iff_of_unknown h, count_withBase_of_unknown config h, Pass.base_bases,
    ownBase?_of_unknown config h, h.base_eq]
  by_cases htakes : bean.takesDefaultBase registry config = true
  · refine .of_two_le ?_ (.inl htakes)
    rw [if_pos htakes]
    omega
  rw [if_neg htakes, if_neg htakes]
  cases hnew : config.baseFor? base with
  | none => exact .of_eq (by simp) (by simp [htakes])
  | some new =>
    by_cases hroot : Java.isRootObject new = true
    · refine .of_two_le ?_ (.inr ⟨new, rfl, .inr hroot⟩)
      rw [Option.any_some, if_pos hroot]
    by_cases hsame : new = base
    · -- nothing changes, and yet the replacement is counted
      refine ⟨by simp [hsame], iff_of_false ?_ (not_not.2 (.inr ⟨new, rfl, .inl hsame⟩))⟩
      simp [hsame ▸ hroot, hsame]
    · exact .of_eq (by simp [hroot, hsame]) (by simp [htakes, hroot, hsame])

/-- Any other bean is counted once if its base changes, unless the default base takes the place of another
one. -/
theorem tallies_of_known (config : Config) (h : ∀ base, ¬ bean.HasUnknownBase registry base) :
    Tallies ((Pass.bases.onBean config roots registry bean).base != bean.base)
      (bean.withBase registry config).2 (bean.IsOvercounted registry config) := by
  have hempty : Java.isRootObject "" = false := by decide
  rw [isOvercounted_iff_of_known h, count_withBase_of_known config h, Pass.base_bases,
    ownBase?_of_known config h]
  by_cases htakes : bean.takesDefaultBase registry config = true
  · obtain ⟨hdefault, hown⟩ := takesDefaultBase_eq_true htakes
    rw [ownBase?_of_known config h] at hown
    rw [if_pos htakes, if_pos htakes]
    cases hbase : bean.base with
    | none => exact .of_eq rfl (by simp)
    | some base =>
      rw [hbase, Option.filter_some] at hown
      by_cases hroot : Java.isRootObject base = true
      · have hne : base ≠ "" := by
          rintro rfl
          rw [hempty] at hroot
          cases hroot
        exact .of_two_le (by simp [hroot]) ⟨htakes, base, rfl, hne⟩
      · -- the base is empty, so the default one is the first that the bean gets
        obtain rfl : base = "" := by simpa [hroot] using hown
        exact .of_eq (by simp [hempty, hdefault]) (by simp)
  · rw [if_neg htakes, if_neg htakes]
    refine .of_eq ?_ fun hover => htakes hover.1
    cases bean.base with
    | none => rfl
    | some base => by_cases hroot : Java.isRootObject base = true <;> simp [hroot]

/-- A bean is counted once if its base changes, unless it is counted too often. -/
theorem tallies (registry : Registry) (config : Config) (bean : Bean) :
    Tallies ((Pass.bases.onBean config roots registry bean).base != bean.base)
      (bean.withBase registry config).2 (bean.IsOvercounted registry config) := by
  by_cases hunknown : ∃ base, bean.HasUnknownBase registry base
  · obtain ⟨_, hunknown⟩ := hunknown
    exact tallies_of_unknown roots config hunknown
  · exact tallies_of_known roots config (not_exists.1 hunknown)

end

end Bean

/-! ## All beans -/

section
variable (config : Config) (roots : Roots) (registry : Registry)

/-- Which bases change is seen bean by bean. -/
theorem changedBases_bases :
    registry.changedBases (Pass.bases.run config roots registry).1 =
      registry.beans.countP fun bean =>
        (Pass.bases.onBean config roots registry bean).base != bean.base := by
  rw [Registry.changedBases, Pass.beans_run, ← List.map_prod_left_eq_zip, List.countP_map]
  rfl

/-- **What the last pass counts.** The number is at least that of the beans whose base changes, and it is this
number exactly when no bean is counted too often. -/
theorem count_bases_iff :
    registry.changedBases (Pass.bases.run config roots registry).1 ≤
        (Pass.bases.run config roots registry).2 ∧
      ((Pass.bases.run config roots registry).2 =
          registry.changedBases (Pass.bases.run config roots registry).1 ↔
        ∀ bean ∈ registry.beans, ¬ bean.IsOvercounted registry config) := by
  have htallies := fun bean : Bean => bean.tallies roots registry config
  obtain ⟨hle, hiff⟩ := total_map_eq_iff fun bean (_ : bean ∈ registry.beans) => (htallies bean).le
  rw [changedBases_bases, ← total_map_ite]
  refine ⟨hle, hiff.trans ?_⟩
  exact forall₂_congr fun bean _ => (htallies bean).eq_iff

end

/-- A class that extends what no bean is named like. -/
def orphanRegistry : Registry :=
  .addAll .empty [{ name := "Child", kind := .javaClass, origin := some .classDecl, base := some "Missing" }]

/-- The base of the class is dropped and the default one handed out, which counts twice for one bean. -/
theorem not_forall_count_bases :
    ¬ ∀ (config : Config) (roots : Roots) (registry : Registry),
      (Pass.bases.run config roots registry).2 =
        registry.changedBases (Pass.bases.run config roots registry).1 := by
  intro h
  have hcount := h { defaultBaseClass := some "com.ext.Entity" } ⟨[], []⟩ orphanRegistry
  revert hcount
  decide

end BeanGen

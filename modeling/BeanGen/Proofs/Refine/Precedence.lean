import BeanGen.Proofs.Place.Roots
import BeanGen.Proofs.Refine.Packages

/-!
# What gives a file its package

A file is seen from two directories: from the root that it lies in, and from the one above all roots. Rules are
tried on what leads there from the root first, then on what leads there from above, each time in the order of
the configuration (`Config.Rules`). Without a rule the package is made of the base package and the directory
(`Config.PlacesIn`, `packageOf?_iff_placesIn`).

More roots can move the directory above all of them. But they come behind the others, so they do not change what
leads to a file from the root that it lies in (`Roots.relativeDir?_extended`), and a file that has a rule there
keeps its package (`packageOf?_extended`).
-/

namespace BeanGen

open Text

/-- The first rule that applies to the directory gives the package. -/
inductive Config.Rules (config : Config) : Option String → String → Prop where
  | first {dir : String} {front back : List PackageRule} {rule : PackageRule}
      (hsplit : config.packageRules = front ++ rule :: back)
      (hfront : ∀ earlier ∈ front, earlier.appliesTo dir = false)
      (h : rule.appliesTo dir = true) :
      config.Rules (some dir) (trimmed rule.pkg)

/-- No rule applies to the directory, if there is one. -/
def Config.HasNoRule (config : Config) (dir : Option String) : Prop :=
  ∀ text, dir = some text → ∀ rule ∈ config.packageRules, rule.appliesTo text = false

/-- The package of a file, by its directory seen from its root and by the one seen from above all roots: what a
rule gives the first of them; or else what a rule gives the second; or else none without a base package, the
base package itself without a directory, and the directory below the base package with one. -/
inductive Config.PlacesIn (config : Config) (dir common : Option String) : Option String → Prop where
  | byRoot {pkg : String} (h : config.Rules dir pkg) : config.PlacesIn dir common (some pkg)
  | byCommon {pkg : String} (hdir : config.HasNoRule dir) (h : config.Rules common pkg) :
      config.PlacesIn dir common (some pkg)
  | unplaced (hdir : config.HasNoRule dir) (hcommon : config.HasNoRule common)
      (hbase : config.basePackage = none) : config.PlacesIn dir common none
  | bare {base : String} (hdir : dir = none) (hcommon : common = none)
      (hbase : config.basePackage = some base) : config.PlacesIn dir common (some base)
  | below {base text : String} (hdir : config.HasNoRule dir) (hcommon : config.HasNoRule common)
      (hbase : config.basePackage = some base) (htext : dir.or common = some text) :
      config.PlacesIn dir common (some (base ++ (if base.toList.getLast? = some '.' then "" else ".") ++
        String.ofList (replaceChar '/' '.' text.toList)))

/-! ## Rules -/

section
variable {config : Config} {dir common : Option String} {pkg : String}

/-- The package that is looked up for a directory is the one of the first rule that applies. -/
theorem rules_iff : config.Rules dir pkg ↔ dir.bind (rulePackage? config) = some pkg := by
  rw [Option.bind_eq_some_iff]
  constructor
  · rintro ⟨hsplit, hfront, h⟩
    refine ⟨_, rfl, Option.map_eq_some_iff.2 ⟨_, List.find?_eq_some_iff_append.2 ⟨h, _, _, hsplit, ?_⟩, rfl⟩⟩
    exact fun earlier hearlier => by rw [hfront earlier hearlier, Bool.not_false]
  · rintro ⟨text, rfl, hlookup⟩
    obtain ⟨rule, hfind, rfl⟩ := Option.map_eq_some_iff.1 hlookup
    obtain ⟨h, front, back, hsplit, hfront⟩ := List.find?_eq_some_iff_append.1 hfind
    exact .first hsplit (fun earlier hearlier => by simpa using hfront earlier hearlier) h

/-- No package is looked up for a directory exactly when no rule applies. -/
theorem hasNoRule_iff : config.HasNoRule dir ↔ dir.bind (rulePackage? config) = none := by
  rw [Option.bind_eq_none_iff]
  refine forall₂_congr fun text _ => ?_
  rw [rulePackage?, Option.map_eq_none_iff, List.find?_eq_none]
  exact forall₂_congr fun rule _ => (Bool.not_eq_true _).symm.to_iff

/-- Between the base package and a directory there is one dot. -/
theorem packageBelow_eq (base text : String) : packageBelow base text =
    base ++ (if base.toList.getLast? = some '.' then "" else ".") ++
      String.ofList (replaceChar '/' '.' text.toList) := by
  unfold packageBelow
  by_cases hdot : base.toList.getLast? = some '.'
  · rw [if_pos hdot, String.append_empty, if_pos (by simpa using hdot)]
  · rw [if_neg hdot, if_neg (by simpa using hdot)]

/-- The order of rules and directories, in one expression. -/
theorem placesIn_iff {result : Option String} : config.PlacesIn dir common result ↔
    ((dir.bind (rulePackage? config)).or (common.bind (rulePackage? config))).or
      (config.basePackage.map fun base => basedPackage base (dir.or common)) = result := by
  constructor
  · intro h
    cases h with
    | byRoot h => rw [rules_iff.1 h, Option.some_or, Option.some_or]
    | byCommon hdir h => rw [hasNoRule_iff.1 hdir, rules_iff.1 h, Option.none_or, Option.some_or]
    | unplaced hdir hcommon hbase =>
      rw [hasNoRule_iff.1 hdir, hasNoRule_iff.1 hcommon, hbase]
      rfl
    | bare hdir hcommon hbase =>
      rw [hdir, hcommon, hbase]
      rfl
    | below hdir hcommon hbase htext =>
      rw [hasNoRule_iff.1 hdir, hasNoRule_iff.1 hcommon, hbase, htext, ← packageBelow_eq]
      rfl
  · rintro rfl
    cases hdir : dir.bind (rulePackage? config) with
    | some pkg => exact .byRoot (rules_iff.2 hdir)
    | none =>
      cases hcommon : common.bind (rulePackage? config) with
      | some pkg => exact .byCommon (hasNoRule_iff.2 hdir) (rules_iff.2 hcommon)
      | none =>
        cases hbase : config.basePackage with
        | none => exact .unplaced (hasNoRule_iff.2 hdir) (hasNoRule_iff.2 hcommon) hbase
        | some base =>
          cases htext : dir.or common with
          | none =>
            obtain ⟨hnone, hnone'⟩ := Option.or_eq_none_iff.1 htext
            exact .bare hnone hnone' hbase
          | some text =>
            rw [Option.map_some, basedPackage, Option.elim_some, packageBelow_eq]
            exact .below (hasNoRule_iff.2 hdir) (hasNoRule_iff.2 hcommon) hbase htext

end

/-! ## The package of a file -/

section
variable {config : Config} {roots : Roots} {path : String}

/-- Of two directories, each of which may be missing, the first one that gives something is taken. -/
theorem findSome?_filterMap_pair {α β : Type} (f : α → Option β) (a b : Option α) :
    ([a, b].filterMap id).findSome? f = (a.bind f).or (b.bind f) := by
  have hcons : ∀ (a : α) (rest : List α), (a :: rest).findSome? f = (f a).or (rest.findSome? f) := by
    intro a rest
    rw [List.findSome?_cons]
    cases f a <;> rfl
  cases a <;> cases b <;> simp [hcons]

/-- The package of a file follows from its two directories. -/
theorem packageOf?_eq_or (hpath : path ≠ "") : packageOf? config roots (some path) =
    (((roots.relativeDir? path).bind (rulePackage? config)).or
        ((roots.commonDir? path).bind (rulePackage? config))).or
      (config.basePackage.map fun base =>
        basedPackage base ((roots.relativeDir? path).or (roots.commonDir? path))) := by
  have hdirs : roots.dirsOf (some path) =
      [roots.relativeDir? path, roots.commonDir? path].filterMap id := by
    rw [Roots.dirsOf, Option.filter_some, if_pos (by simpa using hpath)]
  have hhead : ([roots.relativeDir? path, roots.commonDir? path].filterMap id).head? =
      (roots.relativeDir? path).or (roots.commonDir? path) := by
    cases roots.relativeDir? path <;> cases roots.commonDir? path <;> rfl
  rw [packageOf?_eq, ruledPackage?, hdirs, findSome?_filterMap_pair, hhead]

/-- A file that has a rule for its directory relative to its root keeps its package when roots are added behind
the others. -/
theorem packageOf?_extended (hpath : path ≠ "") {dir : String} (hdir : roots.relativeDir? path = some dir)
    (hrule : ∃ rule ∈ config.packageRules, rule.appliesTo dir = true) (more : List Place) :
    packageOf? config (roots.extended more) (some path) = packageOf? config roots (some path) := by
  cases hpkg : rulePackage? config dir with
  | none =>
    have hnone : config.HasNoRule (some dir) := hasNoRule_iff.2 hpkg
    obtain ⟨rule, hmem, happlies⟩ := hrule
    rw [hnone dir rfl rule hmem] at happlies
    cases happlies
  | some pkg =>
    rw [packageOf?_eq_or hpath, packageOf?_eq_or hpath, Roots.relativeDir?_extended hdir more, hdir,
      Option.bind_some, hpkg, Option.some_or, Option.some_or, Option.some_or, Option.some_or]

/-- **What gives a file its package.** It is the first rule that applies to the directory of the file relative
to its root; or else the first that applies to the directory relative to the one above all roots; or else the
base package with the first of the two directories that is there. So more roots behind the others do not change
the package of a file that has a rule for its directory relative to its root. -/
theorem packageOf?_iff_placesIn (hpath : path ≠ "") :
    (∀ result, packageOf? config roots (some path) = result ↔
      config.PlacesIn (roots.relativeDir? path) (roots.commonDir? path) result) ∧
    ∀ dir, roots.relativeDir? path = some dir →
      (∃ rule ∈ config.packageRules, rule.appliesTo dir = true) →
      ∀ more, packageOf? config (roots.extended more) (some path) = packageOf? config roots (some path) := by
  refine ⟨fun result => ?_, fun dir hdir hrule more => packageOf?_extended hpath hdir hrule more⟩
  rw [placesIn_iff, packageOf?_eq_or hpath]

end

/-- Two rules for directories `sub`, the first of them for those in a directory `x` only. -/
def subRules : Config where
  packageRules := [{ dirEndsWith := "x/sub", pkg := "a.x" }, { dirEndsWith := "sub", pkg := " a.sub " }]

/-- A file below two roots is seen from the first one, where the first rule does not apply. With a third root
elsewhere it keeps its package. -/
theorem packageOf?_subRules :
    "/p/x/sub/A.ts" ≠ "" ∧
    subRules.PlacesIn (Roots.relativeDir? ⟨[], [["p", "x"], ["p"]]⟩ "/p/x/sub/A.ts")
      (Roots.commonDir? ⟨[], [["p", "x"], ["p"]]⟩ "/p/x/sub/A.ts") (some "a.sub") ∧
    (Roots.relativeDir? ⟨[], [["p", "x"], ["p"]]⟩ "/p/x/sub/A.ts" = some "sub" ∧
      ∃ rule ∈ subRules.packageRules, rule.appliesTo "sub" = true) ∧
    packageOf? subRules (Roots.extended ⟨[], [["p", "x"], ["p"]]⟩ [["q"]]) (some "/p/x/sub/A.ts") =
      packageOf? subRules ⟨[], [["p", "x"], ["p"]]⟩ (some "/p/x/sub/A.ts") := by
  have hpath : "/p/x/sub/A.ts" ≠ "" := by decide
  have hdir : Roots.relativeDir? ⟨[], [["p", "x"], ["p"]]⟩ "/p/x/sub/A.ts" = some "sub" := by decide
  have hrule : ∃ rule ∈ subRules.packageRules, rule.appliesTo "sub" = true := by decide
  have hplaced := @packageOf?_iff_placesIn subRules ⟨[], [["p", "x"], ["p"]]⟩ _ hpath
  exact ⟨hpath, (hplaced.1 (some "a.sub")).1 (by decide), ⟨hdir, hrule⟩, hplaced.2 "sub" hdir hrule [["q"]]⟩

end BeanGen

import BeanGen.Proofs.Java.Name
import BeanGen.Refine.Packages

/-!
# Well-formed packages

A configuration names packages in its rules and as the base of all others: by qualified names, which may
end with one more dot (`IsPackagePrefix`), or by blank texts, which stand for nothing. Directories have
names of any kind. The package of a bean comes from the first rule that applies, or else from the base
package with the directory below it, or else from the base package alone (`packageOf?_eq`).

Only the second way knows of the dot at the end of the base package, and none looks at the names of
directories, so a bean is in no package or in one with a qualified name exactly when the way that was taken
for it has nothing to complain about (`Config.PlacesProperly`, `package_placed_iff`).
-/

namespace BeanGen

open Java Text

/-- A qualified name, or one with a dot behind it. -/
def IsPackagePrefix (text : String) : Prop :=
  ∃ name, isDottedName name = true ∧ (text = name ∨ text = name ++ ".")

/-- The unnamed package, or one with a qualified name. -/
def IsPackage (package : String) : Prop :=
  package = "" ∨ isDottedName package = true

/-- The packages that a configuration names are blank, or qualified names that may have a dot behind
them. -/
structure Config.NamesPackages (config : Config) : Prop where
  base : ∀ base, config.basePackage = some base → isBlankText base = true ∨ IsPackagePrefix base
  rules : ∀ rule ∈ config.packageRules, isBlankText rule.pkg = true ∨ IsPackagePrefix rule.pkg

/-- The configuration with another base package. -/
def Config.basedOn (config : Config) (base : String) : Config :=
  { config with basePackage := some base }

/-- The directories of a file that rules are tried on: the one relative to its root, and the one relative to
the common ancestor of all roots. -/
def Roots.dirsOf (roots : Roots) (sourcePath : Option String) : List String :=
  match sourcePath.filter (· != "") with
  | none => []
  | some path => [roots.relativeDir? path, roots.commonDir? path].filterMap id

/-- The package that the rules give a file. -/
def ruledPackage? (config : Config) (roots : Roots) (sourcePath : Option String) : Option String :=
  (roots.dirsOf sourcePath).findSome? (rulePackage? config)

/-- The base package of a file: the package itself without a directory, and what is below it with one. -/
def basedPackage (base : String) (dir : Option String) : String :=
  dir.elim base (packageBelow base)

/-- A directory with dots for slashes, without white space at its end. -/
def dirPackage (dir : String) : String :=
  String.ofList (trimEnd (replaceChar '/' '.' dir.toList))

/-- The package of a file comes out well: the rule that applies has no dot at the end of its package;
without a rule and without a directory the base package has none; and without a rule the names of the
directory are names of packages, below a base package that is not blank. -/
structure Config.PlacesProperly (config : Config) (roots : Roots) (sourcePath : Option String) :
    Prop where
  ruled : ∀ pkg, ruledPackage? config roots sourcePath = some pkg → pkg.toList.getLast? ≠ some '.'
  bare : ruledPackage? config roots sourcePath = none → roots.dirsOf sourcePath = [] →
    ∀ base, config.basePackage = some base → base.toList.getLast? ≠ some '.'
  below : ruledPackage? config roots sourcePath = none →
    ∀ dir, (roots.dirsOf sourcePath).head? = some dir →
    ∀ base, config.basePackage = some base →
      isBlankText base = false ∧ isDottedName (dirPackage dir) = true

/-! ## Packages of a configuration -/

section
variable {text : String}

/-- A blank text does not end with a dot. -/
theorem getLast?_ne_of_isBlankText (h : isBlankText text = true) : text.toList.getLast? ≠ some '.' := by
  rw [isBlankText, allBlank, List.all_eq_true] at h
  exact fun hdot => absurd (h '.' (List.mem_of_getLast? hdot)) (by decide)

/-- There is no white space in a package of a configuration. -/
theorem IsPackagePrefix.nonBlank?_eq (h : IsPackagePrefix text) : nonBlank? text = some text := by
  obtain ⟨name, hname, rfl | rfl⟩ := h
  · exact nonBlank?_of_forall (ne_empty_of_isDottedName hname) fun c => isBlank_of_isDottedName hname
  · refine nonBlank?_of_forall (by simp) fun c hc => ?_
    rw [String.toList_append, List.mem_append] at hc
    rcases hc with hc | hc
    · exact isBlank_of_isDottedName hname hc
    · obtain rfl : c = '.' := by simpa using hc
      decide

/-- A package of a configuration is not blank. -/
theorem IsPackagePrefix.isBlankText_eq (h : IsPackagePrefix text) : isBlankText text = false := by
  have hsome := h.nonBlank?_eq
  unfold nonBlank? at hsome
  split at hsome
  · cases hsome
  · next hblank => simpa using hblank

/-- A package of a configuration is a qualified name unless it has the dot at its end. -/
theorem IsPackagePrefix.isDottedName_iff (h : IsPackagePrefix text) :
    isDottedName text = true ↔ text.toList.getLast? ≠ some '.' := by
  refine ⟨getLast?_ne_of_isDottedName, fun hlast => ?_⟩
  obtain ⟨name, hname, rfl | rfl⟩ := h
  · exact hname
  · simp at hlast

/-- A text with a dot in it is not blank, and its two sides are trimmed at their ends. -/
theorem nonBlank?_append_dot (front back : List Char) :
    nonBlank? (String.ofList (front ++ '.' :: back)) =
      some (String.ofList (trimStart front ++ '.' :: trimEnd back)) := by
  have hblank : isBlankText (String.ofList (front ++ '.' :: back)) = false := by
    rw [isBlankText, String.toList_ofList]
    exact List.all_eq_false.2 ⟨'.', List.mem_append_right _ List.mem_cons_self, by decide⟩
  rw [nonBlank?, hblank, trimmed, String.toList_ofList, trim, trimStart_append_cons (by decide),
    trimEnd_append_cons (by decide)]
  rfl

end

/-! ## The package below a base -/

section
variable {base name dir : String}

/-- A base package without the dot at its end gets one. -/
theorem packageBelow_of_ne (h : base.toList.getLast? ≠ some '.') :
    packageBelow base dir = String.ofList (base.toList ++ '.' :: replaceChar '/' '.' dir.toList) := by
  rw [packageBelow, if_neg (by simpa using h), ← String.toList_inj]
  simp

/-- A base package with the dot at its end is the same as the one without. -/
theorem packageBelow_append_dot (h : name.toList.getLast? ≠ some '.') :
    packageBelow (name ++ ".") dir = packageBelow name dir := by
  rw [packageBelow_of_ne h, packageBelow, if_pos (by simp), ← String.toList_inj]
  simp

/-- Below a qualified name the package of a directory is the qualified name, a dot and the directory. -/
theorem nonBlank?_packageBelow (h : isDottedName name = true) :
    nonBlank? (packageBelow name dir) = some (name ++ "." ++ dirPackage dir) := by
  have hstart : trimStart name.toList = name.toList :=
    trimStart_of_head? fun c hc => isBlank_of_isDottedName h (List.mem_of_mem_head? hc)
  rw [packageBelow_of_ne (getLast?_ne_of_isDottedName h), nonBlank?_append_dot, hstart]
  simp [dirPackage, ← String.toList_inj]

/-- Below a blank base package the package of a directory begins with the dot. -/
theorem nonBlank?_packageBelow_of_blank (h : isBlankText base = true) :
    nonBlank? (packageBelow base dir) = some ("." ++ dirPackage dir) := by
  have hstart : trimStart base.toList = [] := List.dropWhile_eq_nil_iff.2 (List.all_eq_true.1 h)
  rw [packageBelow_of_ne (getLast?_ne_of_isBlankText h), nonBlank?_append_dot, hstart]
  simp [dirPackage]

/-- A package that begins with a dot is neither the unnamed one nor one with a qualified name. -/
theorem not_isPackage_dot_append (text : String) : ¬ IsPackage ("." ++ text) := by
  rintro (hempty | hname)
  · simp at hempty
  · have hsplit : "." ++ text = String.ofList ([] ++ '.' :: text.toList) := by
      simp
    rw [hsplit, isDottedName_ofList_append_cons, Bool.and_eq_true] at hname
    exact absurd hname.1 (by decide)

/-- Below a qualified name a package has a qualified name exactly when the rest has one. -/
theorem isPackage_append_dot_iff (h : isDottedName name = true) (text : String) :
    IsPackage (name ++ "." ++ text) ↔ isDottedName text = true := by
  have hsplit : name ++ "." ++ text = String.ofList (name.toList ++ '.' :: text.toList) := by
    simp [← String.toList_inj]
  rw [IsPackage, or_iff_right (by simp), hsplit, isDottedName_ofList_append_cons, String.ofList_toList,
    String.ofList_toList, h, Bool.true_and]

/-- A package that a configuration names, put to a bean as it is, is right unless it ends with a dot. -/
theorem isPackage_nonBlank?_iff (h : isBlankText base = true ∨ IsPackagePrefix base) :
    IsPackage ((nonBlank? base).getD "") ↔ base.toList.getLast? ≠ some '.' := by
  rcases h with hblank | hnamed
  · rw [nonBlank?, if_pos hblank]
    exact iff_of_true (.inl rfl) (getLast?_ne_of_isBlankText hblank)
  · rw [hnamed.nonBlank?_eq, Option.getD_some, ← hnamed.isDottedName_iff, IsPackage]
    refine or_iff_right fun hempty => ?_
    obtain ⟨name, hname, rfl | rfl⟩ := hnamed
    · exact ne_empty_of_isDottedName hname hempty
    · simp at hempty

end

/-! ## The package of a bean -/

section
variable {config : Config} {roots : Roots} {sourcePath : Option String} {bean : Bean}

/-- The package of a file comes from a rule, or else from the base package. -/
theorem packageOf?_eq (config : Config) (roots : Roots) (sourcePath : Option String) :
    packageOf? config roots sourcePath =
      (ruledPackage? config roots sourcePath).or
        (config.basePackage.map fun base => basedPackage base (roots.dirsOf sourcePath).head?) := by
  unfold packageOf? ruledPackage? Roots.dirsOf
  cases sourcePath.filter (· != "") with
  | none =>
    show config.basePackage = config.basePackage.map fun base => base
    rw [Option.map_id']
  | some path =>
    dsimp only
    cases [roots.relativeDir? path, roots.commonDir? path].filterMap id with
    | nil => rfl
    | cons dir dirs => cases (dir :: dirs).findSome? (rulePackage? config) <;> rfl

/-- With another base package the rules give what they gave. -/
theorem packageOf?_basedOn (config : Config) (roots : Roots) (sourcePath : Option String)
    (base : String) :
    packageOf? (config.basedOn base) roots sourcePath =
      some ((ruledPackage? config roots sourcePath).getD
        (basedPackage base (roots.dirsOf sourcePath).head?)) := by
  have hruled : ruledPackage? (config.basedOn base) roots sourcePath =
      ruledPackage? config roots sourcePath := rfl
  rw [packageOf?_eq, hruled]
  cases ruledPackage? config roots sourcePath <;> rfl

/-- A bean is put into the package of its file. It stays in its own if the file has none. -/
theorem package_placed_eq (config : Config) (roots : Roots) (bean : Bean) :
    (bean.placed config roots).1.package =
      ((packageOf? config roots bean.sourcePath).bind nonBlank?).getD bean.package := by
  unfold Bean.placed
  cases (packageOf? config roots bean.sourcePath).bind nonBlank? <;> rfl

/-- The package that a bean without one is put into. -/
theorem package_placed (hbean : bean.package = "") :
    (bean.placed config roots).1.package =
      ((packageOf? config roots bean.sourcePath).bind nonBlank?).getD "" := by
  rw [package_placed_eq, hbean]

/-- The package that a rule gives is a qualified name, or one with a dot behind it. -/
theorem Config.NamesPackages.isPackagePrefix_of_ruled (hconfig : config.NamesPackages) {pkg : String}
    (h : ruledPackage? config roots sourcePath = some pkg) : IsPackagePrefix pkg := by
  obtain ⟨dir, -, hdir⟩ := List.exists_of_findSome?_eq_some h
  rw [rulePackage?, Option.map_eq_some_iff] at hdir
  obtain ⟨rule, hrule, rfl⟩ := hdir
  have happlies : isBlankText rule.pkg = false := by
    have happlies := List.find?_some hrule
    simp only [PackageRule.appliesTo, Bool.and_eq_true, Bool.not_eq_true'] at happlies
    exact happlies.1.2
  have hnamed : IsPackagePrefix rule.pkg :=
    (hconfig.rules rule (List.mem_of_find?_eq_some hrule)).resolve_left (by simp [happlies])
  have htrimmed := hnamed.nonBlank?_eq
  rw [nonBlank?, happlies] at htrimmed
  rwa [Option.some.inj htrimmed]

/-- A bean that has no package yet is put into a proper one exactly when the configuration places its file
properly. -/
theorem isPackage_placed_iff (hconfig : config.NamesPackages) (hbean : bean.package = "") :
    IsPackage (bean.placed config roots).1.package ↔
      config.PlacesProperly roots bean.sourcePath := by
  rw [package_placed hbean, packageOf?_eq]
  cases hrule : ruledPackage? config roots bean.sourcePath with
  | some pkg =>
    have hpkg := isPackage_nonBlank?_iff (.inr (hconfig.isPackagePrefix_of_ruled hrule))
    rw [Option.some_or, Option.bind_some, hpkg]
    exact ⟨fun h => ⟨by simpa [hrule] using h, by simp [hrule], by simp [hrule]⟩,
      fun h => h.ruled pkg hrule⟩
  | none =>
    rw [Option.none_or]
    cases hbase : config.basePackage with
    | none =>
      exact iff_of_true (.inl rfl) ⟨by simp [hrule], by simp [hbase], by simp [hbase]⟩
    | some base =>
      rw [Option.map_some, Option.bind_some]
      cases hdirs : roots.dirsOf bean.sourcePath with
      | nil =>
        rw [List.head?_nil, basedPackage, Option.elim_none, isPackage_nonBlank?_iff (hconfig.base base hbase)]
        exact ⟨fun h => ⟨by simp [hrule], by simpa [hrule, hdirs, hbase] using h, by simp [hdirs]⟩,
          fun h => h.bare hrule hdirs base hbase⟩
      | cons dir dirs =>
        rw [List.head?_cons, basedPackage, Option.elim_some]
        have hplaces : config.PlacesProperly roots bean.sourcePath ↔
            isBlankText base = false ∧ isDottedName (dirPackage dir) = true :=
          ⟨fun h => h.below hrule dir (by rw [hdirs]; rfl) base hbase,
            fun h => ⟨by simp [hrule], by simp [hdirs], by simpa [hrule, hdirs, hbase] using h⟩⟩
        rw [hplaces]
        rcases hconfig.base base hbase with hblank | ⟨name, hname, hnamed⟩
        · rw [nonBlank?_packageBelow_of_blank hblank, Option.getD_some]
          exact iff_of_false (not_isPackage_dot_append _) (by simp [hblank])
        · have hbelow : packageBelow base dir = packageBelow name dir := by
            rcases hnamed with rfl | rfl
            · rfl
            · exact packageBelow_append_dot (getLast?_ne_of_isDottedName hname)
          rw [hbelow, nonBlank?_packageBelow hname, Option.getD_some, isPackage_append_dot_iff hname]
          exact (and_iff_right (IsPackagePrefix.isBlankText_eq ⟨name, hname, hnamed⟩)).symm

/-- A qualified name serves as well as the base package with a dot behind it, but for the files that get the
base package itself. -/
theorem placed_append_dot_iff (hbean : bean.package = "") {name : String}
    (hname : isDottedName name = true) :
    (bean.placed (config.basedOn name) roots).1.package =
        (bean.placed (config.basedOn (name ++ ".")) roots).1.package ↔
      (ruledPackage? config roots bean.sourcePath).isSome ∨ roots.dirsOf bean.sourcePath ≠ [] := by
  rw [package_placed hbean, package_placed hbean, packageOf?_basedOn, packageOf?_basedOn,
    Option.bind_some, Option.bind_some]
  cases ruledPackage? config roots bean.sourcePath with
  | some pkg => simp
  | none =>
    rw [Option.getD_none, Option.getD_none]
    cases roots.dirsOf bean.sourcePath with
    | nil =>
      have hbare : IsPackagePrefix name := ⟨name, hname, .inl rfl⟩
      have hdot : IsPackagePrefix (name ++ ".") := ⟨name, hname, .inr rfl⟩
      have hne : name ≠ name ++ "." := fun heq =>
        getLast?_ne_of_isDottedName hname (by rw [heq]; simp)
      rw [List.head?_nil, basedPackage, basedPackage, Option.elim_none, Option.elim_none, hbare.nonBlank?_eq,
        hdot.nonBlank?_eq]
      simp [hne]
    | cons dir dirs =>
      rw [List.head?_cons, basedPackage, basedPackage, Option.elim_some, Option.elim_some,
        packageBelow_append_dot (getLast?_ne_of_isDottedName hname)]
      simp

/-- **Packages are well formed where files are placed properly.** A bean that has no package yet is put into
the unnamed package or one with a qualified name exactly when no dot ends the package that was meant for
it and its directory has names that packages can have; and the dot at the end of the base package counts
for those files alone that get the base package itself. -/
theorem package_placed_iff (hconfig : config.NamesPackages) (hbean : bean.package = "") :
    (IsPackage (bean.placed config roots).1.package ↔
      config.PlacesProperly roots bean.sourcePath) ∧
    ∀ name, isDottedName name = true →
      ((bean.placed (config.basedOn name) roots).1.package =
          (bean.placed (config.basedOn (name ++ ".")) roots).1.package ↔
        (ruledPackage? config roots bean.sourcePath).isSome ∨ roots.dirsOf bean.sourcePath ≠ []) :=
  ⟨isPackage_placed_iff hconfig hbean, fun _ hname => placed_append_dot_iff hbean hname⟩

end

/-- A base package with a dot at its end, as a configuration may name it. -/
theorem namesPackages_com_dot : ({ basePackage := some "com." } : Config).NamesPackages where
  base := by
    rintro base ⟨⟩
    exact .inr ⟨"com", by decide, .inr rfl⟩
  rules := by
    rintro rule ⟨⟩

/-- In a directory below its root a file is placed properly, and the dot at the end of the base package does
not count. -/
theorem package_placed_in_directory :
    IsPackage (Bean.placed { basePackage := some "com." } ⟨[], [["p"]]⟩
      { name := "A", kind := .javaClass, sourcePath := some "/p/a/b.ts" }).1.package ∧
    (Bean.placed (Config.basedOn { basePackage := some "com." } "com") ⟨[], [["p"]]⟩
        { name := "A", kind := .javaClass, sourcePath := some "/p/a/b.ts" }).1.package =
      (Bean.placed (Config.basedOn { basePackage := some "com." } ("com" ++ ".")) ⟨[], [["p"]]⟩
        { name := "A", kind := .javaClass, sourcePath := some "/p/a/b.ts" }).1.package := by
  have hplaced := @package_placed_iff { basePackage := some "com." } ⟨[], [["p"]]⟩
    { name := "A", kind := .javaClass, sourcePath := some "/p/a/b.ts" } namesPackages_com_dot rfl
  have hdirs : Roots.dirsOf ⟨[], [["p"]]⟩ (some "/p/a/b.ts") = ["a", "a"] := by decide
  have hruled : ruledPackage? { basePackage := some "com." } ⟨[], [["p"]]⟩ (some "/p/a/b.ts") = none := by
    decide
  refine ⟨hplaced.1.2 ⟨by simp [hruled], by simp [hdirs], ?_⟩,
    (hplaced.2 "com" (by decide)).2 (.inr (by simp [hdirs]))⟩
  intro _ dir hdir base hbase
  rw [hdirs] at hdir
  cases hdir
  cases hbase
  decide

/-- A file directly in its root is put into the package `com.`. -/
theorem not_forall_isPackage_placed :
    ¬ ∀ (config : Config) (roots : Roots) (bean : Bean), config.NamesPackages → bean.package = "" →
      IsPackage (bean.placed config roots).1.package ∧
      ∀ name, isDottedName name = true →
        (bean.placed (config.basedOn name) roots).1.package =
          (bean.placed (config.basedOn (name ++ ".")) roots).1.package := by
  intro h
  have hplaced := (h { basePackage := some "com." } ⟨[], [["p"]]⟩
    { name := "A", kind := .javaClass, sourcePath := some "/p/a.ts" } namesPackages_com_dot rfl).1
  revert hplaced
  unfold IsPackage
  decide

end BeanGen

import BeanGen.Proofs.Place.Common
import BeanGen.Proofs.Place.Segments
import BeanGen.Proofs.Refine.Packages

/-!
# Which directories a package rule captures

A rule is for directories that end with a text. The rule that decides on the package of a file
(`Config.Decides`) ought to have whole segments: those of its text ought to be the last ones of a directory that
the file is seen from. But rules are compared as texts, so a rule for `sub` captures a directory `mysub`. It is
the right directory exactly when the text of the rule does not begin within a segment of the directory that it
applies to (`decides_segments_iff`).
-/

namespace BeanGen

open Place (segments CutsSegment)
open Text

/-- The text that the directories of a rule end with. Backslashes are slashes. -/
def PackageRule.ending (rule : PackageRule) : List Char :=
  replaceChar '\\' '/' rule.dirEndsWith.toList

/-- The rule decides on the package of a file that is seen from directories: it is the first that applies to
the first of them to which any rule applies. That directory stands last. -/
inductive Config.Decides (config : Config) : List String → PackageRule → String → Prop where
  | first {dir : String} {dirs : List String} {front back : List PackageRule} {rule : PackageRule}
      (hsplit : config.packageRules = front ++ rule :: back)
      (hfront : ∀ earlier ∈ front, earlier.appliesTo dir = false)
      (h : rule.appliesTo dir = true) :
      config.Decides (dir :: dirs) rule dir
  | later {other dir : String} {dirs : List String} {rule : PackageRule}
      (hnone : ∀ earlier ∈ config.packageRules, earlier.appliesTo other = false)
      (h : config.Decides dirs rule dir) :
      config.Decides (other :: dirs) rule dir

/-! ## The rule that decides -/

section
variable {config : Config} {dirs : List String} {rule : PackageRule} {dir pkg : String}

/-- The lookup in rules gives the package of the rule that decides. -/
theorem findSome?_rulePackage?_eq_some_iff : dirs.findSome? (rulePackage? config) = some pkg ↔
    ∃ rule dir, config.Decides dirs rule dir ∧ trimmed rule.pkg = pkg := by
  constructor
  · intro h
    induction dirs with
    | nil => cases h
    | cons other rest ih =>
      rw [List.findSome?_cons] at h
      cases hother : config.packageRules.find? (·.appliesTo other) with
      | some found =>
        rw [rulePackage?, hother] at h
        obtain ⟨happlies, front, back, hsplit, hfront⟩ := List.find?_eq_some_iff_append.1 hother
        exact ⟨found, other,
          .first hsplit (fun earlier hearlier => by simpa using hfront earlier hearlier) happlies,
          Option.some.inj h⟩
      | none =>
        rw [rulePackage?, hother] at h
        obtain ⟨rule, dir, hdecides, hpkg⟩ := ih h
        refine ⟨rule, dir, .later (fun earlier hearlier => ?_) hdecides, hpkg⟩
        simpa using List.find?_eq_none.1 hother earlier hearlier
  · rintro ⟨rule, dir, hdecides, rfl⟩
    induction hdecides with
    | @first dir dirs front back rule hsplit hfront h =>
      have hfind : config.packageRules.find? (·.appliesTo dir) = some rule :=
        List.find?_eq_some_iff_append.2 ⟨h, front, back, hsplit, fun earlier hearlier => by
          rw [hfront earlier hearlier, Bool.not_false]⟩
      rw [List.findSome?_cons, rulePackage?, hfind]
      rfl
    | @later other dir dirs rule hnone _ ih =>
      have hfind : config.packageRules.find? (·.appliesTo other) = none :=
        List.find?_eq_none.2 fun earlier hearlier => by
          rw [hnone earlier hearlier]
          exact Bool.false_ne_true
      rw [List.findSome?_cons, rulePackage?, hfind]
      exact ih

/-- The rule that decides applies to one of the directories. -/
theorem Config.Decides.applies (h : config.Decides dirs rule dir) : dir ∈ dirs ∧ rule.appliesTo dir = true := by
  induction h with
  | first _ _ h => exact ⟨List.mem_cons_self, h⟩
  | later _ _ ih => exact ⟨List.mem_cons_of_mem _ ih.1, ih.2⟩

/-- A directory that a rule applies to ends with the text of the rule. -/
theorem PackageRule.ending_suffix (h : rule.appliesTo dir = true) : rule.ending <:+ dir.toList := by
  rw [appliesTo, Bool.and_eq_true, List.isSuffixOf_iff_suffix] at h
  exact h.2

end

/-! ## The directories of a file -/

section
variable {roots : Roots} {sourcePath : Option String}

/-- A file is seen from no directory, from one, or from two of which the second ends with the whole segments of
the first. -/
theorem Roots.dirsOf_cases (roots : Roots) (sourcePath : Option String) :
    roots.dirsOf sourcePath = [] ∨ (∃ dir, roots.dirsOf sourcePath = [dir]) ∨
      ∃ dir common, roots.dirsOf sourcePath = [dir, common] ∧ dir.toList <:+ common.toList ∧
        segments dir.toList <:+ segments common.toList := by
  unfold dirsOf
  cases sourcePath.filter (· != "") with
  | none => exact .inl rfl
  | some path =>
    dsimp only
    cases hdir : roots.relativeDir? path with
    | none => cases roots.commonDir? path <;> simp
    | some dir =>
      obtain ⟨front, names, hnames, rfl, hcommon⟩ := exists_commonDir? hdir
      rw [hcommon]
      refine .inr (.inr ⟨_, _, rfl, ?_⟩)
      by_cases hfront : front = []
      · rw [hfront, List.nil_append]
        exact ⟨List.suffix_rfl, List.suffix_rfl⟩
      · have hjoined : ("/".intercalate (front ++ names)).toList =
            ("/".intercalate front).toList ++ '/' :: ("/".intercalate names).toList := by
          rw [String.intercalate_append_of_ne_nil hfront hnames, String.toList_append, String.toList_append,
            List.append_assoc]
          rfl
        rw [hjoined, Place.segments_append_cons]
        exact ⟨(List.suffix_cons _ _).trans (List.suffix_append _ _), List.suffix_append _ _⟩

/-- A text that begins within a segment of one directory of a file is the whole segments of none of them. -/
theorem Roots.not_segments_suffix {dir other : String} {text : List Char}
    (hdir : dir ∈ roots.dirsOf sourcePath) (hother : other ∈ roots.dirsOf sourcePath)
    (hcuts : CutsSegment dir.toList text) : ¬ segments text <:+ segments other.toList := by
  rcases roots.dirsOf_cases sourcePath with hnil | ⟨only, hone⟩ | ⟨near, far, htwo, hend, hsegments⟩
  · rw [hnil] at hdir
    cases hdir
  · rw [hone, List.mem_singleton] at hdir hother
    rw [hother, ← hdir]
    exact hcuts.not_suffix
  · -- seen from farther away the text begins within the same segment
    have hfar : CutsSegment far.toList text := by
      rw [htwo] at hdir
      rcases List.mem_pair.1 hdir with rfl | rfl
      · exact hcuts.of_suffix hend
      · exact hcuts
    rw [htwo] at hother
    intro hsuffix
    rcases List.mem_pair.1 hother with rfl | rfl
    · exact hfar.not_suffix (hsuffix.trans hsegments)
    · exact hfar.not_suffix hsuffix

end

/-- **Which directories package rules capture.** The rule that decides on a file gives it its package. Its text
is the last segments of a directory that the file is seen from, exactly when the text does not begin within a
segment of the directory that the rule applies to. -/
theorem decides_segments_iff (config : Config) (roots : Roots) (sourcePath : Option String) :
    (∀ rule dir, config.Decides (roots.dirsOf sourcePath) rule dir →
      packageOf? config roots sourcePath = some (trimmed rule.pkg)) ∧
    ((∀ rule dir, config.Decides (roots.dirsOf sourcePath) rule dir →
        ∃ other ∈ roots.dirsOf sourcePath, segments rule.ending <:+ segments other.toList) ↔
      ∀ rule dir, config.Decides (roots.dirsOf sourcePath) rule dir →
        ¬ CutsSegment dir.toList rule.ending) := by
  refine ⟨fun rule dir hdecides => ?_, ?_, ?_⟩
  · have hruled : ruledPackage? config roots sourcePath = some (trimmed rule.pkg) :=
      findSome?_rulePackage?_eq_some_iff.2 ⟨rule, dir, hdecides, rfl⟩
    rw [packageOf?_eq, hruled, Option.some_or]
  · intro h rule dir hdecides hcuts
    obtain ⟨other, hother, hsuffix⟩ := h rule dir hdecides
    exact Roots.not_segments_suffix hdecides.applies.1 hother hcuts hsuffix
  · intro h rule dir hdecides
    obtain ⟨hdir, happlies⟩ := hdecides.applies
    exact ⟨dir, hdir, (Place.segments_suffix_iff (rule.ending_suffix happlies)).2 (h rule dir hdecides)⟩

/-- One rule, for directories `sub`. -/
def subRule : Config where
  packageRules := [{ dirEndsWith := "sub", pkg := "a.sub" }]

/-- The rule captures a directory `mysub`. -/
theorem not_forall_decides_segments :
    ¬ ∀ (config : Config) (roots : Roots) (sourcePath : Option String) (rule : PackageRule) (dir : String),
      config.Decides (roots.dirsOf sourcePath) rule dir →
        ∃ other ∈ roots.dirsOf sourcePath, segments rule.ending <:+ segments other.toList := by
  intro h
  have hdirs : Roots.dirsOf ⟨[], [["p"]]⟩ (some "/p/mysub/a.ts") = ["mysub", "mysub"] := by decide
  have hsplit : subRule.packageRules = [] ++ { dirEndsWith := "sub", pkg := "a.sub" } :: [] := rfl
  have hdecides : subRule.Decides ["mysub", "mysub"] { dirEndsWith := "sub", pkg := "a.sub" } "mysub" :=
    .first hsplit (fun earlier hearlier => nomatch hearlier) (by decide)
  obtain ⟨other, hother, hsuffix⟩ :=
    h subRule ⟨[], [["p"]]⟩ (some "/p/mysub/a.ts") _ _ (by rw [hdirs]; exact hdecides)
  rw [hdirs] at hother
  obtain rfl : other = "mysub" := by simpa using hother
  revert hsuffix
  decide

end BeanGen

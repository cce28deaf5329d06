import BeanGen.Proofs.Place.FileTree
import BeanGen.Run.Generation
import BeanGen.Run.Settings

/-!
# What cuts a run short

A run that does not end well ought to say why: the failures of the configuration, of the roots and of the
output are reported, and a source file that is no text is passed over. Three failures are not reported
(`Failure.isReported`), and each has one cause (`IsCutShort`): a configuration that is not in UTF-8, the
ignore file of a root that is not in UTF-8 or has a line without a pattern, and a null character in the path
of a file to be written. Every other failure of a run is reported (`forall_isReported_iff`).
-/

namespace BeanGen

/-- The configuration of a run; the defaults if there is no path to one. -/
def configurationAt (tree : FileTree) (workDir : Place) : Option String → Except Failure Config
  | none => .ok {}
  | some path => Config.load tree workDir path

/-- A run with the configuration at a path: the files it wrote, or why it stopped. -/
def configuredRun (tree : FileTree) (roots : Roots) (configPath modelPath : Option String)
    (outputDir : String) : Except Failure (List Output) := do
  let config ← configurationAt tree roots.workDir configPath
  (run config roots tree modelPath outputDir).2

/-- The ignore file of a directory is not in UTF-8, or has a malformed line. -/
def HasBrokenIgnoreFile (tree : FileTree) (dir : Place) : Prop :=
  ∃ content, tree.get? (dir ++ [ignoreFile]) = some (.file content) ∧
    ∀ text, Text.decode? content = some text →
      ∃ line ∈ Text.lines text.toList, IgnoreRule.ofLine line = .error .malformed

/-- What cuts a run short. Roots are taken in their order, and so are the files to be written. -/
inductive IsCutShort (tree : FileTree) (roots : Roots) (configPath modelPath : Option String)
    (outputDir : String) : Prop where
  | byConfiguration {path : String} {content : ByteArray}
      (hpath : configPath = some path)
      (hfile : tree.find? roots.workDir path = some (.file content))
      (hcontent : Text.decode? content = none) :
      IsCutShort tree roots configPath modelPath outputDir
  | byIgnoreFile {config : Config} {front back : List Place} {root : Place}
      (hconfig : configurationAt tree roots.workDir configPath = .ok config)
      (hroots : roots.dirs = front ++ root :: back)
      (hfront : ∀ earlier ∈ front, tree.isDirAt earlier = true ∧ ¬ HasBrokenIgnoreFile tree earlier)
      (hroot : HasBrokenIgnoreFile tree root) :
      IsCutShort tree roots configPath modelPath outputDir
  | byPath {config : Config} {front back : List Output} {output : Output}
      (hconfig : configurationAt tree roots.workDir configPath = .ok config)
      (houtputs : generate config roots tree modelPath outputDir = .ok (front ++ output :: back))
      (hfront : (Output.writeAll roots.workDir tree front).2 = none)
      (hpath : '\x00' ∈ output.path.toList) :
      IsCutShort tree roots configPath modelPath outputDir

/-- The failure that a computation ends with is not reported. -/
def EndsSilently {α : Type} (result : Except Failure α) : Prop :=
  ∃ failure, result = .error failure ∧ failure.isReported = false

/-! ## Computations in sequence -/

section
variable {α β : Type}

/-- A result is no silent end. -/
@[simp]
theorem not_endsSilently_ok (a : α) : ¬ EndsSilently (.ok a : Except Failure α) := by
  rintro ⟨failure, ⟨⟩, -⟩

/-- A failure is a silent end if it is not reported. -/
@[simp]
theorem endsSilently_error_iff (failure : Failure) :
    EndsSilently (.error failure : Except Failure α) ↔ failure.isReported = false := by
  constructor
  · rintro ⟨_, ⟨⟩, h⟩
    exact h
  · exact fun h => ⟨failure, rfl, h⟩

/-- Two computations end silently where the first does, or the second after a result of the first. -/
theorem endsSilently_bind_iff (first : Except Failure α) (second : α → Except Failure β) :
    EndsSilently (first >>= second) ↔
      EndsSilently first ∨ ∃ a, first = .ok a ∧ EndsSilently (second a) := by
  cases first with
  | error failure =>
    show EndsSilently (.error failure : Except Failure β) ↔ _
    simp
  | ok a =>
    show EndsSilently (second a) ↔ _
    simp

/-- What is done with a result does not end silently. -/
theorem endsSilently_bind_pure_iff (first : Except Failure α) (f : α → β) :
    EndsSilently (first >>= fun a => pure (f a)) ↔ EndsSilently first := by
  rw [endsSilently_bind_iff]
  refine or_iff_left ?_
  rintro ⟨a, -, ha⟩
  exact not_endsSilently_ok (f a) ha

/-- A computation for each element ends silently at the first element where one does not give a result. -/
theorem endsSilently_mapM_iff (f : α → Except Failure β) (xs : List α) :
    EndsSilently (xs.mapM f) ↔ ∃ front x back, xs = front ++ x :: back ∧
      (∀ earlier ∈ front, ∃ b, f earlier = .ok b) ∧ EndsSilently (f x) := by
  induction xs with
  | nil =>
    rw [List.mapM_nil]
    refine iff_of_false (not_endsSilently_ok []) ?_
    rintro ⟨front, x, back, heq, -⟩
    simp at heq
  | cons x xs ih =>
    rw [List.mapM_cons, endsSilently_bind_iff]
    simp only [endsSilently_bind_pure_iff, ih]
    constructor
    · rintro (hx | ⟨b, hb, front, y, back, rfl, hfront, hy⟩)
      · exact ⟨[], x, xs, rfl, by simp, hx⟩
      · exact ⟨x :: front, y, back, rfl, List.forall_mem_cons.2 ⟨⟨b, hb⟩, hfront⟩, hy⟩
    · rintro ⟨front, y, back, heq, hfront, hy⟩
      cases front with
      | nil =>
        obtain ⟨rfl, rfl⟩ := List.cons.inj heq
        exact .inl hy
      | cons z front =>
        obtain ⟨rfl, rfl⟩ := List.cons.inj heq
        obtain ⟨⟨b, hb⟩, hfront⟩ := List.forall_mem_cons.1 hfront
        exact .inr ⟨b, hb, front, y, back, rfl, hfront, hy⟩

end

/-! ## The configuration -/

section
variable {tree : FileTree} {workDir : Place}

/-- What is wrong with the text of a configuration is reported. -/
theorem not_endsSilently_ofDocument (path text : String) :
    ¬ EndsSilently (Config.ofDocument path text) := by
  unfold Config.ofDocument
  split
  · simp [Failure.isReported]
  · simp
  · split <;> simp [Failure.isReported]
  · simp [Failure.isReported]

/-- The configuration ends a run silently if its file is not in UTF-8. -/
theorem endsSilently_configurationAt_iff (configPath : Option String) :
    EndsSilently (configurationAt tree workDir configPath) ↔ ∃ path content, configPath = some path ∧
      tree.find? workDir path = some (.file content) ∧ Text.decode? content = none := by
  cases configPath with
  | none => simp [configurationAt]
  | some path =>
    rw [configurationAt, Config.load]
    cases hfile : tree.find? workDir path with
    | none => simp [hfile]
    | some found =>
      cases found with
      | dir entries => simp [hfile, Failure.isReported]
      | file content =>
        cases htext : Text.decode? content with
        | none => simp [hfile, htext, Failure.isReported]
        | some text => simp [hfile, htext, not_endsSilently_ofDocument]

end

/-! ## The roots -/

section
variable {tree : FileTree} {root : Place}

/-- A line that makes no rule and is not passed over is malformed. -/
theorem eq_malformed_of_ofLine {line : List Char} {fault : PathPattern.Fault}
    (h : IgnoreRule.ofLine line = .error fault) : fault = .malformed := by
  have hpattern : ∀ {ignores cs}, IgnoreRule.ofPattern ignores cs = .error fault →
      fault = .malformed := by
    intro ignores cs h
    unfold IgnoreRule.ofPattern at h
    split at h <;> cases h
    rfl
  unfold IgnoreRule.ofLine at h
  split at h
  · cases h
  · cases h
  · cases h
  · exact hpattern h
  · exact hpattern h

example : IgnoreRule.ofLine ['!'] = .error .malformed := rfl

/-- The lines of a file are read unless one of them is malformed. -/
theorem exists_error_ofLines_iff (lines : List (List Char)) :
    (∃ text, IgnoreRule.ofLines lines = .error text) ↔
      ∃ line ∈ lines, IgnoreRule.ofLine line = .error .malformed := by
  unfold IgnoreRule.ofLines
  induction lines with
  | nil => simp [bind, Except.bind, pure, Except.pure]
  | cons line lines ih =>
    rw [List.mapM_cons]
    cases hline : IgnoreRule.ofLine line with
    | error fault =>
      rw [eq_malformed_of_ofLine hline] at hline
      exact iff_of_true ⟨_, rfl⟩ ⟨line, List.mem_cons_self, hline⟩
    | ok rule? =>
      simp only [List.mem_cons, exists_eq_or_imp, hline, reduceCtorEq, false_or]
      rw [← ih]
      cases lines.mapM fun line => (IgnoreRule.ofLine line).mapError fun _ => String.ofList line with
      | error text => exact iff_of_true ⟨text, rfl⟩ ⟨text, rfl⟩
      | ok rules => exact iff_of_false (by rintro ⟨_, ⟨⟩⟩) (by rintro ⟨_, ⟨⟩⟩)

/-- An ignore file that cannot be read ends a run silently. -/
theorem endsSilently_ignoreRules_iff (dir : FileTree) :
    EndsSilently (ignoreRules dir) ↔ ∃ content, dir.get? [ignoreFile] = some (.file content) ∧
      ∀ text, Text.decode? content = some text →
        ∃ line ∈ Text.lines text.toList, IgnoreRule.ofLine line = .error .malformed := by
  unfold ignoreRules
  cases hfile : dir.get? [ignoreFile] with
  | none => simp
  | some found =>
    cases found with
    | dir entries => simp
    | file content =>
      cases htext : Text.decode? content with
      | none => simp [htext, Failure.isReported]
      | some text =>
        simp only [htext, Option.some.injEq, FileTree.file.injEq, exists_eq_left', forall_eq']
        rw [← exists_error_ofLines_iff]
        cases IgnoreRule.ofLines (Text.lines text.toList) with
        | error line => exact iff_of_true ((endsSilently_error_iff _).2 rfl) ⟨line, rfl⟩
        | ok rules => exact iff_of_false (not_endsSilently_ok rules) (by rintro ⟨_, ⟨⟩⟩)

/-- What is wrong with an ignore file is never reported. -/
theorem endsSilently_of_ignoreRules {dir : FileTree} {failure : Failure}
    (h : ignoreRules dir = .error failure) : EndsSilently (ignoreRules dir) := by
  rw [h, endsSilently_error_iff]
  unfold ignoreRules at h
  split at h
  · split at h
    · next text _ =>
      cases hlines : IgnoreRule.ofLines (Text.lines text.toList) with
      | error line =>
        rw [hlines] at h
        cases h
        rfl
      | ok rules =>
        rw [hlines] at h
        cases h
    · cases h
      rfl
  · cases h

/-- Ignore files are in directories. -/
theorem isDirAt_of_hasBrokenIgnoreFile (h : HasBrokenIgnoreFile tree root) :
    tree.isDirAt root = true := by
  obtain ⟨content, hfile, -⟩ := h
  rw [FileTree.get?_append, Option.bind_eq_some_iff] at hfile
  obtain ⟨found, hfound, hfile⟩ := hfile
  cases found with
  | file content => cases hfile
  | dir entries => exact FileTree.isDirAt_iff.2 ⟨entries, hfound⟩

/-- The source files below a directory are found by the rules of its ignore file. -/
theorem sourcesOf_of_dir {entries : List (String × FileTree)} (h : tree.get? root = some (.dir entries)) :
    sourcesOf tree root = ignoreRules (.dir entries) >>= fun rules =>
      pure ((sourcesBelow rules [] (.dir entries)).map (root ++ ·)) := by
  rw [sourcesOf, h]

/-- Without a directory the root is missing. -/
theorem sourcesOf_of_isDirAt_eq_false (h : tree.isDirAt root = false) :
    sourcesOf tree root = .error (.rootMissing root) := by
  unfold sourcesOf
  split
  · next entries hroot => rw [FileTree.isDirAt_iff.2 ⟨entries, hroot⟩] at h; cases h
  · rfl

/-- The ignore file of a directory is broken if it cannot be read. -/
theorem hasBrokenIgnoreFile_iff {entries : List (String × FileTree)}
    (h : tree.get? root = some (.dir entries)) :
    HasBrokenIgnoreFile tree root ↔ EndsSilently (ignoreRules (.dir entries)) := by
  rw [endsSilently_ignoreRules_iff, HasBrokenIgnoreFile, FileTree.get?_append, h, Option.bind_some]

/-- A root ends a run silently if its ignore file is broken. -/
theorem endsSilently_sourcesOf_iff :
    EndsSilently (sourcesOf tree root) ↔ HasBrokenIgnoreFile tree root := by
  cases hdir : tree.isDirAt root with
  | false =>
    rw [sourcesOf_of_isDirAt_eq_false hdir]
    refine iff_of_false (by simp [Failure.isReported]) fun hbroken => ?_
    rw [isDirAt_of_hasBrokenIgnoreFile hbroken] at hdir
    cases hdir
  | true =>
    obtain ⟨entries, hroot⟩ := FileTree.isDirAt_iff.1 hdir
    rw [sourcesOf_of_dir hroot, endsSilently_bind_pure_iff, hasBrokenIgnoreFile_iff hroot]

/-- The source files below a root are found if it is a directory and its ignore file not broken. -/
theorem exists_ok_sourcesOf_iff :
    (∃ places, sourcesOf tree root = .ok places) ↔
      tree.isDirAt root = true ∧ ¬ HasBrokenIgnoreFile tree root := by
  cases hdir : tree.isDirAt root with
  | false => simp [sourcesOf_of_isDirAt_eq_false hdir]
  | true =>
    obtain ⟨entries, hroot⟩ := FileTree.isDirAt_iff.1 hdir
    rw [hasBrokenIgnoreFile_iff hroot, sourcesOf_of_dir hroot, and_iff_right rfl]
    cases hrules : ignoreRules (.dir entries) with
    | error failure =>
      have hsilent := endsSilently_of_ignoreRules hrules
      rw [hrules] at hsilent
      exact iff_of_false (by rintro ⟨_, ⟨⟩⟩) fun hnot => hnot hsilent
    | ok rules => exact iff_of_true ⟨_, rfl⟩ (not_endsSilently_ok rules)

end

/-! ## The files to be written -/

section
variable {tree : FileTree} {workDir : Place}

/-- Writing files ends silently at the first with a null character in its path, if those before it can be
written. -/
theorem exists_failure_writeAll_iff (outputs : List Output) :
    (∃ failure, (Output.writeAll workDir tree outputs).2 = some failure ∧ failure.isReported = false) ↔
      ∃ front output back, outputs = front ++ output :: back ∧
        (Output.writeAll workDir tree front).2 = none ∧ '\x00' ∈ output.path.toList := by
  induction outputs generalizing tree with
  | nil => simp [Output.writeAll]
  | cons output outputs ih =>
    have hfailure : ∀ obstacle, (output.failure obstacle).isReported = false ↔
        obstacle = .nullCharacter := by
      intro obstacle
      cases output <;> cases obstacle <;> simp [Output.failure, Output.unwritable, Failure.isReported]
    rw [Output.writeAll]
    cases hwrite : tree.writeAt workDir output.path output.text.toUTF8 with
    | error obstacle =>
      have hnull : tree.writeAt workDir output.path output.text.toUTF8 = .error .nullCharacter ↔
          '\x00' ∈ output.path.toList := FileTree.writeAt_eq_nullCharacter_iff _ _
      rw [hwrite, Except.error.injEq] at hnull
      simp only [Option.some.injEq, exists_eq_left', hfailure, hnull]
      constructor
      · exact fun hpath => ⟨[], output, outputs, rfl, rfl, hpath⟩
      · rintro ⟨front, other, back, heq, hfront, hpath⟩
        cases front with
        | nil => exact (List.cons.inj heq).1 ▸ hpath
        | cons first front =>
          obtain ⟨rfl, -⟩ := List.cons.inj heq
          rw [Output.writeAll, hwrite] at hfront
          cases hfront
    | ok after =>
      dsimp only
      rw [ih]
      constructor
      · rintro ⟨front, other, back, rfl, hfront, hpath⟩
        refine ⟨output :: front, other, back, rfl, ?_, hpath⟩
        rw [Output.writeAll, hwrite]
        exact hfront
      · rintro ⟨front, other, back, heq, hfront, hpath⟩
        cases front with
        | nil =>
          obtain ⟨rfl, -⟩ := List.cons.inj heq
          rw [(FileTree.writeAt_eq_nullCharacter_iff _ _).2 hpath] at hwrite
          cases hwrite
        | cons first front =>
          obtain ⟨rfl, rfl⟩ := List.cons.inj heq
          rw [Output.writeAll, hwrite] at hfront
          exact ⟨front, other, back, rfl, hfront, hpath⟩

end

/-! ## The run -/

section
variable {tree : FileTree} {roots : Roots} {configPath modelPath : Option String} {outputDir : String}

/-- Reading source files does not end a run silently. -/
theorem not_endsSilently_readSources (workDir : Place) (paths : List String) :
    ¬ EndsSilently (readSources tree workDir paths) := by
  rw [readSources, endsSilently_bind_pure_iff, endsSilently_mapM_iff]
  rintro ⟨-, path, -, -, -, hpath⟩
  unfold readSource at hpath
  split at hpath
  · exact not_endsSilently_ok _ hpath
  · simp [Failure.isReported] at hpath

/-- What is to be written is known unless a root ends the run silently. -/
theorem endsSilently_generate_iff (config : Config) :
    EndsSilently (generate config roots tree modelPath outputDir) ↔
      ∃ front root back, roots.dirs = front ++ root :: back ∧
        (∀ earlier ∈ front, tree.isDirAt earlier = true ∧ ¬ HasBrokenIgnoreFile tree earlier) ∧
        HasBrokenIgnoreFile tree root := by
  rw [generate, endsSilently_bind_pure_iff, declarations, endsSilently_bind_iff, sourcePlaces,
    endsSilently_bind_pure_iff, endsSilently_mapM_iff]
  simp only [exists_ok_sourcesOf_iff, endsSilently_sourcesOf_iff]
  refine or_iff_left ?_
  rintro ⟨places, -, hsources⟩
  rw [endsSilently_bind_pure_iff] at hsources
  exact not_endsSilently_readSources _ _ hsources

/-- A run ends silently where a root or the path of a file ends it so. -/
theorem endsSilently_run_iff (config : Config) :
    EndsSilently (run config roots tree modelPath outputDir).2 ↔
      EndsSilently (generate config roots tree modelPath outputDir) ∨
      ∃ outputs, generate config roots tree modelPath outputDir = .ok outputs ∧
        ∃ front output back, outputs = front ++ output :: back ∧
          (Output.writeAll roots.workDir tree front).2 = none ∧ '\x00' ∈ output.path.toList := by
  unfold run
  cases generate config roots tree modelPath outputDir with
  | error failure => simp
  | ok outputs =>
    simp only [not_endsSilently_ok, false_or, Except.ok.injEq, exists_eq_left']
    rw [← exists_failure_writeAll_iff]
    cases Output.writeAll roots.workDir tree outputs with
    | mk after stop => cases stop <;> simp

/-- A run ends silently exactly when it is cut short. -/
theorem endsSilently_configuredRun_iff :
    EndsSilently (configuredRun tree roots configPath modelPath outputDir) ↔
      IsCutShort tree roots configPath modelPath outputDir := by
  rw [configuredRun, endsSilently_bind_iff, endsSilently_configurationAt_iff]
  simp only [endsSilently_run_iff, endsSilently_generate_iff]
  constructor
  · rintro (⟨path, content, hpath, hfile, hcontent⟩ |
      ⟨config, hconfig, ⟨front, root, back, hroots, hfront, hroot⟩ |
        ⟨_, houtputs, front, output, back, rfl, hfront, hpath⟩⟩)
    · exact .byConfiguration hpath hfile hcontent
    · exact .byIgnoreFile hconfig hroots hfront hroot
    · exact .byPath hconfig houtputs hfront hpath
  · intro h
    cases h with
    | byConfiguration hpath hfile hcontent => exact .inl ⟨_, _, hpath, hfile, hcontent⟩
    | byIgnoreFile hconfig hroots hfront hroot =>
      exact .inr ⟨_, hconfig, .inl ⟨_, _, _, hroots, hfront, hroot⟩⟩
    | byPath hconfig houtputs hfront hpath =>
      exact .inr ⟨_, hconfig, .inr ⟨_, houtputs, _, _, _, rfl, hfront, hpath⟩⟩

end

end BeanGen

import BeanGen.Place.Roots

/-!
# Where a file lies

What leads to a file from its root begins behind the first root that the file lies in, and ends in front of the
name of the file (`Roots.relativeDir?_eq_some_iff`, `Roots.directoryIn?_eq_some_iff`). Roots behind this one do
not matter, so more of them may be added there (`Roots.relativeDir?_extended`).
-/

namespace BeanGen

/-- The roots with more of them behind. -/
def Roots.extended (roots : Roots) (more : List Place) : Roots :=
  ⟨roots.workDir, roots.dirs ++ more⟩

section
variable {roots : Roots} {path dir : String}

/-- What leads from one place down to another one, put behind the first, is the second. -/
theorem Place.relativeTo?_eq_some_iff {base place : Place} {rest : List String} :
    relativeTo? base place = some rest ↔ base ++ rest = place := by
  unfold relativeTo?
  constructor
  · intro h
    obtain ⟨hbelow, hrest⟩ := Option.ite_none_right_eq_some.1 h
    obtain ⟨names, rfl⟩ := List.isPrefixOf_iff_prefix.1 hbelow
    rw [List.drop_left] at hrest
    rw [Option.some.inj hrest]
  · rintro rfl
    rw [if_pos (List.isPrefixOf_iff_prefix.2 (List.prefix_append base rest)), List.drop_left]

/-- The directory of a file seen from a place: the names between the place and the name of the file. -/
theorem Roots.directoryIn?_eq_some_iff {base place : Place} :
    directoryIn? (some base) place = some dir ↔
      ∃ names file, base ++ (names ++ [file]) = place ∧ names ≠ [] ∧ "/".intercalate names = dir := by
  unfold directoryIn?
  rw [Option.bind_some]
  constructor
  · intro h
    split at h
    · cases h
    · next rest hrest =>
      split at h
      · cases h
      · next hne =>
        have hrest' : rest ≠ [] := by
          rintro rfl
          exact hne rfl
        refine ⟨rest.dropLast, rest.getLast hrest', ?_, hne, Option.some.inj h⟩
        rw [List.dropLast_concat_getLast hrest']
        exact Place.relativeTo?_eq_some_iff.1 hrest
  · rintro ⟨names, file, hplace, hne, rfl⟩
    rw [Place.relativeTo?_eq_some_iff.2 hplace]
    dsimp only
    rw [List.dropLast_concat]
    split
    · exact absurd rfl hne
    · rfl

/-- The place is the root or lies below it, and neither of an earlier root. -/
structure Roots.IsRootOf (roots : Roots) (place root : Place) : Prop where
  above : root <+: place
  first : ∃ front back, roots.dirs = front ++ root :: back ∧ ∀ earlier ∈ front, ¬ earlier <+: place

/-- The lookup finds the first root that is the place or lies above it. -/
theorem Roots.rootOf?_eq_some_iff {place root : Place} :
    roots.rootOf? place = some root ↔ roots.IsRootOf place root := by
  unfold rootOf?
  rw [List.find?_eq_some_iff_append]
  simp only [Bool.not_eq_true', ← Bool.not_eq_true, List.isPrefixOf_iff_prefix]
  exact ⟨fun h => ⟨h.1, h.2⟩, fun h => ⟨h.above, h.first⟩⟩

/-- The directory of a file relative to its root is seen from the first root that it lies in. -/
theorem Roots.relativeDir?_eq_some_iff : roots.relativeDir? path = some dir ↔
    ∃ front root back, roots.dirs = front ++ root :: back ∧
      (∀ earlier ∈ front, ¬ earlier <+: Place.resolve roots.workDir path) ∧
      directoryIn? (some root) (Place.resolve roots.workDir path) = some dir := by
  unfold relativeDir?
  constructor
  · intro h
    cases hroot : roots.rootOf? (Place.resolve roots.workDir path) with
    | none =>
      simp only [hroot, directoryIn?] at h
      cases h
    | some root =>
      obtain ⟨front, back, hsplit, hfront⟩ := (rootOf?_eq_some_iff.1 hroot).first
      exact ⟨front, root, back, hsplit, hfront, by simpa only [hroot] using h⟩
  · rintro ⟨front, root, back, hsplit, hfront, hdir⟩
    obtain ⟨names, file, hplace, -, -⟩ := directoryIn?_eq_some_iff.1 hdir
    have hroot : roots.rootOf? (Place.resolve roots.workDir path) = some root :=
      rootOf?_eq_some_iff.2 ⟨⟨_, hplace⟩, front, back, hsplit, hfront⟩
    simpa only [hroot] using hdir

/-- More roots do not change the directory that a file has relative to its root. -/
theorem Roots.relativeDir?_extended (h : roots.relativeDir? path = some dir) (more : List Place) :
    (roots.extended more).relativeDir? path = some dir := by
  obtain ⟨front, root, back, hsplit, hfront, hdir⟩ := relativeDir?_eq_some_iff.1 h
  refine relativeDir?_eq_some_iff.2 ⟨front, root, back ++ more, ?_, hfront, hdir⟩
  rw [extended, hsplit, List.append_assoc, List.cons_append]

end

end BeanGen

import BeanGen.Refine.EnumInterfaces

/-!
# Which entry gives an enum its interface

An enum is looked up under its name, then under its package, then under the key for every enum
(`GivesInterface`). A key such as `com.game.*` ought to stand for a package and the packages below it
(`isWithin`). The lookup takes any package whose name begins with the text (`beginsText`,
`enumInterface?_eq_some_iff`), so `com.game.*` gives an interface to the enums of `com.gameplay`.

The two rules give an enum the same interface exactly when its name decides, or no entry for packages
begins the name of its package, or the first such entry covers it as a package, too, or has the interface
that is left when the entries up to this one are passed over (`enumInterface?_byPackages_iff`).
-/

namespace BeanGen

open Config (Table)
open Text (nonBlank?)

/-- The name of the package begins with the text. -/
def beginsText (package text : String) : Bool :=
  text.toList.isPrefixOf package.toList

/-- The package is the other one, or stands below it. -/
def isWithin (package other : String) : Bool :=
  package == other || (other.toList ++ ['.']).isPrefixOf package.toList

/-- The key stands for packages, and the package is one of them. -/
def CoversPackage (fits : String → String → Bool) (package key : String) : Prop :=
  ∃ other, key = other ++ ".*" ∧ fits package other = true

/-- The table has an entry for an enum: under its name; or else the first one that stands for its package;
or else the one for every enum. Its value may be blank. -/
inductive GivesInterface (fits : String → String → Bool) (table : Table) (name package : String) :
    String → Prop where
  | byName {value : String} (h : table.get? name = some value) :
      GivesInterface fits table name package value
  | byPackage {value key : String} {front back : List (String × String)}
      (hname : table.get? name = none) (hpackage : package ≠ "")
      (hsplit : table.entries = front ++ (key, value) :: back)
      (hfront : ∀ earlier ∈ front, ¬ CoversPackage fits package earlier.1)
      (h : CoversPackage fits package key) :
      GivesInterface fits table name package value
  | byDefault {value : String} (hname : table.get? name = none)
      (hpackage : package = "" ∨ ∀ entry ∈ table.entries, ¬ CoversPackage fits package entry.1)
      (h : table.get? "*" = some value) :
      GivesInterface fits table name package value

/-- The name of the enum decides nothing, and the first entry for packages that begins the name of its
package, with the value `value`, ends within a segment. Behind it stand the entries `later`. -/
structure StraysInto (table : Table) (name package value : String) (later : List (String × String)) :
    Prop where
  name_eq_none : table.get? name = none
  package_ne_empty : package ≠ ""
  exists_entry : ∃ front key, table.entries = front ++ (key, value) :: later ∧
    (∀ earlier ∈ front, ¬ CoversPackage beginsText package earlier.1) ∧
    CoversPackage beginsText package key ∧ ¬ CoversPackage isWithin package key

/-! ## Keys for packages -/

section
variable {fits : String → String → Bool} {table : Table} {name package key value : String}

/-- A key stands for packages when a dot and a star end it. -/
theorem packagePattern?_eq_some_iff {beginning : List Char} :
    packagePattern? key = some beginning ↔ key = String.ofList beginning ++ ".*" := by
  unfold packagePattern?
  constructor
  · intro h
    split at h
    · next hsuffix =>
      obtain ⟨front, hfront⟩ := List.isSuffixOf_iff_suffix.1 hsuffix
      obtain rfl := Option.some.inj h
      rw [← String.toList_inj, ← hfront]
      simp
    · cases h
  · rintro rfl
    simp

/-- Whether a key covers a package is found out by taking the dot and the star off. -/
theorem coversPackage_iff : CoversPackage fits package key ↔
    ∃ beginning, packagePattern? key = some beginning ∧ fits package (String.ofList beginning) = true := by
  simp only [packagePattern?_eq_some_iff]
  constructor
  · rintro ⟨other, rfl, hfits⟩
    exact ⟨other.toList, by rw [String.ofList_toList], by rwa [String.ofList_toList]⟩
  · rintro ⟨beginning, rfl, hfits⟩
    exact ⟨_, rfl, hfits⟩

instance : Decidable (CoversPackage fits package key) :=
  match h : packagePattern? key with
  | none => isFalse fun hcovers => by
      obtain ⟨beginning, hpattern, -⟩ := coversPackage_iff.1 hcovers
      rw [h] at hpattern
      cases hpattern
  | some beginning => decidable_of_iff (fits package (String.ofList beginning) = true) <| by
      rw [coversPackage_iff, h]
      simp

/-- A package that is another one or stands below it has a name that begins with the other's. -/
theorem beginsText_of_isWithin {other : String} (h : isWithin package other = true) :
    beginsText package other = true := by
  rw [isWithin, Bool.or_eq_true, beq_iff_eq, List.isPrefixOf_iff_prefix] at h
  rw [beginsText, List.isPrefixOf_iff_prefix]
  rcases h with rfl | hbelow
  · exact List.prefix_rfl
  · exact (List.prefix_append other.toList ['.']).trans hbelow

/-- A key that covers a package by its segments covers it by its text. -/
theorem CoversPackage.beginsText (h : CoversPackage isWithin package key) :
    CoversPackage beginsText package key := by
  obtain ⟨other, rfl, hwithin⟩ := h
  exact ⟨other, rfl, beginsText_of_isWithin hwithin⟩

/-! ## The lookup -/

/-- The value of the first entry for packages that covers the package. -/
def coveringValue? (fits : String → String → Bool) (package : String)
    (entries : List (String × String)) : Option String :=
  (entries.find? fun entry => CoversPackage fits package entry.1).map (·.2)

/-- The value of the entry that the rule finds. -/
def givenValue? (fits : String → String → Bool) (table : Table) (name package : String) : Option String :=
  ((table.get? name).or (if package = "" then none else coveringValue? fits package table.entries)).or
    (table.get? "*")

/-- A covering value is that of an entry in front of which none covers the package. -/
theorem coveringValue?_eq_some_iff {entries : List (String × String)} :
    coveringValue? fits package entries = some value ↔
      ∃ front key back, entries = front ++ (key, value) :: back ∧
        (∀ earlier ∈ front, ¬ CoversPackage fits package earlier.1) ∧ CoversPackage fits package key := by
  rw [coveringValue?, Option.map_eq_some_iff]
  constructor
  · rintro ⟨⟨key, other⟩, hfind, rfl⟩
    obtain ⟨hcovers, front, back, hsplit, hfront⟩ := List.find?_eq_some_iff_append.1 hfind
    exact ⟨front, key, back, hsplit, fun earlier hearlier => by simpa using hfront earlier hearlier,
      by simpa using hcovers⟩
  · rintro ⟨front, key, back, hsplit, hfront, hcovers⟩
    refine ⟨(key, value), List.find?_eq_some_iff_append.2 ⟨by simpa using hcovers, front, back, hsplit, ?_⟩,
      rfl⟩
    intro earlier hearlier
    simpa using hfront earlier hearlier

/-- There is no covering value exactly when no entry covers the package. -/
theorem coveringValue?_eq_none_iff {entries : List (String × String)} :
    coveringValue? fits package entries = none ↔
      ∀ entry ∈ entries, ¬ CoversPackage fits package entry.1 := by
  simp [coveringValue?]

/-- The rule as three lookups one after the other. -/
theorem givesInterface_iff :
    GivesInterface fits table name package value ↔ givenValue? fits table name package = some value := by
  rw [givenValue?, Option.or_eq_some_iff, Option.or_eq_some_iff, Option.or_eq_none_iff]
  constructor
  · intro h
    cases h with
    | byName h => exact .inl (.inl h)
    | byPackage hname hpackage hsplit hfront h =>
      refine .inl (.inr ⟨hname, ?_⟩)
      rw [if_neg hpackage]
      exact coveringValue?_eq_some_iff.2 ⟨_, _, _, hsplit, hfront, h⟩
    | byDefault hname hpackage h =>
      refine .inr ⟨⟨hname, ?_⟩, h⟩
      rw [ite_eq_left_iff]
      intro hne
      exact coveringValue?_eq_none_iff.2 (hpackage.resolve_left hne)
  · rintro ((h | ⟨hname, h⟩) | ⟨⟨hname, hnone⟩, h⟩)
    · exact .byName h
    · obtain ⟨hpackage, h⟩ := Option.ite_none_left_eq_some.1 h
      obtain ⟨front, key, back, hsplit, hfront, hcovers⟩ := coveringValue?_eq_some_iff.1 h
      exact .byPackage hname hpackage hsplit hfront hcovers
    · rw [ite_eq_left_iff] at hnone
      refine .byDefault hname ?_ h
      by_cases hpackage : package = ""
      · exact .inl hpackage
      · exact .inr (coveringValue?_eq_none_iff.1 (hnone hpackage))

/-- The lookup goes by the text of keys and trims what it finds. -/
theorem enumInterface?_eq : enumInterface? table name package =
    (givenValue? beginsText table name package).bind nonBlank? := by
  have hpackage : packageInterface? table package =
      if package = "" then none else coveringValue? beginsText package table.entries := by
    unfold packageInterface? coveringValue?
    congr 3
    funext entry
    obtain ⟨key, value⟩ := entry
    dsimp only
    rw [Bool.eq_iff_iff, decide_eq_true_iff, coversPackage_iff]
    cases packagePattern? key <;> simp [beginsText]
  rw [enumInterface?, hpackage]
  rfl

/-- The lookup follows the rule by texts. -/
theorem enumInterface?_eq_some_iff {interface : String} :
    enumInterface? table name package = some interface ↔
      ∃ value, GivesInterface beginsText table name package value ∧ nonBlank? value = some interface := by
  simp only [enumInterface?_eq, Option.bind_eq_some_iff, givesInterface_iff]

/-- Where an entry strays, the rule by segments takes what the later entries or the entry for every enum
have. -/
theorem StraysInto.givenValue?_eq {later : List (String × String)}
    (h : StraysInto table name package value later) :
    givenValue? beginsText table name package = some value ∧
      givenValue? isWithin table name package =
        (coveringValue? isWithin package later).or (table.get? "*") := by
  obtain ⟨hname, hpackage, front, key, hsplit, hfront, htext, hsegment⟩ := h
  have hnone : coveringValue? isWithin package front = none :=
    coveringValue?_eq_none_iff.2 fun earlier hearlier hcovers =>
      hfront earlier hearlier hcovers.beginsText
  constructor
  · exact givesInterface_iff.1 (.byPackage hname hpackage hsplit hfront htext)
  · rw [coveringValue?, Option.map_eq_none_iff] at hnone
    rw [givenValue?, hname, Option.none_or, if_neg hpackage, hsplit, coveringValue?, List.find?_append,
      hnone, Option.none_or, List.find?_cons_of_neg (by simpa using hsegment)]
    rfl

/-- Where no entry strays, the two rules find the same entry. -/
theorem givenValue?_eq_of_not_strays
    (h : ∀ value later, ¬ StraysInto table name package value later) :
    givenValue? isWithin table name package = givenValue? beginsText table name package := by
  cases hname : table.get? name with
  | some value => simp only [givenValue?, hname, Option.some_or]
  | none =>
    by_cases hpackage : package = ""
    · rw [givenValue?, givenValue?, if_pos hpackage, if_pos hpackage]
    · have hsame : coveringValue? isWithin package table.entries =
          coveringValue? beginsText package table.entries := by
        cases htext : coveringValue? beginsText package table.entries with
        | none =>
          rw [coveringValue?_eq_none_iff] at htext ⊢
          exact fun entry hentry hcovers => htext entry hentry hcovers.beginsText
        | some value =>
          obtain ⟨front, key, back, hsplit, hfront, hcovers⟩ := coveringValue?_eq_some_iff.1 htext
          have hwithin : CoversPackage isWithin package key :=
            Decidable.byContradiction fun hsegment =>
              h value back ⟨hname, hpackage, front, key, hsplit, hfront, hcovers, hsegment⟩
          exact coveringValue?_eq_some_iff.2 ⟨front, key, back, hsplit,
            fun earlier hearlier hcovers => hfront earlier hearlier hcovers.beginsText, hwithin⟩
      rw [givenValue?, givenValue?, hsame]

/-- **When interfaces are chosen by package.** The lookup gives an enum the interface that the rule by
segments gives it, or none where that rule gives none, exactly when each entry that covers the package of
the enum as a text only has the interface of what the rule by segments finds behind it. -/
theorem enumInterface?_byPackages_iff :
    (∀ interface, enumInterface? table name package = some interface ↔
      ∃ value, GivesInterface isWithin table name package value ∧ nonBlank? value = some interface) ↔
    ∀ value later, StraysInto table name package value later →
      ((coveringValue? isWithin package later).or (table.get? "*")).bind nonBlank? = nonBlank? value := by
  simp only [givesInterface_iff, ← Option.bind_eq_some_iff, ← Option.ext_iff, enumInterface?_eq]
  constructor
  · intro h value later hstrays
    obtain ⟨htext, hsegment⟩ := hstrays.givenValue?_eq
    rw [← hsegment, ← h, htext, Option.bind_some]
  · intro h
    by_cases hstrays : ∃ value later, StraysInto table name package value later
    · obtain ⟨value, later, hstrays⟩ := hstrays
      obtain ⟨htext, hsegment⟩ := hstrays.givenValue?_eq
      rw [htext, hsegment, Option.bind_some, h value later hstrays]
    · have hnone : ∀ value later, ¬ StraysInto table name package value later :=
        fun value later hvalue => hstrays ⟨value, later, hvalue⟩
      rw [givenValue?_eq_of_not_strays hnone]

end

/-- The key `com.game.*` gives an interface to an enum of the package `com.gameplay`. -/
theorem not_forall_enumInterface?_byPackages :
    ¬ ∀ (table : Table) (name package interface : String),
      enumInterface? table name package = some interface ↔
        ∃ value, GivesInterface isWithin table name package value ∧ nonBlank? value = some interface := by
  intro h
  obtain ⟨value, hgives, -⟩ :=
    (h (.ofPairs [("com.game.*", "com.api.Labelled")]) "Face" "com.gameplay" "com.api.Labelled").1
      (by decide)
  have hnone : givenValue? isWithin (.ofPairs [("com.game.*", "com.api.Labelled")]) "Face" "com.gameplay" =
      none := by decide
  rw [givesInterface_iff, hnone] at hgives
  cases hgives

end BeanGen

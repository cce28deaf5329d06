import BeanGen.Refine.FieldTypes

/-!
# Which entry fixes the type of a field

A field is looked up under its full name, then under its class and name, and then through the first
entry whose key fits the full name (`FixesType`). A key ought to fit by whole segments: as the full name
or as what stands in it behind a dot (`endsAtSegment`). The lookup takes any text that the full name ends
with (`endsText`, `fieldOverride?_eq_some_iff`), so `B.x` fixes the type of the field `x` of a class `AB`.

The two rules give a field the same type exactly when a name decides, or when the first entry that fits
fits by segments, or when the first entry that does has the same type (`fieldOverride?_bySegments_iff`).
-/

namespace BeanGen

open Config (Table)
open Text (nonBlank?)

/-- A field with its class. -/
def fieldOfClass (class_ field : String) : String :=
  class_ ++ "." ++ field

/-- A field with its class and package. -/
def fieldOfPackage (package class_ field : String) : String :=
  if package = "" then fieldOfClass class_ field else package ++ "." ++ fieldOfClass class_ field

/-- The name ends with the text. -/
def endsText (name ending : String) : Bool :=
  ending.toList.isSuffixOf name.toList

/-- The text is the name, or the name ends with a dot and the text. -/
def endsAtSegment (name ending : String) : Bool :=
  ending == name || ('.' :: ending.toList).isSuffixOf name.toList

/-- The type that an entry gives to what its key fits. Blank keys and values count for nothing, and white
space around them does not count. -/
def entryType? (fits : String → Bool) (entry : String × String) : Option String :=
  match nonBlank? entry.1 with
  | some ending => if fits ending then nonBlank? entry.2 else none
  | none => none

/-- The table fixes the type of a field: under its full name; or else under its class and name; or else by
the first entry whose key fits the full name. -/
inductive FixesType (fits : String → String → Bool) (table : Table) (package class_ field : String) :
    String → Prop where
  | byFullName {type : String}
      (h : (table.get? (fieldOfPackage package class_ field)).bind nonBlank? = some type) :
      FixesType fits table package class_ field type
  | byClass {type : String}
      (hfull : (table.get? (fieldOfPackage package class_ field)).bind nonBlank? = none)
      (h : (table.get? (fieldOfClass class_ field)).bind nonBlank? = some type) :
      FixesType fits table package class_ field type
  | byEnding {type : String} {front back : List (String × String)} {entry : String × String}
      (hfull : (table.get? (fieldOfPackage package class_ field)).bind nonBlank? = none)
      (hclass : (table.get? (fieldOfClass class_ field)).bind nonBlank? = none)
      (hsplit : table.entries = front ++ entry :: back)
      (hfront : ∀ earlier ∈ front,
        entryType? (fits (fieldOfPackage package class_ field)) earlier = none)
      (h : entryType? (fits (fieldOfPackage package class_ field)) entry = some type) :
      FixesType fits table package class_ field type

/-- No name fixes the type of the field, and the first entry whose key ends the full name, giving `type`,
ends it within a segment. Behind it stand the entries `later`. -/
structure StraysAt (table : Table) (package class_ field type : String)
    (later : List (String × String)) : Prop where
  full_eq_none : (table.get? (fieldOfPackage package class_ field)).bind nonBlank? = none
  class_eq_none : (table.get? (fieldOfClass class_ field)).bind nonBlank? = none
  exists_entry : ∃ front entry, table.entries = front ++ entry :: later ∧
    (∀ earlier ∈ front, entryType? (endsText (fieldOfPackage package class_ field)) earlier = none) ∧
    entryType? (endsText (fieldOfPackage package class_ field)) entry = some type ∧
    entryType? (endsAtSegment (fieldOfPackage package class_ field)) entry = none

section
variable {fits : String → String → Bool} {table : Table} {package class_ field type : String}

/-- What fits by segments fits as a text. -/
theorem endsText_of_endsAtSegment {name ending : String} (h : endsAtSegment name ending = true) :
    endsText name ending = true := by
  rw [endsAtSegment, Bool.or_eq_true, beq_iff_eq, List.isSuffixOf_iff_suffix] at h
  rw [endsText, List.isSuffixOf_iff_suffix]
  rcases h with rfl | hdot
  · exact List.suffix_rfl
  · exact (List.suffix_cons '.' ending.toList).trans hdot

/-- An entry that fits by segments gives the same type when it is taken to fit as a text. -/
theorem entryType?_endsText {name : String} {entry : String × String}
    (h : entryType? (endsAtSegment name) entry = some type) :
    entryType? (endsText name) entry = some type := by
  unfold entryType? at h ⊢
  split at h
  · next ending hkey =>
    rw [Option.ite_none_right_eq_some] at h
    simp only [endsText_of_endsAtSegment h.1, if_true, h.2]
  · cases h

/-- The rule as two names and a search through the entries. -/
theorem fixes_iff : FixesType fits table package class_ field type ↔
    (((table.get? (fieldOfPackage package class_ field)).bind nonBlank?).or
      ((table.get? (fieldOfClass class_ field)).bind nonBlank?)).or
        (table.entries.findSome? (entryType? (fits (fieldOfPackage package class_ field)))) =
          some type := by
  rw [Option.or_eq_some_iff, Option.or_eq_some_iff, Option.or_eq_none_iff]
  constructor
  · intro h
    cases h with
    | byFullName h => exact .inl (.inl h)
    | byClass hfull h => exact .inl (.inr ⟨hfull, h⟩)
    | byEnding hfull hclass hsplit hfront h =>
      exact .inr ⟨⟨hfull, hclass⟩, List.findSome?_eq_some_iff.2 ⟨_, _, _, hsplit, h, hfront⟩⟩
  · rintro ((h | ⟨hfull, h⟩) | ⟨⟨hfull, hclass⟩, h⟩)
    · exact .byFullName h
    · exact .byClass hfull h
    · obtain ⟨front, entry, back, hsplit, hentry, hfront⟩ := List.findSome?_eq_some_iff.1 h
      exact .byEnding hfull hclass hsplit hfront hentry

/-- The lookup follows the rule with endings of any kind. -/
theorem fieldOverride?_eq_some_iff :
    fieldOverride? table package class_ field = some type ↔
      FixesType endsText table package class_ field type := by
  rw [fixes_iff]
  rfl

/-- No two types are fixed for a field. -/
theorem FixesType.unique {other : String} (h : FixesType fits table package class_ field type)
    (hother : FixesType fits table package class_ field other) : type = other :=
  Option.some.inj ((fixes_iff.1 h).symm.trans (fixes_iff.1 hother))

/-- Where the rule by segments fixes a type, the rule with endings of any kind fixes one, too. -/
theorem FixesType.exists_endsText (h : FixesType endsAtSegment table package class_ field type) :
    ∃ other, FixesType endsText table package class_ field other := by
  cases h with
  | byFullName hname => exact ⟨_, .byFullName hname⟩
  | byClass hfull hname => exact ⟨_, .byClass hfull hname⟩
  | @byEnding front later entry hfull hclass hsplit _ hentry =>
    have hfound : (table.entries.findSome?
        (entryType? (endsText (fieldOfPackage package class_ field)))).isSome := by
      rw [List.findSome?_isSome_iff]
      refine ⟨entry, ?_, ?_⟩
      · rw [hsplit]
        exact List.mem_append_right _ List.mem_cons_self
      · rw [entryType?_endsText hentry]
        rfl
    obtain ⟨other, hother⟩ := Option.isSome_iff_exists.1 hfound
    refine ⟨other, fixes_iff.2 ?_⟩
    rw [hfull, hclass]
    exact hother

/-- Where nothing fits as a text, nothing fits by segments. -/
theorem entryType?_eq_none {name : String} {entry : String × String}
    (h : entryType? (endsText name) entry = none) :
    entryType? (endsAtSegment name) entry = none := by
  cases hsegment : entryType? (endsAtSegment name) entry with
  | none => rfl
  | some type =>
    rw [entryType?_endsText hsegment] at h
    cases h

/-- **When overrides match whole segments.** The lookup gives a field the type that the rule by segments
gives it, or none where that rule gives none, exactly when an entry that ends the full name within a
segment decides only with the type of the first later entry that fits by segments. -/
theorem fieldOverride?_bySegments_iff :
    (∀ type, fieldOverride? table package class_ field = some type ↔
      FixesType endsAtSegment table package class_ field type) ↔
    ∀ type later, StraysAt table package class_ field type later →
      later.findSome? (entryType? (endsAtSegment (fieldOfPackage package class_ field))) =
        some type := by
  simp only [fieldOverride?_eq_some_iff]
  constructor
  · rintro h type later ⟨hfull, hclass, front, entry, hsplit, hfront, htext, hsegment⟩
    -- the entry decides, so by assumption the rule by segments gives its type; it can only do so later
    have hfixes := (h type).1 (.byEnding hfull hclass hsplit hfront htext)
    have hnone : front.findSome?
        (entryType? (endsAtSegment (fieldOfPackage package class_ field))) = none :=
      List.findSome?_eq_none_iff.2 fun earlier hearlier => entryType?_eq_none (hfront earlier hearlier)
    rw [fixes_iff, hfull, hclass, hsplit, List.findSome?_append, hnone, List.findSome?_cons,
      hsegment] at hfixes
    exact hfixes
  · intro h
    have hforward : ∀ {type}, FixesType endsText table package class_ field type →
        FixesType endsAtSegment table package class_ field type := by
      intro type hfixes
      cases hfixes with
      | byFullName hname => exact .byFullName hname
      | byClass hfull hname => exact .byClass hfull hname
      | @byEnding front later entry hfull hclass hsplit hfront htext =>
        have hnone : ∀ earlier ∈ front,
            entryType? (endsAtSegment (fieldOfPackage package class_ field)) earlier = none :=
          fun earlier hearlier => entryType?_eq_none (hfront earlier hearlier)
        cases hsegment :
            entryType? (endsAtSegment (fieldOfPackage package class_ field)) entry with
        | some other =>
          have hsame : other = type :=
            Option.some.inj ((entryType?_endsText hsegment).symm.trans htext)
          exact .byEnding hfull hclass hsplit hnone (hsame ▸ hsegment)
        | none =>
          have hlater := h type later ⟨hfull, hclass, front, entry, hsplit, hfront, htext, hsegment⟩
          rw [fixes_iff, hfull, hclass, hsplit, List.findSome?_append,
            List.findSome?_eq_none_iff.2 hnone, List.findSome?_cons, hsegment]
          exact hlater
    refine fun type => ⟨hforward, fun hfixes => ?_⟩
    -- the lookup finds some type, too, and by the other direction it is this one
    obtain ⟨other, hother⟩ := hfixes.exists_endsText
    rwa [hfixes.unique (hforward hother)]

end

/-- The key `B.x` fixes the type of the field `x` of the class `AB`. -/
theorem not_forall_fieldOverride?_bySegments :
    ¬ ∀ (table : Table) (package class_ field type : String),
      fieldOverride? table package class_ field = some type ↔
        FixesType endsAtSegment table package class_ field type := by
  intro h
  have hfixes := (h (.ofPairs [("B.x", "long")]) "" "AB" "x" "long").1 (by decide)
  rw [fixes_iff] at hfixes
  revert hfixes
  decide

end BeanGen

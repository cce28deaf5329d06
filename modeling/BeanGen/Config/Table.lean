/-!
# Ordered tables

The mappings of a configuration are tables from text to text. Their entries keep the order in which
the keys were first written, because some rules take the first entry that fits.
-/

namespace BeanGen.Config

/-- Entries in order, no key twice. -/
structure Table where
  entries : List (String × String)
  nodup : (entries.map (·.1)).Nodup

namespace Table

/-- The table without entries. -/
def empty : Table := ⟨[], by simp⟩

instance : Inhabited Table := ⟨empty⟩

/-- The value of a key. -/
def get? (table : Table) (key : String) : Option String :=
  table.entries.lookup key

/-- There are no entries. -/
def isEmpty (table : Table) : Bool :=
  table.entries.isEmpty

/-- Entries with the value of one key replaced in place, or with a new entry at the end. -/
def insertEntry (key value : String) : List (String × String) → List (String × String)
  | [] => [(key, value)]
  | entry :: rest =>
    if entry.1 = key then (key, value) :: rest else entry :: insertEntry key value rest

/-- The keys after an insertion are those before and the new one. -/
theorem mem_keys_insertEntry {key value : String} {entries : List (String × String)} {k : String} :
    k ∈ (insertEntry key value entries).map (·.1) ↔ k = key ∨ k ∈ entries.map (·.1) := by
  induction entries with
  | nil => simp [insertEntry]
  | cons entry rest ih =>
    by_cases h : entry.1 = key
    · simp [insertEntry, h]
    · have := ih
      grind [insertEntry]

/-- An insertion repeats no key. -/
theorem nodup_insertEntry {key value : String} {entries : List (String × String)}
    (h : (entries.map (·.1)).Nodup) : ((insertEntry key value entries).map (·.1)).Nodup := by
  induction entries with
  | nil => simp [insertEntry]
  | cons entry rest ih =>
    simp only [List.map_cons, List.nodup_cons] at h
    by_cases hkey : entry.1 = key
    · simpa [insertEntry, hkey] using ⟨by simpa [hkey] using h.1, h.2⟩
    · simp only [insertEntry, hkey, if_false, List.map_cons, List.nodup_cons]
      refine ⟨fun hmem => ?_, ih h.2⟩
      rcases mem_keys_insertEntry.1 hmem with heq | hmem
      · exact hkey heq
      · exact h.1 hmem

/-- The value of a key becomes `value`. A new key comes last, a known one keeps its place. -/
def insert (table : Table) (key value : String) : Table :=
  ⟨insertEntry key value table.entries, nodup_insertEntry table.nodup⟩

/-- The table that pairs build up when they are inserted from left to right. -/
def ofPairs (pairs : List (String × String)) : Table :=
  pairs.foldl (fun table (key, value) => table.insert key value) empty

end Table

end BeanGen.Config

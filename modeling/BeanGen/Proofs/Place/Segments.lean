import BeanGen.Proofs.Text.Slice
import Mathlib.Data.List.Infix

/-!
# The segments of a directory

The segments of a directory are the names between its slashes. A text that ends a directory either begins where
a segment begins, or within one (`CutsSegment`). In the first case its segments are the last ones of the
directory; in the second its first segment is not among them, only a longer one that ends with it is
(`segments_suffix_iff`).
-/

namespace BeanGen.Place

open Text

/-- The names between the slashes. Slashes side by side, or at an end, have none between them. -/
def segments (dir : List Char) : List (List Char) :=
  (splitOn '/' dir).filter (!·.isEmpty)

/-- The directory ends with the text, which begins within a segment. -/
def CutsSegment (dir text : List Char) : Prop :=
  ∃ front c d rest, text = d :: rest ∧ dir = front ++ c :: text ∧ c ≠ '/' ∧ d ≠ '/'

section
variable {dir text front rest name : List Char}

/-- A slash separates segments. -/
theorem segments_append_cons (front back : List Char) :
    segments (front ++ '/' :: back) = segments front ++ segments back := by
  rw [segments, splitOn_append_cons, List.filter_append, ← segments, ← segments]

/-- A name without a slash is one segment. -/
theorem segments_of_notMem (h : '/' ∉ name) (hne : name ≠ []) : segments name = [name] := by
  rw [segments, splitOn_of_notMem h]
  exact List.filter_eq_self.2 (by simpa using hne)

/-- Segments of two texts are those of the joined text when a slash ends the first or begins the second. -/
theorem segments_append (h : (∀ c ∈ front.getLast?, c = '/') ∨ ∀ d ∈ rest.head?, d = '/') :
    segments (front ++ rest) = segments front ++ segments rest := by
  rcases h with hlast | hhead
  · rcases List.eq_nil_or_concat front with rfl | ⟨front, c, rfl⟩
    · rfl
    · obtain rfl : c = '/' := hlast c (by simp)
      have hfront : segments (front ++ ['/']) = segments front := by
        rw [segments_append_cons front []]
        exact List.append_nil _
      rw [List.concat_eq_append, hfront, List.append_assoc, List.singleton_append, segments_append_cons]
  · cases rest with
    | nil => exact (congrArg segments (List.append_nil front)).trans (List.append_nil _).symm
    | cons d rest =>
      obtain rfl : d = '/' := hhead d rfl
      have hrest : segments ('/' :: rest) = segments rest := segments_append_cons [] rest
      rw [hrest, segments_append_cons]

/-- A text is a name without a slash and what follows from the next slash on. -/
theorem exists_first_name (text : List Char) :
    ∃ name rest, text = name ++ rest ∧ '/' ∉ name ∧ ∀ d ∈ rest.head?, d = '/' := by
  refine ⟨text.takeWhile (· != '/'), text.dropWhile (· != '/'), (List.takeWhile_append_dropWhile).symm, ?_, ?_⟩
  · intro hmem
    simpa using List.mem_takeWhile_imp hmem
  · intro d hd
    have hstop := List.head?_dropWhile_not (· != '/') text
    rw [Option.mem_def.1 hd] at hstop
    simpa using hstop

/-- A text is what comes up to the last slash and a name without one. -/
theorem exists_last_name (text : List Char) :
    ∃ front name, text = front ++ name ∧ '/' ∉ name ∧ ∀ c ∈ front.getLast?, c = '/' := by
  obtain ⟨name, rest, htext, hname, hrest⟩ := exists_first_name text.reverse
  refine ⟨rest.reverse, name.reverse, ?_, ?_, ?_⟩
  · rw [← List.reverse_append, ← htext, List.reverse_reverse]
  · exact fun hmem => hname (List.mem_reverse.1 hmem)
  · rwa [List.getLast?_reverse]

/-- Where a text begins within a segment, its segments are not the last ones. -/
theorem CutsSegment.not_suffix (h : CutsSegment dir text) : ¬ segments text <:+ segments dir := by
  obtain ⟨front, c, d, rest, rfl, rfl, hc, hd⟩ := h
  obtain ⟨before, start, hstart, hslash, hbefore⟩ := exists_last_name (front ++ [c])
  obtain ⟨name, behind, hname, hslash', hbehind⟩ := exists_first_name (d :: rest)
  have hstart' : start ≠ [] := by
    rintro rfl
    rw [List.append_nil] at hstart
    exact hc (hbefore c (by rw [← hstart]; simp))
  have hname' : name ≠ [] := by
    rintro rfl
    rw [List.nil_append] at hname
    exact hd (hbehind d (by rw [← hname]; rfl))
  have htext : segments (d :: rest) = [name] ++ segments behind := by
    rw [hname, segments_append (.inr hbehind), segments_of_notMem hslash' hname']
  -- what stands between the same two slashes of the directory is longer by `start`
  have hdir : segments (front ++ c :: d :: rest) = segments before ++ [start ++ name] ++ segments behind := by
    have hsplit : front ++ c :: d :: rest = before ++ ((start ++ name) ++ behind) := by
      rw [List.append_assoc, ← hname, ← List.append_assoc, ← hstart, List.append_assoc, List.singleton_append]
    have hjoined : segments (start ++ name) = [start ++ name] :=
      segments_of_notMem (by simp [hslash, hslash']) (by simp [hstart'])
    rw [hsplit, segments_append (.inl hbefore), segments_append (.inr hbehind), hjoined, List.append_assoc]
  intro hsuffix
  rw [htext, hdir, List.suffix_append_self_iff] at hsuffix
  obtain ⟨others, hothers⟩ := hsuffix
  have hsame : name = start ++ name := List.singleton_inj.1 (List.append_inj_right' hothers rfl)
  exact hstart' (List.self_eq_append_left.1 hsame)

/-- The segments of a text that ends a directory are the last ones of the directory exactly when the text does
not begin within one. -/
theorem segments_suffix_iff (h : text <:+ dir) :
    segments text <:+ segments dir ↔ ¬ CutsSegment dir text := by
  refine ⟨fun hsuffix hcuts => hcuts.not_suffix hsuffix, fun hcuts => ?_⟩
  obtain ⟨front, rfl⟩ := h
  rw [segments_append ?_]
  · exact List.suffix_append _ _
  · by_contra hinside
    simp only [not_or, not_forall] at hinside
    obtain ⟨⟨c, hc, hne⟩, d, hd, hne'⟩ := hinside
    obtain ⟨before, rfl⟩ := List.getLast?_eq_some_iff.1 hc
    obtain ⟨rest, rfl⟩ := List.head?_eq_some_iff.1 hd
    exact hcuts ⟨before, c, d, rest, rfl, by simp, hne, hne'⟩

/-- A text that begins within a segment does so in every directory with the same end. -/
theorem CutsSegment.of_suffix {whole : List Char} (h : CutsSegment dir text) (hdir : dir <:+ whole) :
    CutsSegment whole text := by
  obtain ⟨front, c, d, rest, htext, rfl, hc, hd⟩ := h
  obtain ⟨more, rfl⟩ := hdir
  exact ⟨more ++ front, c, d, rest, htext, (List.append_assoc ..).symm, hc, hd⟩

end

end BeanGen.Place

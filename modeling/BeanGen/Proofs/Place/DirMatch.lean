import BeanGen.Place.DirMatch
import BeanGen.Proofs.Text.Infix

/-!
# Segments in a row

A suffix of directories is taken without the slashes at its ends (`Place.StripsTo`), and it fits a directory
when its segments stand there in a row (`Place.HasRow`). The test for this compares texts: the suffix may be
the directory, end it, begin it or stand inside, each time between slashes. Together these are neither more
nor less than the condition on segments (`matchesDir_iff`), also where segments are repeated or empty or
one of them contains another.
-/

namespace BeanGen

open Text

namespace Place

/-- A text with its backslashes read as slashes. -/
def slashed (text : String) : List Char :=
  replaceChar '\\' '/' text.toList

/-- The core of a text is what stands between the slashes at its two ends. -/
structure StripsTo (text core : List Char) : Prop where
  exists_eq : ∃ m n, text = List.replicate m '/' ++ core ++ List.replicate n '/'
  head?_ne : core.head? ≠ some '/'
  getLast?_ne : core.getLast? ≠ some '/'

/-- The segments of a suffix stand in a row among those of a directory. Backslashes separate segments, too,
and the slashes at the ends of the suffix do not count. -/
structure HasRow (dir suffix : String) : Prop where
  dir_ne : dir ≠ ""
  suffix_ne : suffix ≠ ""
  row : ∃ core, StripsTo (slashed suffix) core ∧ core ≠ [] ∧
    splitOn '/' core <:+: splitOn '/' (slashed dir)

/-! ## Slashes at the ends -/

section
variable {text core : List Char}

/-- Slashes are dropped up to the first other character. -/
theorem dropWhile_replicate_append (n : Nat) (h : core.head? ≠ some '/') :
    (List.replicate n '/' ++ core).dropWhile (· == '/') = core := by
  induction n with
  | zero =>
    cases core with
    | nil => rfl
    | cons c rest => exact List.dropWhile_cons_of_neg (by simpa using h)
  | succ n ih => rw [List.replicate_succ, List.cons_append, List.dropWhile_cons_of_pos rfl, ih]

/-- A text begins with slashes, up to what is left when they are dropped. -/
theorem exists_replicate_append (text : List Char) :
    ∃ n, text = List.replicate n '/' ++ text.dropWhile (· == '/') := by
  refine ⟨(text.takeWhile (· == '/')).length, ?_⟩
  have hslashes : text.takeWhile (· == '/') = List.replicate _ '/' :=
    List.eq_replicate_of_mem fun c hc => by simpa using List.mem_takeWhile_imp hc
  rw [← hslashes, List.takeWhile_append_dropWhile]

/-- What is left when slashes are dropped does not begin with one. -/
theorem head?_dropWhile_ne (text : List Char) : (text.dropWhile (· == '/')).head? ≠ some '/' := by
  intro hhead
  have hstop := List.head?_dropWhile_not (· == '/') text
  rw [hhead] at hstop
  cases hstop

/-- Taking the slashes off gives the core of a text. -/
theorem stripsTo_iff : StripsTo text core ↔ trimSlashes text = core := by
  constructor
  · rintro ⟨⟨m, n, rfl⟩, hhead, hlast⟩
    unfold trimSlashes
    by_cases hempty : core = []
    · subst hempty
      have hslashes := dropWhile_replicate_append (m + n) hhead
      rw [List.append_nil] at hslashes ⊢
      rw [List.replicate_append_replicate, hslashes]
      rfl
    · have hhead' : (core ++ List.replicate n '/').head? ≠ some '/' := by
        rwa [List.head?_append_of_ne_nil core hempty]
      rw [List.append_assoc, dropWhile_replicate_append m hhead', List.reverse_append,
        List.reverse_replicate, dropWhile_replicate_append n (by rwa [List.head?_reverse]),
        List.reverse_reverse]
  · rintro rfl
    obtain ⟨m, hfront⟩ := exists_replicate_append text
    obtain ⟨n, hback⟩ := exists_replicate_append (text.dropWhile (· == '/')).reverse
    have hkept : text.dropWhile (· == '/') = trimSlashes text ++ List.replicate n '/' := by
      rw [← List.reverse_inj, hback, trimSlashes, List.reverse_append, List.reverse_replicate,
        List.reverse_reverse]
    refine ⟨⟨m, n, ?_⟩, fun hhead => ?_, ?_⟩
    · rw [List.append_assoc, ← hkept, ← hfront]
    · -- the core begins as the text does behind its first slashes
      obtain ⟨rest, hrest⟩ := List.head?_eq_some_iff.1 hhead
      rw [hrest] at hkept
      exact head?_dropWhile_ne text (by rw [hkept]; rfl)
    · rw [trimSlashes, List.getLast?_reverse]
      exact head?_dropWhile_ne _

/-- Only the empty text has an empty text with other slashes. -/
theorem slashed_eq_nil_iff {text : String} : slashed text = [] ↔ text = "" := by
  rw [slashed, replaceChar, List.map_eq_nil_iff, String.toList_eq_nil_iff]

/-- A text with a core is not empty. -/
theorem StripsTo.ne_nil (h : StripsTo text core) (hcore : core ≠ []) : text ≠ [] := by
  rintro rfl
  obtain ⟨m, n, hnil⟩ := h.exists_eq
  simp only [eq_comm (a := ([] : List Char)), List.append_eq_nil_iff] at hnil
  exact hcore hnil.1.2

end

end Place

open Place

/-- A directory matches a suffix exactly when the segments of the suffix stand there in a row. -/
theorem matchesDir_iff {dir : Option String} {suffix : String} :
    matchesDir dir suffix = true ↔ ∃ rel, dir = some rel ∧ HasRow rel suffix := by
  have htests : matchesDir dir suffix = true ↔ slashed (dir.getD "") ≠ [] ∧
      trimSlashes (slashed suffix) ≠ [] ∧
        splitOn '/' (trimSlashes (slashed suffix)) <:+: splitOn '/' (slashed (dir.getD "")) := by
    rw [splitOn_infix_iff]
    simp only [matchesDir, slashed, Bool.and_eq_true, Bool.or_eq_true, Bool.not_eq_true',
      List.isEmpty_eq_false_iff, beq_iff_eq, List.isSuffixOf_iff_suffix, List.isPrefixOf_iff_prefix,
      hasInfix_iff, or_assoc, and_assoc]
  rw [htests]
  constructor
  · rintro ⟨hdir, hcore, hrow⟩
    cases dir with
    | none => exact absurd rfl hdir
    | some rel =>
      have hstrips := stripsTo_iff.2 (rfl : trimSlashes (slashed suffix) = _)
      refine ⟨rel, rfl, ?_, ?_, _, hstrips, hcore, hrow⟩
      · exact fun hempty => hdir (slashed_eq_nil_iff.2 hempty)
      · exact fun hempty => hstrips.ne_nil hcore (slashed_eq_nil_iff.2 hempty)
  · rintro ⟨rel, rfl, hrow⟩
    obtain ⟨core, hstrips, hcore, hinfix⟩ := hrow.row
    rw [stripsTo_iff.1 hstrips]
    exact ⟨fun hempty => hrow.dir_ne (slashed_eq_nil_iff.1 hempty), hcore, hinfix⟩

end BeanGen

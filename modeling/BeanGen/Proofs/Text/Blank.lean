import BeanGen.Text.Blank
import Mathlib.Data.List.TakeWhile

/-!
# Text without white space at its ends

Trimming leaves a text alone whose first and last characters are not white space
(`trim_of_ends`). What is left of a text by trimming it is such a text, so trimming twice is trimming
once (`trim_trim`). The text is what is left with white space around it (`exists_trim`), so other characters
are as many as before (`countP_trim`).
-/

namespace BeanGen.Text

section
variable {cs : List Char}

/-- What holds of no character of a list fails for each. -/
theorem forall_eq_false_of_any {p : Char → Bool} (h : cs.any p = false) : ∀ c ∈ cs, p c = false := by
  intro c hc
  rw [← Bool.not_eq_true]
  exact List.any_eq_false.1 h c hc

/-- White space is none of the other characters. -/
theorem ne_of_isBlank {c d : Char} (hc : isBlank c = true) (hd : isBlank d = false) : c ≠ d := by
  rintro rfl
  rw [hc] at hd
  cases hd

/-- Nothing is dropped in front of a text that does not begin with white space. -/
theorem trimStart_of_head? (h : ∀ c ∈ cs.head?, isBlank c = false) : trimStart cs = cs := by
  cases cs with
  | nil => rfl
  | cons c cs => rw [trimStart, List.dropWhile_cons_of_neg (by simpa using h c rfl)]

/-- Nothing is dropped behind a text that does not end with white space. -/
theorem trimEnd_of_getLast? (h : ∀ c ∈ cs.getLast?, isBlank c = false) : trimEnd cs = cs := by
  have hreverse : trimStart cs.reverse = cs.reverse :=
    trimStart_of_head? (by rwa [List.head?_reverse])
  rw [trimEnd, ← trimStart, hreverse, List.reverse_reverse]

/-- Trimming leaves a text alone that neither begins nor ends with white space. -/
theorem trim_of_ends (hhead : ∀ c ∈ cs.head?, isBlank c = false)
    (hlast : ∀ c ∈ cs.getLast?, isBlank c = false) : trim cs = cs := by
  rw [trim, trimStart_of_head? hhead, trimEnd_of_getLast? hlast]

/-- Trimming leaves a text without white space alone. -/
theorem trim_of_forall (h : ∀ c ∈ cs, isBlank c = false) : trim cs = cs :=
  trim_of_ends (fun c hc => h c (List.mem_of_mem_head? hc)) fun c hc => h c (List.mem_of_getLast? hc)

/-- What is left in front does not begin with white space. -/
theorem isBlank_of_head?_trimStart (cs : List Char) {c : Char}
    (h : (trimStart cs).head? = some c) : isBlank c = false := by
  have hhead := List.head?_dropWhile_not isBlank cs
  unfold trimStart at h
  rwa [h] at hhead

/-- What is left behind is a beginning of the text. -/
theorem trimEnd_prefix (cs : List Char) : trimEnd cs <+: cs := by
  have hsuffix : cs.reverse.dropWhile isBlank <:+ cs.reverse := List.dropWhile_suffix _
  rw [trimEnd, ← List.reverse_suffix, List.reverse_reverse]
  exact hsuffix

/-- What is left by trimming does not begin with white space. -/
theorem isBlank_of_head?_trim (cs : List Char) {c : Char} (h : (trim cs).head? = some c) :
    isBlank c = false := by
  obtain ⟨rest, hrest⟩ := trimEnd_prefix (trimStart cs)
  obtain ⟨tail, htail⟩ := List.head?_eq_some_iff.1 h
  refine isBlank_of_head?_trimStart cs ?_
  rw [← hrest, ← trim, htail]
  rfl

/-- Trimming twice is trimming once. -/
theorem trim_trim (cs : List Char) : trim (trim cs) = trim cs := by
  refine trim_of_ends (fun c hc => isBlank_of_head?_trim cs hc) fun c hc => ?_
  · rw [trim, trimEnd, List.getLast?_reverse] at hc
    exact isBlank_of_head?_trimStart (trimStart cs).reverse hc

theorem trimStart_cons_of_isBlank {b : Char} (h : isBlank b = true) (cs : List Char) :
    trimStart (b :: cs) = trimStart cs := by
  rw [trimStart, List.dropWhile_cons_of_pos h, ← trimStart]

theorem trimEnd_append_of_isBlank {b : Char} (h : isBlank b = true) (cs : List Char) :
    trimEnd (cs ++ [b]) = trimEnd cs := by
  rw [trimEnd, List.reverse_concat, List.dropWhile_cons_of_pos h, ← trimEnd]

/-- Nothing is left of white space. -/
theorem trimStart_of_allBlank (h : allBlank cs = true) : trimStart cs = [] :=
  List.dropWhile_eq_nil_iff.2 fun c hc => List.all_eq_true.1 h c hc

theorem trimEnd_of_allBlank (h : allBlank cs = true) : trimEnd cs = [] := by
  have hreverse : trimStart cs.reverse = [] := trimStart_of_allBlank (by rwa [allBlank, List.all_reverse])
  rw [trimEnd, ← trimStart, hreverse, List.reverse_nil]

/-- White space in front of a text is trimmed away. -/
theorem trim_cons_of_isBlank {b : Char} (h : isBlank b = true) (cs : List Char) : trim (b :: cs) = trim cs := by
  rw [trim, trimStart_cons_of_isBlank h, ← trim]

/-- White space behind a text is trimmed away. -/
theorem trim_append_of_isBlank {b : Char} (h : isBlank b = true) (cs : List Char) :
    trim (cs ++ [b]) = trim cs := by
  rw [trim, trimStart, List.dropWhile_append]
  split
  · next hempty =>
    rw [List.dropWhile_cons_of_pos h, trim, trimStart, List.isEmpty_iff.1 hempty]
    rfl
  · exact trimEnd_append_of_isBlank h _

/-- Trimming takes nothing but white space away. -/
theorem mem_trim {c : Char} (h : c ∈ cs) (hc : isBlank c = false) : c ∈ trim cs := by
  have hkeep : ∀ {ds : List Char}, c ∈ ds → c ∈ ds.dropWhile isBlank := by
    intro ds hmem
    rw [← List.takeWhile_append_dropWhile (p := isBlank) (l := ds), List.mem_append] at hmem
    refine hmem.resolve_left fun hfront => ?_
    rw [List.mem_takeWhile_imp hfront] at hc
    cases hc
  have hstart : c ∈ trimStart cs := hkeep h
  exact List.mem_reverse.2 (hkeep (List.mem_reverse.2 hstart))

/-- Something is left of a text that is not all white space. -/
theorem trim_ne_nil (h : allBlank cs = false) : trim cs ≠ [] := by
  rw [allBlank, List.all_eq_false] at h
  obtain ⟨c, hmem, hc⟩ := h
  exact List.ne_nil_of_mem (mem_trim hmem (by simpa using hc))

/-- A text is all white space exactly when what is left of it by trimming is. -/
theorem allBlank_trim (cs : List Char) : allBlank (trim cs) = allBlank cs := by
  cases hblank : allBlank cs with
  | true =>
    rw [trim, trimStart_of_allBlank hblank]
    rfl
  | false =>
    obtain ⟨c, hmem, hc⟩ := List.all_eq_false.1 hblank
    exact List.all_eq_false.2 ⟨c, mem_trim hmem (by simpa using hc), hc⟩

/-- A text is what is left of it by trimming, with white space around it. -/
theorem exists_trim (cs : List Char) :
    ∃ front back, cs = front ++ trim cs ++ back ∧ (∀ c ∈ front, isBlank c = true) ∧
      ∀ c ∈ back, isBlank c = true := by
  refine ⟨cs.takeWhile isBlank, ((trimStart cs).reverse.takeWhile isBlank).reverse, ?_, ?_, ?_⟩
  · have hback : trim cs ++ ((trimStart cs).reverse.takeWhile isBlank).reverse = trimStart cs := by
      rw [trim, trimEnd, ← List.reverse_append, List.takeWhile_append_dropWhile, List.reverse_reverse]
    rw [List.append_assoc, hback, trimStart, List.takeWhile_append_dropWhile]
  · exact fun c hc => List.mem_takeWhile_imp hc
  · exact fun c hc => List.mem_takeWhile_imp (List.mem_reverse.1 hc)

/-- Trimming takes away nothing that counts where white space does not count. -/
theorem countP_trim {p : Char → Bool} (hp : ∀ c, isBlank c = true → p c = false) (cs : List Char) :
    (trim cs).countP p = cs.countP p := by
  obtain ⟨front, back, hcs, hfront, hback⟩ := exists_trim cs
  have hnothing : ∀ blanks : List Char, (∀ c ∈ blanks, isBlank c = true) → blanks.countP p = 0 := by
    intro blanks hblanks
    refine List.countP_eq_zero.2 fun c hc => ?_
    rw [hp c (hblanks c hc)]
    exact Bool.false_ne_true
  have hwhole := congrArg (List.countP p) hcs
  rw [List.countP_append, List.countP_append, hnothing front hfront, hnothing back hback, Nat.zero_add,
    Nat.add_zero] at hwhole
  exact hwhole.symm

theorem countP_flatten_map_trim {p : Char → Bool} (hp : ∀ c, isBlank c = true → p c = false)
    (pieces : List (List Char)) : (pieces.map trim).flatten.countP p = pieces.flatten.countP p := by
  induction pieces with
  | nil => rfl
  | cons first rest ih =>
    rw [List.map_cons, List.flatten_cons, List.flatten_cons, List.countP_append, List.countP_append, ih,
      countP_trim hp]

/-- What stands behind a character that is no white space is trimmed on its own. -/
theorem trimEnd_append_cons {c : Char} (hc : isBlank c = false) (front back : List Char) :
    trimEnd (front ++ c :: back) = front ++ c :: trimEnd back := by
  unfold trimEnd
  rw [List.reverse_append, List.reverse_cons, List.append_assoc, List.dropWhile_append]
  split
  · next hempty =>
    rw [List.isEmpty_iff.1 hempty, List.singleton_append, List.dropWhile_cons_of_neg (by simp [hc])]
    simp
  · simp

/-- What stands in front of a character that is no white space is trimmed on its own. -/
theorem trimStart_append_cons {c : Char} (hc : isBlank c = false) (front back : List Char) :
    trimStart (front ++ c :: back) = trimStart front ++ c :: back := by
  unfold trimStart
  rw [List.dropWhile_append]
  split
  · next hempty => rw [List.isEmpty_iff.1 hempty, List.dropWhile_cons_of_neg (by simp [hc])]; rfl
  · rfl

/-- Trimming the end leaves the beginning. -/
theorem head?_trim (cs : List Char) : (trim cs).head? = (trimStart cs).head? := by
  cases hstart : trimStart cs with
  | nil =>
    rw [trim, hstart]
    rfl
  | cons c rest =>
    have hc : isBlank c = false := isBlank_of_head?_trimStart cs (by rw [hstart]; rfl)
    have hcut : trimEnd (c :: rest) = c :: trimEnd rest := trimEnd_append_cons hc [] rest
    rw [trim, hstart, hcut, List.head?_cons, List.head?_cons]

end

/-- A trimmed text stays as it is. -/
theorem trimmed_trimmed (s : String) : trimmed (trimmed s) = trimmed s := by
  rw [trimmed, trimmed, String.toList_ofList, trim_trim]

/-- A text with something in it and without white space is not blank, and trimming leaves it alone. -/
theorem nonBlank?_of_forall {text : String} (hne : text ≠ "") (h : ∀ c ∈ text.toList, isBlank c = false) :
    nonBlank? text = some text := by
  have hblank : isBlankText text = false := by
    obtain ⟨c, hc⟩ := List.exists_mem_of_ne_nil _ (mt String.toList_eq_nil_iff.1 hne)
    exact List.all_eq_false.2 ⟨c, hc, by simp [h c hc]⟩
  rw [nonBlank?, hblank, trimmed, trim_of_forall h, String.ofList_toList]
  rfl

/-- What is left of a text that is not blank is trimmed. -/
theorem trimmed_of_nonBlank? {s t : String} (h : nonBlank? s = some t) : trimmed t = t := by
  unfold nonBlank? at h
  split at h
  · cases h
  · cases h
    exact trimmed_trimmed s

end BeanGen.Text

import BeanGen.Proofs.Text.Blank
import Mathlib.Data.List.Induction

/-!
# White space inside a text

Squeezing a text leaves every character alone that is no white space. So a text is squeezed on the two sides
of such a character on its own (`squeeze_append_cons`), and white space counts only by where it begins
(`squeeze_cons_of_isBlank`). What is left by squeezing or collapsing a text is squeezed or collapsed
(`squeeze_squeeze`, `collapse_collapse`).
-/

namespace BeanGen.Text

section
variable {b c : Char} {cs front back k xs : List Char}

/-- A character that is not white space stays. -/
theorem squeeze_cons_of_not (h : isBlank c = false) : squeeze (c :: cs) = c :: squeeze cs := by
  cases cs with
  | nil => simp [squeeze, h]
  | cons d cs => simp [squeeze, h]

/-- White space becomes a space, unless more of it follows. -/
theorem squeeze_cons_of_isBlank (h : isBlank c = true) (cs : List Char) :
    squeeze (c :: cs) = ' ' :: squeeze cs ∨
      squeeze (c :: cs) = squeeze cs ∧ ∃ d rest, cs = d :: rest ∧ isBlank d = true := by
  cases cs with
  | nil => exact .inl (by simp [squeeze, h])
  | cons d cs =>
    cases hd : isBlank d with
    | true => exact .inr ⟨by simp [squeeze, h, hd], d, cs, rfl, hd⟩
    | false => exact .inl (by simp [squeeze, h, hd])

/-- White space begins with a space when it is squeezed. -/
theorem exists_squeeze_cons (cs : List Char) (h : isBlank c = true) :
    ∃ rest, squeeze (c :: cs) = ' ' :: rest := by
  induction cs generalizing c with
  | nil => exact ⟨[], by simp [squeeze, h]⟩
  | cons d cs ih =>
    cases hnext : isBlank d with
    | true =>
      obtain ⟨rest, hrest⟩ := ih hnext
      exact ⟨rest, by simpa [squeeze, h, hnext] using hrest⟩
    | false => exact ⟨squeeze (d :: cs), by simp [squeeze, h, hnext]⟩

/-- Squeezing takes away nothing but spaces behind the first character. -/
theorem exists_squeeze_eq_cons (c : Char) (cs : List Char) :
    ∃ d rest, squeeze (c :: cs) = d :: rest ∧ (squeeze cs = rest ∨ squeeze cs = ' ' :: rest) := by
  cases hc : isBlank c with
  | false => exact ⟨c, squeeze cs, squeeze_cons_of_not hc, .inl rfl⟩
  | true =>
    rcases squeeze_cons_of_isBlank hc cs with hspace | ⟨hgone, d, rest, rfl, hd⟩
    · exact ⟨' ', squeeze cs, hspace, .inl rfl⟩
    · obtain ⟨tail, htail⟩ := exists_squeeze_cons rest hd
      exact ⟨' ', tail, by rw [hgone, htail], .inr htail⟩

/-- What begins a squeezed text without white space begins the text. -/
theorem exists_of_squeeze_eq_append {front back : List Char} (hfront : ∀ d ∈ front, isBlank d = false)
    (h : squeeze cs = front ++ back) : ∃ rest, cs = front ++ rest ∧ squeeze rest = back := by
  induction front generalizing cs with
  | nil => exact ⟨cs, rfl, h⟩
  | cons d front ih =>
    have hd := hfront d List.mem_cons_self
    cases cs with
    | nil => cases h
    | cons c cs =>
      cases hc : isBlank c with
      | true =>
        obtain ⟨rest, hrest⟩ := exists_squeeze_cons cs hc
        rw [hrest, List.cons_append] at h
        rw [← (List.cons.inj h).1] at hd
        exact absurd hd (by decide)
      | false =>
        rw [squeeze_cons_of_not hc, List.cons_append] at h
        obtain ⟨rfl, hrest⟩ := List.cons.inj h
        obtain ⟨rest, rfl, hback⟩ := ih (fun e he => hfront e (List.mem_cons_of_mem _ he)) hrest
        exact ⟨rest, rfl, hback⟩

/-- A character that is no white space begins the squeezed text exactly when it begins the text. -/
theorem head?_squeeze_eq_some_iff (hc : isBlank c = false) :
    (squeeze cs).head? = some c ↔ cs.head? = some c := by
  constructor
  · intro h
    obtain ⟨back, hback⟩ := List.head?_eq_some_iff.1 h
    obtain ⟨rest, rfl, -⟩ := exists_of_squeeze_eq_append (List.forall_mem_singleton.2 hc) hback
    rfl
  · intro h
    obtain ⟨rest, rfl⟩ := List.head?_eq_some_iff.1 h
    rw [squeeze_cons_of_not hc]
    rfl

/-- Squeezing makes a space of white space at the end, and leaves another character there. -/
theorem getLast?_squeeze (cs : List Char) :
    (squeeze cs).getLast? = cs.getLast?.map fun c => if isBlank c then ' ' else c := by
  induction cs with
  | nil => rfl
  | cons c cs ih =>
    cases cs with
    | nil => rfl
    | cons d cs =>
      rw [List.getLast?_cons_cons, ← ih, squeeze]
      split
      · rfl
      · obtain ⟨e, rest, hrest, -⟩ := exists_squeeze_eq_cons d cs
        rw [hrest, List.getLast?_cons_cons]

/-- A text without white space stays in front of what is squeezed. -/
theorem squeeze_append_of_forall (h : ∀ c ∈ cs, isBlank c = false) : squeeze (cs ++ k) = cs ++ squeeze k := by
  induction cs with
  | nil => rfl
  | cons c cs ih =>
    rw [List.cons_append, squeeze_cons_of_not (h c List.mem_cons_self),
      ih fun d hd => h d (List.mem_cons_of_mem c hd), List.cons_append]

/-- A single space stays. -/
theorem squeeze_space (h : ∀ c ∈ k.head?, isBlank c = false) : squeeze (' ' :: k) = ' ' :: squeeze k := by
  cases k with
  | nil => rfl
  | cons c k => simp [squeeze, h c rfl]

/-- A text is squeezed on the two sides of a character that is no white space on its own. -/
theorem squeeze_append_cons (h : isBlank c = false) (xs k : List Char) :
    squeeze (xs ++ c :: k) = squeeze xs ++ c :: squeeze k := by
  induction xs with
  | nil => exact squeeze_cons_of_not h
  | cons x xs ih =>
    cases hx : isBlank x with
    | false => rw [List.cons_append, squeeze_cons_of_not hx, squeeze_cons_of_not hx, ih, List.cons_append]
    | true =>
      cases xs with
      | nil => simpa [squeeze, hx, h] using squeeze_cons_of_not h
      | cons d xs =>
        rw [List.cons_append] at ih ⊢
        rw [List.cons_append, squeeze, squeeze, ih]
        split <;> rfl

/-- Squeezing takes nothing but white space away. -/
theorem mem_squeeze (h : c ∈ cs) (hc : isBlank c = false) : c ∈ squeeze cs := by
  obtain ⟨front, back, rfl⟩ := List.append_of_mem h
  rw [squeeze_append_cons hc]
  simp

/-- White space in front is dropped before squeezing or behind. -/
theorem trimStart_squeeze (cs : List Char) : trimStart (squeeze cs) = squeeze (trimStart cs) := by
  induction cs with
  | nil => rfl
  | cons c cs ih =>
    cases hc : isBlank c with
    | true =>
      rw [trimStart_cons_of_isBlank hc, ← ih]
      rcases squeeze_cons_of_isBlank hc cs with hspace | ⟨hgone, -⟩
      · rw [hspace, trimStart_cons_of_isBlank (by decide)]
      · rw [hgone]
    | false =>
      have hhead : ∀ d ∈ (c :: squeeze cs).head?, isBlank d = false := by simpa using hc
      rw [squeeze_cons_of_not hc, trimStart_of_head? hhead, trimStart_of_head? (by simpa using hc),
        squeeze_cons_of_not hc]

/-- Squeezing twice is squeezing once. -/
theorem squeeze_squeeze (cs : List Char) : squeeze (squeeze cs) = squeeze cs := by
  induction cs with
  | nil => rfl
  | cons c cs ih =>
    cases hc : isBlank c with
    | false => rw [squeeze_cons_of_not hc, squeeze_cons_of_not hc, ih]
    | true =>
      cases cs with
      | nil => simp [squeeze, hc]
      | cons d cs =>
        cases hd : isBlank d with
        | true =>
          have hgone : squeeze (c :: d :: cs) = squeeze (d :: cs) := by simp [squeeze, hc, hd]
          rw [hgone, ih]
        | false =>
          have hspace : squeeze (c :: d :: cs) = ' ' :: squeeze (d :: cs) := by simp [squeeze, hc, hd]
          have hhead : ∀ e ∈ (squeeze (d :: cs)).head?, isBlank e = false := by
            rw [squeeze_cons_of_not hd]
            simpa using hd
          rw [hspace, squeeze_space hhead, ih]

/-- White space behind a text becomes a space, unless the text ends with white space. -/
theorem squeeze_append_of_isBlank (h : isBlank b = true) (cs : List Char) :
    squeeze (cs ++ [b]) = squeeze cs ++ [' '] ∨ squeeze (cs ++ [b]) = squeeze cs := by
  induction cs with
  | nil => exact .inl (by simp [squeeze, h])
  | cons c cs ih =>
    cases cs with
    | nil =>
      cases hc : isBlank c with
      | true => exact .inr (by simp [squeeze, h, hc])
      | false => exact .inl (by simp [squeeze, h, hc])
    | cons d cs =>
      rw [List.cons_append] at ih ⊢
      rw [List.cons_append, squeeze, squeeze]
      split
      · exact ih
      · exact ih.imp (fun hspace => by rw [hspace, List.cons_append]) fun hgone => by rw [hgone]

/-! ## Text on one line -/

/-- White space around a text is not among its words. -/
theorem collapse_append (hfront : allBlank front = true) (hback : allBlank back = true) (cs : List Char) :
    collapse (front ++ cs ++ back) = collapse cs := by
  have hbehind : collapse (cs ++ back) = collapse cs := by
    induction back using List.reverseRecOn with
    | nil => rw [List.append_nil]
    | append_singleton back b ih =>
      rw [allBlank, List.all_append, Bool.and_eq_true] at hback
      rw [← List.append_assoc, collapse]
      rcases squeeze_append_of_isBlank (b := b) (by simpa using hback.2) (cs ++ back) with hspace | hgone
      · rw [hspace, trim_append_of_isBlank rfl]
        exact ih hback.1
      · rw [hgone]
        exact ih hback.1
  rw [List.append_assoc]
  induction front with
  | nil => exact hbehind
  | cons b front ih =>
    rw [allBlank, List.all_cons, Bool.and_eq_true] at hfront
    rw [List.cons_append, collapse]
    rcases squeeze_cons_of_isBlank hfront.1 (front ++ (cs ++ back)) with hspace | ⟨hgone, -⟩
    · rw [hspace, trim_cons_of_isBlank rfl]
      exact ih hfront.2
    · rw [hgone]
      exact ih hfront.2

/-- A text is on one line as what is left of it by trimming is. -/
theorem collapse_trim (cs : List Char) : collapse (trim cs) = collapse cs := by
  obtain ⟨front, back, hcs, hfront, hback⟩ := exists_trim cs
  conv_rhs => rw [hcs]
  rw [collapse_append (List.all_eq_true.2 hfront) (List.all_eq_true.2 hback)]

/-- A text that is on one line stays as it is. -/
theorem collapse_collapse (cs : List Char) : collapse (collapse cs) = collapse cs := by
  rw [collapse.eq_def cs, collapse_trim, collapse, squeeze_squeeze]

/-- On one line a text begins as it does when it is trimmed. -/
theorem head?_collapse (cs : List Char) : (collapse cs).head? = (trim cs).head? := by
  rw [collapse, head?_trim, head?_trim, trimStart_squeeze]
  cases hstart : trimStart cs with
  | nil => rfl
  | cons c rest =>
    have hc : isBlank c = false := isBlank_of_head?_trimStart cs (by rw [hstart]; rfl)
    rw [squeeze_cons_of_not hc]
    rfl

end

end BeanGen.Text

import BeanGen.Proofs.TypeText.Mention

/-!
# The layout of a type expression

What writes a type expression name by name lays it out in one way: one comma and one space between type
arguments, nothing for an argument that is empty, no other white space around the names, and `Object`
for the element of an array that has none (`laidOut`).

All that an expression can lose by this are commas and white space. So the other characters (`ink`) can
be counted part by part: those of an expression are those of its name and its arguments, or of its
element, and two brackets (`ink_of_applied`, `ink_of_array`).
-/

namespace BeanGen.TypeText

open Text

/-! ## The layout -/

/-- A type expression as it is laid out when every name in it is written as it is. -/
def laidOut (type : List Char) : List Char :=
  if allBlank type then "Object".toList
  else
    match _h : outline (trim type) with
    | .applied name args =>
      let written := (args.attach.filter (!·.1.isEmpty)).map fun arg => laidOut arg.1
      name ++ '<' :: ", ".toList.intercalate written ++ ['>']
    | .array element => laidOut element ++ ['[', ']']
    | .simple name => name
termination_by type.length
decreasing_by
  all_goals refine Nat.lt_of_lt_of_le (length_lt_of_mem_parts_outline ?_) (length_trim_le type)
  · rw [_h]
    exact arg.2
  · simp [_h, Outline.parts]

section
variable {type name : List Char}

/-- A blank expression is laid out as an object. -/
theorem laidOut_of_allBlank (h : allBlank type = true) : laidOut type = "Object".toList := by
  rw [laidOut, if_pos h]

/-- Type arguments are laid out behind the name, each on its own. -/
theorem laidOut_of_applied {args : List (List Char)} (hblank : allBlank type = false)
    (h : outline (trim type) = .applied name args) :
    laidOut type = name ++ '<' ::
      ", ".toList.intercalate ((args.filter (!·.isEmpty)).map laidOut) ++ ['>'] := by
  rw [laidOut, if_neg (by rw [hblank]; exact Bool.false_ne_true)]
  split
  · next houtline =>
    rw [h] at houtline
    cases houtline
    have hargs : (args.filter (!·.isEmpty)).map laidOut =
        (args.attach.filter (!·.1.isEmpty)).map fun arg => laidOut arg.1 := by
      have hval := congrArg (List.filter (!·.isEmpty)) (List.attach_map_subtype_val args)
      rw [List.filter_map] at hval
      rw [← hval, List.map_map]
      rfl
    rw [hargs]
  · next houtline => rw [h] at houtline; cases houtline
  · next houtline => rw [h] at houtline; cases houtline

/-- An array is laid out as its element with brackets behind. -/
theorem laidOut_of_array {element : List Char} (hblank : allBlank type = false)
    (h : outline (trim type) = .array element) : laidOut type = laidOut element ++ ['[', ']'] := by
  rw [laidOut, if_neg (by rw [hblank]; exact Bool.false_ne_true)]
  split
  · next houtline => rw [h] at houtline; cases houtline
  · next houtline =>
    rw [h] at houtline
    cases houtline
    rfl
  · next houtline => rw [h] at houtline; cases houtline

/-- A name is laid out as it is. -/
theorem laidOut_of_simple (hblank : allBlank type = false)
    (h : outline (trim type) = .simple name) : laidOut type = name := by
  rw [laidOut, if_neg (by rw [hblank]; exact Bool.false_ne_true)]
  split
  · next houtline => rw [h] at houtline; cases houtline
  · next houtline => rw [h] at houtline; cases houtline
  · next houtline =>
    rw [h] at houtline
    cases houtline
    rfl

end

/-! ## What a layout cannot lose -/

/-- The characters of a text that are neither white space nor commas, counted. -/
def ink (cs : List Char) : Nat :=
  cs.countP fun c => !isBlank c && c != ','

@[simp] theorem ink_nil : ink [] = 0 := rfl

@[simp] theorem ink_append (front back : List Char) : ink (front ++ back) = ink front + ink back :=
  List.countP_append

/-- White space has no ink. -/
theorem ink_of_forall {cs : List Char} (h : ∀ c ∈ cs, isBlank c = true) : ink cs = 0 := by
  rw [ink, List.countP_eq_zero]
  intro c hc
  rw [h c hc]
  exact Bool.false_ne_true

/-- Trimming takes no ink away. -/
theorem ink_trim (cs : List Char) : ink (trim cs) = ink cs :=
  countP_trim (fun c hc => by rw [hc]; rfl) cs

/-- A delimiter without ink adds none to the pieces that it joins. -/
theorem ink_intercalate {delimiter : List Char} (h : ink delimiter = 0) (pieces : List (List Char)) :
    ink (delimiter.intercalate pieces) = ink pieces.flatten := by
  induction pieces with
  | nil => rfl
  | cons first rest ih =>
    cases rest with
    | nil => simp
    | cons next rest =>
      have hjoin : delimiter.intercalate (first :: next :: rest) =
          first ++ delimiter ++ delimiter.intercalate (next :: rest) := by
        simp
      rw [hjoin, ink_append, ink_append, h, ih, Nat.add_zero]
      exact (ink_append first (next :: rest).flatten).symm

/-- Trimming pieces takes no ink away. -/
theorem ink_flatten_map_trim (pieces : List (List Char)) :
    ink (pieces.map trim).flatten = ink pieces.flatten :=
  countP_flatten_map_trim (fun c hc => by rw [hc]; rfl) pieces

/-- Where each part stays or gains ink, the parts together do not lose any. -/
theorem ink_flatten_le {f : List Char → List Char} (hf : ∀ cs, f cs = cs ∨ ink cs < ink (f cs))
    (parts : List (List Char)) : ink parts.flatten ≤ ink (parts.flatMap f) := by
  induction parts with
  | nil => exact Nat.le_refl _
  | cons part rest ih =>
    rw [List.flatten_cons, List.flatMap_cons, ink_append, ink_append]
    rcases hf part with heq | hlt
    · rw [heq]
      omega
    · omega

/-- Where each part stays or gains ink and all together gain none, each part stays. -/
theorem eq_of_ink_flatMap_le {f : List Char → List Char} (hf : ∀ cs, f cs = cs ∨ ink cs < ink (f cs))
    {parts : List (List Char)} (h : ink (parts.flatMap f) ≤ ink parts.flatten) :
    ∀ part ∈ parts, f part = part := by
  induction parts with
  | nil => exact fun _ hpart => absurd hpart List.not_mem_nil
  | cons first rest ih =>
    rw [List.flatten_cons, List.flatMap_cons, ink_append, ink_append] at h
    have hrest := ink_flatten_le hf rest
    rcases hf first with heq | hlt
    · rw [heq] at h
      exact List.forall_mem_cons.2 ⟨heq, ih (Nat.le_of_add_le_add_left h)⟩
    · omega

section
variable {cs name : List Char}

/-- The ink of an expression with type arguments is that of its name, its arguments and two brackets. -/
theorem ink_of_applied {args : List (List Char)} (h : outline cs = .applied name args) :
    ink cs = ink name + ink args.flatten + 2 := by
  obtain ⟨front, pieces, -, rfl, rfl, rfl⟩ := exists_of_outline_eq_applied h
  have hcomma : ink [','] = 0 := rfl
  have hopen : ∀ inner, ink ('<' :: inner) = 1 + ink inner := ink_append ['<']
  have hclose : ink ['>'] = 1 := rfl
  rw [ink_append, ink_append, hopen, hclose, ink_intercalate hcomma, ink_trim, ink_flatten_map_trim]
  omega

/-- The ink of an array is that of its element and two brackets. -/
theorem ink_of_array {element : List Char} (h : outline cs = .array element) :
    ink cs = ink element + 2 := by
  obtain ⟨front, rfl, rfl⟩ := exists_of_outline_eq_array h
  rw [ink_append, ink_trim]
  rfl

end

end BeanGen.TypeText

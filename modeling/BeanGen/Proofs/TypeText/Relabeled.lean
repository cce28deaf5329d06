import BeanGen.Proofs.TypeText.Mention
import BeanGen.Proofs.TypeText.Substitution

/-!
# What relabelling changes

Relabelling prints an expression anew, so it may change an expression although every name in it stays. It leaves
an expression as it is exactly when every name that is replaced is replaced by itself and the expression is laid
out as it is printed (`relabeled_eq_self_iff`). This holds where no name that is replaced has a bracket or a comma
in it. For then the text between the brackets and commas of the expression stands in the result again, in the same
order, but that other text stands for the names (`aligned_relabeled`). If the new names brought brackets or commas
in, there would be more of it (`Aligned.length_le`), so where the result is the expression the new names are the
old ones (`Aligned.segments_eq`).
-/

namespace BeanGen.TypeText

open Text

/-! ## The text between brackets and commas -/

/-- What type expressions are put together with. -/
def separators : List Char :=
  ['<', '>', ',', '[', ']']

/-- There is no bracket and no comma in the text. -/
def IsUndivided (cs : List Char) : Prop :=
  ∀ c ∈ cs, separators.contains c = false

instance (cs : List Char) : Decidable (IsUndivided cs) :=
  inferInstanceAs (Decidable (∀ c ∈ cs, separators.contains c = false))

/-- The texts between the brackets and commas, each trimmed. -/
def segments (cs : List Char) : List (List Char) :=
  (cs.splitOnP separators.contains).map trim

section
variable {cs delimiter front back piece : List Char} {b c : Char}

/-- There is always a segment. -/
theorem segments_ne_nil (cs : List Char) : segments cs ≠ [] :=
  mt List.map_eq_nil_iff.1 (List.splitOnP_ne_nil _ cs)

/-- An undivided text is one segment. -/
theorem IsUndivided.segments (h : IsUndivided cs) : segments cs = [trim cs] := by
  rw [TypeText.segments, List.splitOnP_eq_singleton h, List.map_singleton]

/-- A bracket or a comma stands between segments. -/
theorem segments_append_cons (h : separators.contains c = true) (front back : List Char) :
    segments (front ++ c :: back) = segments front ++ segments back := by
  rw [segments, List.splitOnP_append_cons _ _ h, List.map_append, ← segments, ← segments]

/-- A text that is not undivided has a bracket or a comma in it. -/
theorem exists_of_not_isUndivided (h : ¬ IsUndivided cs) :
    ∃ front c back, cs = front ++ c :: back ∧ separators.contains c = true := by
  unfold IsUndivided at h
  push Not at h
  obtain ⟨c, hmem, hc⟩ := h
  obtain ⟨front, back, rfl⟩ := List.append_of_mem hmem
  exact ⟨front, c, back, rfl, by simpa using hc⟩

/-- A text that is one segment is this segment with white space around it. -/
theorem trim_of_segments_eq (h : segments cs = [piece]) : trim cs = piece := by
  by_cases hwhole : IsUndivided cs
  · rw [hwhole.segments] at h
    exact List.singleton_inj.1 h
  · obtain ⟨front, c, back, rfl, hc⟩ := exists_of_not_isUndivided hwhole
    have hlength := congrArg List.length h
    have hfront := List.length_pos_iff.2 (segments_ne_nil front)
    have hback := List.length_pos_iff.2 (segments_ne_nil back)
    rw [segments_append_cons hc, List.length_append, List.length_singleton] at hlength
    omega

/-- White space separates nothing. -/
theorem contains_of_isBlank (h : isBlank c = true) : separators.contains c = false := by
  rw [← Bool.not_eq_true, List.contains_iff_mem]
  intro hmem
  have hsolid : ∀ d ∈ separators, isBlank d = false := forall_eq_false_of_any rfl
  exact absurd rfl (ne_of_isBlank h (hsolid c hmem))

/-- White space in front of a text does not matter. -/
theorem segments_cons_of_isBlank (h : isBlank b = true) (cs : List Char) : segments (b :: cs) = segments cs := by
  obtain ⟨first, rest, hpieces⟩ := List.exists_cons_of_ne_nil (List.splitOnP_ne_nil separators.contains cs)
  rw [segments, List.splitOnP_cons_eq_if_modifyHead, contains_of_isBlank h, if_neg Bool.false_ne_true, segments,
    hpieces, List.modifyHead_cons, List.map_cons, List.map_cons, trim_cons_of_isBlank h]

/-- White space behind a text does not matter. -/
theorem segments_append_of_isBlank (h : isBlank b = true) (cs : List Char) :
    segments (cs ++ [b]) = segments cs := by
  by_cases hwhole : IsUndivided cs
  · have hblank : IsUndivided (cs ++ [b]) := by
      intro c hc
      rcases List.mem_append.1 hc with hc | hc
      · exact hwhole c hc
      · exact List.mem_singleton.1 hc ▸ contains_of_isBlank h
    rw [hwhole.segments, hblank.segments, trim_append_of_isBlank h]
  · obtain ⟨front, c, back, rfl, hc⟩ := exists_of_not_isUndivided hwhole
    rw [List.append_assoc, List.cons_append, segments_append_cons hc, segments_append_of_isBlank h back,
      segments_append_cons hc]
termination_by cs.length
decreasing_by
  subst_vars
  simp only [List.length_append, List.length_cons]
  omega

theorem segments_blanks_append (h : ∀ c ∈ front, isBlank c = true) (cs : List Char) :
    segments (front ++ cs) = segments cs := by
  induction front with
  | nil => rfl
  | cons b front ih =>
    rw [List.forall_mem_cons] at h
    rw [List.cons_append, segments_cons_of_isBlank h.1, ih h.2]

theorem segments_append_blanks (h : ∀ c ∈ back, isBlank c = true) (cs : List Char) :
    segments (cs ++ back) = segments cs := by
  induction back generalizing cs with
  | nil => rw [List.append_nil]
  | cons b back ih =>
    rw [List.forall_mem_cons] at h
    rw [List.append_cons, ih h.2, segments_append_of_isBlank h.1]

/-- White space around a text does not matter. -/
theorem segments_trim (cs : List Char) : segments (trim cs) = segments cs := by
  obtain ⟨front, back, hcs, hfront, hback⟩ := exists_trim cs
  have hwhole := congrArg segments hcs
  rw [segments_append_blanks hback, segments_blanks_append hfront] at hwhole
  exact hwhole.symm

/-- Joined texts have their segments one after the other, if the delimiter separates and has none itself. -/
theorem segments_intercalate
    (h : ∀ front back, segments (front ++ (delimiter ++ back)) = segments front ++ segments back)
    {pieces : List (List Char)} (hne : pieces ≠ []) :
    segments (delimiter.intercalate pieces) = pieces.flatMap segments := by
  induction pieces with
  | nil => exact absurd rfl hne
  | cons first rest ih =>
    cases rest with
    | nil => simp
    | cons next rest =>
      rw [List.intercalate_cons_cons, List.append_assoc, h, ih (List.cons_ne_nil _ _)]
      exact List.flatMap_cons.symm

/-- A name with arguments has their segments behind its own. -/
theorem segments_angles
    (h : ∀ front back, segments (front ++ (delimiter ++ back)) = segments front ++ segments back)
    {args : List (List Char)} (hne : args ≠ []) (name : List Char) :
    segments (name ++ '<' :: delimiter.intercalate args ++ ['>']) =
      segments name ++ args.flatMap segments ++ [[]] := by
  rw [segments_append_cons rfl, segments_append_cons rfl, segments_intercalate h hne]
  rfl

/-- An array has the segments of its element in front of those of the brackets. -/
theorem segments_brackets (element : List Char) :
    segments (element ++ ['[', ']']) = segments element ++ [[], []] := by
  rw [segments_append_cons rfl]
  rfl

end

/-! ## The segments of a relabelled expression -/

section
variable {replace : List Char → Option (List Char)} {names names' before before' after after' : List (List Char)}

/-- The segments `after` stand for the segments `before`: those that are names and replaced have given way to the
segments of the new names. -/
inductive Aligned (replace : List Char → Option (List Char)) :
    List (List Char) → List (List Char) → List (List Char) → Prop where
  | nil : Aligned replace [] [] []
  | segment (piece : List Char) {names before after : List (List Char)} (h : Aligned replace names before after) :
      Aligned replace names (piece :: before) (piece :: after)
  | kept {name : List Char} {names before after : List (List Char)} (hname : replace name = none)
      (h : Aligned replace names before after) : Aligned replace (name :: names) before after
  | replaced {name new : List Char} {names before after : List (List Char)} (hname : replace name = some new)
      (h : Aligned replace names before after) :
      Aligned replace (name :: names) (name :: before) (segments new ++ after)

namespace Aligned

/-- Where no name is replaced, the segments stay. -/
theorem refl (pieces : List (List Char)) : Aligned replace [] pieces pieces := by
  induction pieces with
  | nil => exact .nil
  | cons piece pieces ih => exact .segment piece ih

/-- What is aligned is aligned one behind the other. -/
theorem append (h : Aligned replace names before after) (h' : Aligned replace names' before' after') :
    Aligned replace (names ++ names') (before ++ before') (after ++ after') := by
  induction h with
  | nil => exact h'
  | segment piece _ ih => exact .segment piece ih
  | kept hname _ ih => exact .kept hname ih
  | replaced hname _ ih =>
    rw [List.append_assoc]
    exact .replaced hname ih

/-- No segment gives way to nothing. -/
theorem length_le (h : Aligned replace names before after) : before.length ≤ after.length := by
  induction h with
  | nil => exact Nat.le_refl 0
  | segment piece _ ih => exact Nat.succ_le_succ ih
  | kept _ _ ih => exact ih
  | @replaced _ new _ _ _ _ _ ih =>
    have hnew := List.length_pos_iff.2 (segments_ne_nil new)
    rw [List.length_cons, List.length_append]
    omega

/-- If the segments are the same, each name is the only segment of what stands for it. -/
theorem segments_eq (h : Aligned replace names before after) (hsame : before = after) :
    ∀ name ∈ names, ∀ new, replace name = some new → segments new = [name] := by
  induction h with
  | nil => exact fun _ hname => absurd hname List.not_mem_nil
  | segment piece _ ih => exact ih (List.cons.inj hsame).2
  | kept hname _ ih =>
    rw [List.forall_mem_cons]
    refine ⟨fun new hnew => ?_, ih hsame⟩
    rw [hname] at hnew
    cases hnew
  | @replaced name new _ _ _ hname hrest ih =>
    obtain ⟨first, more, hsegments⟩ := List.exists_cons_of_ne_nil (segments_ne_nil new)
    rw [hsegments, List.cons_append] at hsame
    obtain ⟨rfl, hbehind⟩ := List.cons.inj hsame
    -- a second segment of the new name would be one too many
    have hmore : more = [] := by
      have hlength := congrArg List.length hbehind
      have hle := hrest.length_le
      rw [List.length_append] at hlength
      exact List.length_eq_zero_iff.1 (by omega)
    rw [hmore] at hbehind hsegments
    rw [List.forall_mem_cons]
    refine ⟨fun other hother => ?_, ih hbehind⟩
    rw [hname] at hother
    cases hother
    exact hsegments

end Aligned

/-- The segments of a name give way to those of what stands for it. -/
theorem aligned_name {name : List Char} (htrim : trim name = name)
    (hname : ∀ new, replace name = some new → IsUndivided name) :
    Aligned replace [name] (segments name) (segments ((replace name).getD name)) := by
  cases hreplace : replace name with
  | none => exact .kept hreplace (.refl _)
  | some new =>
    rw [(hname new hreplace).segments, htrim, Option.getD_some, ← List.append_nil (segments new)]
    exact .replaced hreplace .nil

/-- Aligned arguments are aligned one behind the other. -/
theorem aligned_flatMap {args : List (List Char)}
    (h : ∀ arg ∈ args, Aligned replace (TypeText.names arg) (segments arg) (segments (relabeled replace arg))) :
    Aligned replace (args.flatMap TypeText.names) (args.flatMap segments)
      ((args.map (relabeled replace)).flatMap segments) := by
  induction args with
  | nil => exact .nil
  | cons arg args ih =>
    rw [List.forall_mem_cons] at h
    rw [List.map_cons, List.flatMap_cons, List.flatMap_cons, List.flatMap_cons]
    exact h.1.append (ih h.2)

/-- A comma with a space behind it separates segments. -/
theorem segments_append_comma (front back : List Char) :
    segments (front ++ (", ".toList ++ back)) = segments front ++ segments back := by
  have hcomma : front ++ (", ".toList ++ back) = front ++ ',' :: ' ' :: back := by simp
  rw [hcomma, segments_append_cons rfl, segments_cons_of_isBlank (by decide)]

section
variable {type : List Char} (hblank : allBlank type = false)
include hblank

/-- A type with arguments is aligned where its arguments are. -/
theorem aligned_relabeled_of_applied {name : List Char} {args : List (List Char)}
    (houtline : outline (trim type) = .applied name args)
    (hname : ∀ new, replace name = some new → IsUndivided name)
    (hargs : ∀ arg ∈ args, Aligned replace (TypeText.names arg) (segments arg) (segments (relabeled replace arg))) :
    Aligned replace (TypeText.names type) (segments type) (segments (relabeled replace type)) := by
  obtain ⟨front, pieces, hpieces, htype, rfl, htrimmed⟩ := exists_of_outline_eq_applied houtline
  have hsegments : args.flatMap segments = pieces.flatMap segments := by
    rw [htrimmed, List.flatMap_map]
    exact List.flatMap_congr fun piece _ => segments_trim piece
  have hrelabeled : args.map (relabeled replace) ≠ [] := by simpa [htrimmed] using hpieces
  rw [← segments_trim type, names_of_applied hblank houtline, htype, relabeled_of_applied hblank houtline,
    segments_angles (segments_append_cons rfl) hpieces, segments_angles segments_append_comma hrelabeled,
    ← hsegments, ← segments_trim front]
  have haligned := ((aligned_name (trim_trim front) hname).append (aligned_flatMap hargs)).append (.refl [[]])
  rwa [List.append_nil] at haligned

/-- An array is aligned where its element is. -/
theorem aligned_relabeled_of_array {element : List Char} (houtline : outline (trim type) = .array element)
    (helement : Aligned replace (TypeText.names element) (segments element) (segments (relabeled replace element))) :
    Aligned replace (TypeText.names type) (segments type) (segments (relabeled replace type)) := by
  obtain ⟨front, htype, rfl⟩ := exists_of_outline_eq_array houtline
  rw [← segments_trim type, names_of_array hblank houtline, htype, relabeled_of_array hblank houtline,
    segments_brackets, segments_brackets, ← segments_trim front]
  have haligned := helement.append (.refl [[], []])
  rwa [List.append_nil] at haligned

/-- A name is aligned with what stands for it. -/
theorem aligned_relabeled_of_simple {name : List Char} (houtline : outline (trim type) = .simple name)
    (hname : ∀ new, replace name = some new → IsUndivided name) :
    Aligned replace (TypeText.names type) (segments type) (segments (relabeled replace type)) := by
  obtain rfl := eq_of_outline_eq_simple houtline
  rw [← segments_trim type, names_of_simple hblank houtline, relabeled_of_simple hblank houtline]
  have haligned := aligned_name (trim_trim type) hname
  -- a name that stays keeps the white space around it
  cases hreplace : replace (trim type) with
  | none =>
    rw [hreplace] at haligned
    rwa [Option.getD_none, ← segments_trim type]
  | some new =>
    rw [hreplace] at haligned
    exact haligned

end

/-- Relabelling replaces names in the segments and leaves the other segments as they are. -/
theorem aligned_relabeled (type : List Char)
    (h : ∀ name ∈ TypeText.names type, ∀ new, replace name = some new → IsUndivided name) :
    Aligned replace (TypeText.names type) (segments type) (segments (relabeled replace type)) := by
  cases hblank : allBlank type with
  | true =>
    rw [names_of_allBlank hblank, relabeled_of_allBlank hblank]
    exact .refl _
  | false =>
    have hparts : ∀ part ∈ (outline (trim type)).parts,
        Aligned replace (TypeText.names part) (segments part) (segments (relabeled replace part)) := by
      intro part hpart
      have hlength : part.length < type.length := length_lt_of_mem_parts hpart
      exact aligned_relabeled part fun name hname => h name (mem_names_of_mem_parts hblank hpart hname)
    cases houtline : outline (trim type) with
    | applied name args =>
      rw [houtline] at hparts
      rw [names_of_applied hblank houtline] at h
      exact aligned_relabeled_of_applied hblank houtline (h name List.mem_cons_self) hparts
    | array element =>
      rw [houtline] at hparts
      exact aligned_relabeled_of_array hblank houtline (hparts element (List.mem_singleton_self _))
    | simple name =>
      rw [names_of_simple hblank houtline] at h
      exact aligned_relabeled_of_simple hblank houtline (h name (List.mem_singleton_self _))
termination_by type.length

end

/-! ## What stays -/

/-- Replaces by themselves the names that are replaced. -/
def keeping (replace : List Char → Option (List Char)) (name : List Char) : Option (List Char) :=
  (replace name).map fun _ => name

/-- **What relabelling leaves alone.** If the names that are replaced are undivided, an expression is relabelled
as it is exactly when it is printed as it is and each name that is replaced is replaced by itself. -/
theorem relabeled_eq_self_iff {replace : List Char → Option (List Char)} {type : List Char}
    (htrim : ∀ name new, replace name = some new → trim new = new)
    (hnames : ∀ name ∈ names type, ∀ new, replace name = some new → IsUndivided name) :
    relabeled replace type = type ↔ relabeled (keeping replace) type = type ∧
      ∀ name ∈ names type, ∀ new, replace name = some new → new = name := by
  have hkeep : (∀ name ∈ names type, ∀ new, replace name = some new → new = name) →
      relabeled (keeping replace) type = relabeled replace type := by
    intro hself
    refine relabeled_congr type fun name hname => ?_
    cases hreplace : replace name with
    | none => rw [keeping, hreplace, Option.map_none]
    | some new => rw [keeping, hreplace, Option.map_some, hself name hname new hreplace]
  constructor
  · intro hsame
    have haligned := aligned_relabeled type hnames
    have hself : ∀ name ∈ names type, ∀ new, replace name = some new → new = name := by
      intro name hname new hnew
      have hsegments := haligned.segments_eq (by rw [hsame]) name hname new hnew
      rw [← htrim name new hnew, trim_of_segments_eq hsegments]
    exact ⟨(hkeep hself).trans hsame, hself⟩
  · rintro ⟨hprinted, hself⟩
    exact (hkeep hself).symm.trans hprinted

end BeanGen.TypeText

import BeanGen.Place.Path
import BeanGen.Proofs.Text.Slice
import Mathlib.Data.List.Basic

/-!
# The last name of a path

Putting path texts behind each other loses no piece of them: tidying a text keeps its pieces
(`pieces_tidy`), and a relative path adds its pieces behind those in front
(`pieces_joinText_of_relative`). The last name of a joined path is therefore the last text that was
joined (`fileName_joinTexts_concat`).
-/

namespace BeanGen.Place

open Text

section
variable {path piece : String}

/-- Pieces do not contain a slash, and are neither empty nor a dot. -/
theorem of_mem_pieces (h : piece ∈ pieces path) :
    '/' ∉ piece.toList ∧ piece ≠ "" ∧ piece ≠ "." := by
  unfold pieces at h
  rw [List.mem_filter, List.mem_map, Bool.and_eq_true, bne_iff_ne, bne_iff_ne] at h
  obtain ⟨⟨cs, hcs, rfl⟩, hspec⟩ := h
  refine ⟨?_, hspec⟩
  rw [String.toList_ofList]
  exact notMem_of_mem_splitOn hcs

/-- A slash cuts the pieces. -/
theorem pieces_append_cons (front back : List Char) :
    pieces (String.ofList (front ++ '/' :: back)) =
      pieces (String.ofList front) ++ pieces (String.ofList back) := by
  simp only [pieces, String.toList_ofList, splitOn_append_cons, List.map_append, List.filter_append]

/-- A text without a slash is its only piece. -/
theorem pieces_of_notMem (h : '/' ∉ piece.toList) (hempty : piece ≠ "") (hdot : piece ≠ ".") :
    pieces piece = [piece] := by
  rw [pieces, splitOn_of_notMem h, List.map_singleton, String.ofList_toList]
  exact List.filter_eq_self.2 (by simp [hempty, hdot])

/-- Pieces with slashes between them are the pieces of the text they form. -/
theorem pieces_intercalate {names : List String}
    (h : ∀ name ∈ names, '/' ∉ name.toList ∧ name ≠ "" ∧ name ≠ ".") :
    pieces ("/".intercalate names) = names := by
  induction names with
  | nil => rfl
  | cons name rest ih =>
    obtain ⟨hslash, hempty, hdot⟩ := h name List.mem_cons_self
    cases rest with
    | nil =>
      have hsingle : "/".intercalate [name] = name := by simp
      rw [hsingle, pieces_of_notMem hslash hempty hdot]
    | cons next rest =>
      have hjoin : "/".intercalate (name :: next :: rest) =
          String.ofList (name.toList ++ '/' :: ("/".intercalate (next :: rest)).toList) := by
        rw [← String.toList_inj]
        simp
      rw [hjoin, pieces_append_cons, String.ofList_toList, String.ofList_toList,
        ih fun other hother => h other (List.mem_cons_of_mem _ hother),
        pieces_of_notMem hslash hempty hdot]
      rfl

/-- The slashes that a text begins with are no pieces. -/
theorem pieces_leadingSlashes_append (path rest : String) :
    pieces (leadingSlashes path ++ rest) = pieces rest := by
  have hslash : ∀ text : String, pieces ("/" ++ text) = pieces text := by
    intro text
    have htext : "/" ++ text = String.ofList ([] ++ '/' :: text.toList) := by
      rw [← String.toList_inj]
      simp
    rw [htext, pieces_append_cons, String.ofList_toList]
    rfl
  unfold leadingSlashes
  split
  · exact hslash rest
  · have htwo : "//" ++ rest = "/" ++ ("/" ++ rest) := by
      rw [← String.append_assoc]
      rfl
    rw [htwo, hslash, hslash]
  · exact hslash rest
  · rw [String.empty_append]

/-- Tidying a path keeps its pieces. -/
theorem pieces_tidy (path : String) : pieces (tidy path) = pieces path := by
  have htext : pieces (leadingSlashes path ++ "/".intercalate (pieces path)) = pieces path := by
    rw [pieces_leadingSlashes_append, pieces_intercalate fun _ => of_mem_pieces]
  unfold tidy
  dsimp only
  split
  · next hempty =>
    rw [hempty] at htext
    rw [← htext]
    rfl
  · exact htext

/-- A relative path adds its pieces behind those in front. -/
theorem pieces_joinText_of_relative (front : String) (h : isAbsoluteText path = false) :
    pieces (joinText front path) = pieces front ++ pieces path := by
  rw [joinText, if_neg (by rw [h]; exact Bool.false_ne_true)]
  split
  · next hslash =>
    have hfront : front = String.ofList (front.toList.dropLast ++ ['/']) := by
      rw [List.dropLast_append_getLast? _ hslash, String.ofList_toList]
    have hjoin : front ++ path = String.ofList (front.toList.dropLast ++ '/' :: path.toList) := by
      rw [← String.toList_inj, String.toList_append, String.toList_ofList]
      conv_lhs => rw [← List.dropLast_append_getLast? _ hslash]
      simp
    rw [hjoin, pieces_append_cons, String.ofList_toList]
    conv_rhs => rw [hfront, pieces_append_cons]
    simp [pieces, splitOn]
  · have hjoin : front ++ "/" ++ path = String.ofList (front.toList ++ '/' :: path.toList) := by
      rw [← String.toList_inj]
      simp
    rw [hjoin, pieces_append_cons, String.ofList_toList, String.ofList_toList]

/-- A name behind a path is one more piece. -/
theorem pieces_joinText (front : String) (h : '/' ∉ piece.toList) (hempty : piece ≠ "")
    (hdot : piece ≠ ".") : pieces (joinText front piece) = pieces front ++ [piece] := by
  have hrelative : isAbsoluteText piece = false := by
    unfold isAbsoluteText
    rw [beq_eq_false_iff_ne]
    exact fun hhead => h (List.mem_of_mem_head? hhead)
  rw [pieces_joinText_of_relative front hrelative, pieces_of_notMem h hempty hdot]

/-- The last name of a joined path is the last text that was joined. -/
theorem fileName_joinTexts_concat (paths : List String) (h : '/' ∉ piece.toList)
    (hempty : piece ≠ "") (hdot : piece ≠ ".") : fileName (joinTexts (paths ++ [piece])) = piece := by
  rw [fileName, joinTexts, List.foldl_append, pieces_tidy]
  show ((pieces (joinText _ piece)).getLast?).getD "" = piece
  rw [pieces_joinText _ h hempty hdot, List.getLast?_concat]
  rfl

end

end BeanGen.Place

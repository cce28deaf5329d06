import BeanGen.Proofs.Text.Mention
import BeanGen.Proofs.Text.Slice
import BeanGen.Proofs.TypeText.Names
import BeanGen.Proofs.TypeText.Nesting
import BeanGen.Proofs.TypeText.Substitution

/-!
# What a type expression mentions

The parts of an outline stand in the expression (`exists_of_outline_eq_applied`, `exists_of_outline_eq_array`)
between characters that are no parts of names, so what a part mentions the expression mentions
(`mentions_of_mem_parts`), and every name that is looked up is one
that the expression mentions (`spec_of_mem_names`). A substitution brings in the values of the table and
nothing else (`mentions_of_substituteText?`). So a name that neither an expression nor a table mentions
is avoided by the expression (`Avoids`) whatever the table puts in its place.
-/

namespace BeanGen

/-- The values of a table. -/
def Config.Table.values (table : Config.Table) : List String :=
  table.entries.map (·.2)

/-- A value that is found is one of the values. -/
theorem Config.Table.mem_values_of_get? {table : Config.Table} {key value : String}
    (h : table.get? key = some value) : value ∈ table.values := by
  obtain ⟨front, back, hentries, -⟩ := List.lookup_eq_some_iff.1 h
  exact List.mem_map.2 ⟨(key, value), by simp [hentries], rfl⟩

namespace TypeText

open Text Config

section
variable {cs name : List Char}

/-! ## Between the angle brackets -/

/-- Type arguments stand between the first angle bracket and the last. -/
theorem eq_of_angles (hopen : '<' ∈ cs) (hclose : cs.getLast? = some '>') :
    cs = before '<' cs ++ '<' :: ((cs.dropWhile (· != '<')).drop 1).dropLast ++ ['>'] := by
  obtain ⟨front, back, rfl, hfront⟩ := List.eq_append_cons_of_mem hopen
  have hall : ∀ c ∈ front, (c != '<') = true := fun c hc =>
    bne_iff_ne.2 fun heq => hfront (heq ▸ hc)
  have hbefore : before '<' (front ++ '<' :: back) = front := by
    rw [before, List.takeWhile_append_of_pos hall, List.takeWhile_cons_of_neg (by decide),
      List.append_nil]
  have hdrop : (front ++ '<' :: back).dropWhile (· != '<') = '<' :: back := by
    rw [List.dropWhile_append_of_pos hall, List.dropWhile_cons_of_neg (by decide)]
  rw [List.getLast?_append_cons] at hclose
  have hlast : back.getLast? = some '>' := by
    cases back with
    | nil => exact absurd hclose (by decide)
    | cons c back => rwa [List.getLast?_cons_cons] at hclose
  rw [hbefore, hdrop, List.drop_one, List.tail_cons, List.append_assoc, List.cons_append,
    List.dropLast_append_getLast? _ hlast]

/-- What stands in front of type arguments mentions nothing that the whole does not. -/
theorem mentions_of_before (h : Mentions name (trim (before '<' cs))) : Mentions name cs := by
  have hcut : before '<' cs ++ cs.dropWhile (· != '<') = cs := List.takeWhile_append_dropWhile
  rw [← hcut]
  refine h.of_trim.within [] _ (by simp) fun c hc => ?_
  have hhead := List.head?_dropWhile_not (· != '<') cs
  rw [Option.mem_def.1 hc] at hhead
  have hangle : c = '<' := by simpa using hhead
  rw [hangle]
  decide

/-- A type argument mentions nothing that the whole does not. -/
theorem mentions_of_arg {piece : List Char} (hopen : '<' ∈ cs) (hclose : cs.getLast? = some '>')
    (hpiece : piece ∈ splitTop ',' ((cs.dropWhile (· != '<')).drop 1).dropLast)
    (h : Mentions name (trim piece)) : Mentions name cs := by
  have hwhole := eq_of_angles hopen hclose
  obtain ⟨front, back, hinner, hfront, hback⟩ := exists_of_mem_splitTop hpiece
  rw [hwhole, hinner]
  have hcomma : isWordPart ',' = false := by decide
  have hmention : Mentions name (front ++ piece ++ back) :=
    h.of_trim.within _ _ (fun c hc => hfront c hc ▸ hcomma) fun c hc => hback c hc ▸ hcomma
  have hangles := hmention.within (before '<' cs ++ ['<']) ['>']
    (by simp; decide) (by simp; decide)
  simpa using hangles

/-! ## The parts of an outline -/

/-- In an expression with type arguments these stand between commas and angle brackets behind the name. -/
theorem exists_of_outline_eq_applied {head : List Char} {args : List (List Char)}
    (h : outline cs = .applied head args) : ∃ front pieces, pieces ≠ [] ∧
      cs = front ++ '<' :: [','].intercalate pieces ++ ['>'] ∧ head = trim front ∧ args = pieces.map trim := by
  unfold outline at h
  split at h
  · next hangles =>
    rw [Bool.and_eq_true, List.contains_iff_mem, beq_iff_eq] at hangles
    cases h
    refine ⟨_, splitTop ',' _, splitItems_ne_nil _ _, ?_, rfl, rfl⟩
    rw [intercalate_splitTop]
    exact eq_of_angles hangles.1 hangles.2
  · split at h <;> cases h

/-- In an array the element stands in front of brackets. -/
theorem exists_of_outline_eq_array {element : List Char} (h : outline cs = .array element) :
    ∃ front, cs = front ++ ['[', ']'] ∧ element = trim front := by
  unfold outline at h
  split at h
  · cases h
  split at h
  · next hbrackets =>
    obtain ⟨front, rfl⟩ := List.isSuffixOf_iff_suffix.1 hbrackets
    cases h
    refine ⟨front, rfl, ?_⟩
    simp
  · cases h

/-- The name of a type with arguments mentions nothing that the type does not. -/
theorem mentions_of_outline_name {head : List Char} {args : List (List Char)}
    (houtline : outline cs = .applied head args) (h : Mentions name head) : Mentions name cs := by
  unfold outline at houtline
  split at houtline
  · cases houtline
    exact mentions_of_before h
  · split at houtline <;> cases houtline

/-- A part of a type mentions nothing that the type does not. -/
theorem mentions_of_mem_parts {part : List Char} (hpart : part ∈ (outline cs).parts)
    (h : Mentions name part) : Mentions name cs := by
  unfold outline at hpart
  split at hpart
  · next hangles =>
    rw [Bool.and_eq_true, List.contains_iff_mem, beq_iff_eq] at hangles
    obtain ⟨piece, hpiece, rfl⟩ := List.mem_map.1 hpart
    exact mentions_of_arg hangles.1 hangles.2 hpiece h
  · split at hpart
    · next hbrackets =>
      obtain ⟨element, rfl⟩ := List.isSuffixOf_iff_suffix.1 hbrackets
      obtain rfl := List.mem_singleton.1 hpart
      have helement : (element ++ "[]".toList).dropLast.dropLast = element := by simp
      rw [helement] at h
      have hbracket := h.of_trim.within [] ['[', ']'] (by simp) (by simp; decide)
      simpa using hbracket
    · cases hpart

/-! ## The names that are looked up -/

/-- A name in a type expression is trimmed, and the expression mentions it unless it is empty. -/
theorem spec_of_mem_names (type : List Char) (h : name ∈ names type) :
    trim name = name ∧ (name ≠ [] → Mentions name type) := by
  have hpart : ∀ part ∈ (outline (trim type)).parts, name ∈ names part →
      trim name = name ∧ (name ≠ [] → Mentions name type) := by
    intro part hmem hname
    have hlength : part.length < type.length :=
      Nat.lt_of_lt_of_le (length_lt_of_mem_parts_outline hmem) (length_trim_le type)
    obtain ⟨htrim, hmention⟩ := spec_of_mem_names part hname
    exact ⟨htrim, fun hne => (mentions_of_mem_parts hmem (hmention hne)).of_trim⟩
  cases hblank : allBlank type with
  | true =>
    rw [names_of_allBlank hblank] at h
    cases h
  | false =>
    cases houtline : outline (trim type) with
    | applied head args =>
      rw [names_of_applied hblank houtline] at h
      rcases List.mem_cons.1 h with rfl | hmem
      · refine ⟨?_, fun _ => (mentions_of_outline_name houtline (.refl name)).of_trim⟩
        unfold outline at houtline
        split at houtline
        · cases houtline
          exact trim_trim _
        · split at houtline <;> cases houtline
      · obtain ⟨arg, harg, hname⟩ := List.mem_flatMap.1 hmem
        exact hpart arg (by rw [houtline]; exact harg) hname
    | array element =>
      rw [names_of_array hblank houtline] at h
      exact hpart element (by rw [houtline]; exact List.mem_singleton_self _) h
    | simple whole =>
      rw [names_of_simple hblank houtline] at h
      obtain rfl := List.mem_singleton.1 h
      obtain rfl := eq_of_outline_eq_simple houtline
      exact ⟨trim_trim _, fun _ => Mentions.of_trim (.refl _)⟩
termination_by type.length

end

/-! ## Substitution -/

/-- A name that can stand by itself in a type expression: it is trimmed, not empty, and without the
characters that type expressions are put together with. -/
structure IsPlain (name : List Char) : Prop where
  ne_nil : name ≠ []
  trimmed : trim name = name
  unstructured : ∀ c ∈ ['<', '>', ',', '[', ']'], c ∉ name

/-- A plain name does not begin with a space. -/
theorem IsPlain.head?_ne {name : List Char} (h : IsPlain name) : name.head? ≠ some ' ' := by
  intro hhead
  rw [← h.trimmed] at hhead
  exact absurd (isBlank_of_head?_trim name hhead) (by decide)

section
variable {table : Table} {name : List Char}

/-- The trimmed form of a text mentions nothing that the text does not. -/
theorem mentions_of_nonBlank? {text trimmed : String} (h : nonBlank? text = some trimmed)
    (hmention : Mentions name trimmed.toList) : Mentions name text.toList := by
  unfold nonBlank? at h
  split at h
  · cases h
  · cases h
    rw [Text.trimmed, String.toList_ofList] at hmention
    exact hmention.of_trim

/-- What replaces a name mentions nothing that no value of the table mentions. -/
theorem mentions_of_replacement? {head new : List Char} (h : replacement? table head = some new)
    (hmention : Mentions name new) : ∃ value ∈ table.values, Mentions name value.toList := by
  obtain ⟨value, hget, hvalue⟩ := exists_of_replacement? h
  rw [← String.toList_ofList (l := new)] at hmention
  exact ⟨value, table.mem_values_of_get? hget, mentions_of_nonBlank? hvalue hmention⟩

/-- A substitution brings in what the values of the table mention, and no other plain name. -/
theorem mentions_of_substituteText? (hplain : IsPlain name) (type : List Char) {new : List Char}
    (h : substituteText? table type = some new) (hmention : Mentions name new) :
    Mentions name type ∨ ∃ value ∈ table.values, Mentions name value.toList := by
  have hpart : ∀ part ∈ (outline (trim type)).parts,
      Mentions name ((substituteText? table part).getD part) →
        Mentions name type ∨ ∃ value ∈ table.values, Mentions name value.toList := by
    intro part hmem hpart
    have hlength : part.length < type.length :=
      Nat.lt_of_lt_of_le (length_lt_of_mem_parts_outline hmem) (length_trim_le type)
    cases hnew : substituteText? table part with
    | none =>
      rw [hnew, Option.getD_none] at hpart
      exact .inl (mentions_of_mem_parts hmem hpart).of_trim
    | some new =>
      rw [hnew, Option.getD_some] at hpart
      rcases mentions_of_substituteText? hplain part hnew hpart with hold | hvalue
      · exact .inl (mentions_of_mem_parts hmem hold).of_trim
      · exact .inr hvalue
  rw [substituteText?] at h
  split at h
  · cases h
  · have hresult := (Option.filter_eq_some_iff.1 h).1
    split at hresult
    · next head args houtline =>
      cases hresult
      rcases hmention.of_append_cons (hplain.unstructured '>' (by simp)) with hfront | hnil
      · rcases hfront.of_append_cons (hplain.unstructured '<' (by simp)) with hhead | hargs
        · cases hnew : replacement? table head with
          | none =>
            rw [hnew, Option.getD_none] at hhead
            exact .inl (mentions_of_outline_name houtline hhead).of_trim
          | some new =>
            rw [hnew, Option.getD_some] at hhead
            exact .inr (mentions_of_replacement? hnew hhead)
        · obtain ⟨written, hwritten, harg⟩ :=
            hargs.of_intercalate hplain.ne_nil (hplain.unstructured ',' (by simp)) hplain.head?_ne
          obtain ⟨arg, -, rfl⟩ := List.mem_map.1 hwritten
          exact hpart arg.1 (by rw [houtline]; exact arg.2) harg
      · exact absurd rfl (hnil.ne_nil hplain.ne_nil)
    · next element houtline =>
      cases hresult
      rcases hmention.of_append_cons (hplain.unstructured '[' (by simp)) with helement | hbracket
      · exact hpart element (by rw [houtline]; exact List.mem_singleton_self _) helement
      · have hclosing : Mentions name ([] ++ ']' :: []) := hbracket
        have hempty := hclosing.of_append_cons (hplain.unstructured ']' (by simp))
        exact absurd rfl ((or_self_iff.1 hempty).ne_nil hplain.ne_nil)
    · next whole houtline => exact .inr (mentions_of_replacement? hresult hmention)
termination_by type.length

/-- What a substitution puts in place of a name has no white space around it. -/
theorem trim_of_substituteText? {type new : List Char} (h : substituteText? table type = some new)
    (hstructure : ∀ c ∈ ['<', '>', ',', '[', ']'], c ∉ new) : trim new = new := by
  rw [substituteText?] at h
  split at h
  · cases h
  · have hresult := (Option.filter_eq_some_iff.1 h).1
    split at hresult
    · cases hresult
      exact absurd (by simp) (hstructure '>' (by simp))
    · cases hresult
      exact absurd (by simp) (hstructure ']' (by simp))
    · exact trim_of_replacement? hresult

end

/-! ## Expressions that avoid a name -/

/-- The name is not looked up in the expression, nor in what a substitution makes of it: the expression
does not mention the name, or it is itself another name. -/
def Avoids (name type : List Char) : Prop :=
  ¬ Mentions name type ∨ outline (trim type) = .simple (trim type) ∧ trim type ≠ name

namespace Avoids

section
variable {name type : List Char} (hplain : IsPlain name)
include hplain

/-- An expression that avoids a name does not have it. -/
theorem notMem_names (h : Avoids name type) : name ∉ names type := by
  intro hmem
  rcases h with hmention | ⟨houtline, hne⟩
  · exact hmention ((spec_of_mem_names type hmem).2 hplain.ne_nil)
  · cases hblank : allBlank type with
    | true =>
      rw [names_of_allBlank hblank] at hmem
      cases hmem
    | false =>
      rw [names_of_simple hblank houtline, List.mem_singleton] at hmem
      exact hne hmem.symm

/-- A substitution whose values do not mention a name does not bring it in. -/
theorem substitute? {table : Table} {type new : String} (h : Avoids name type.toList)
    (hvalues : ∀ value ∈ table.values, ¬ Mentions name value.toList)
    (hnew : TypeText.substitute? table (some type) = some new) : Avoids name new.toList := by
  refine .inl fun hmention => ?_
  rcases h with hunmentioned | ⟨houtline, -⟩
  · rw [TypeText.substitute?, Option.bind_some, Option.map_eq_some_iff] at hnew
    obtain ⟨cs, hcs, rfl⟩ := hnew
    rw [String.toList_ofList] at hmention
    rcases mentions_of_substituteText? hplain _ hcs hmention with hold | ⟨value, hvalue, hmention⟩
    · exact hunmentioned hold
    · exact hvalues value hvalue hmention
  · obtain ⟨value, hget, hvalue⟩ := Option.bind_eq_some_iff.1 (substitute?_of_outline houtline hnew)
    exact hvalues value (table.mem_values_of_get? hget) (mentions_of_nonBlank? hvalue hmention)

end

end Avoids

end TypeText

end BeanGen

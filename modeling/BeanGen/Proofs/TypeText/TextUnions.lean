import BeanGen.Proofs.TypeText.Unions

/-!
# Unions of texts

A union is documented to be a text exactly when all its alternatives are (`Alternative.isText`). The mapping
does not read the alternatives: it looks at the first and the last character of the whole, and then at those
of the members between the bars, with the parentheses around them off (`UnionText.looksText`). That decides
for every union, whatever the parentheses around it (`javaTypeText_union`). It is the documented answer where
the ends do not mislead (`UnionText.IsFaithful`), and a wrong one where they do, as for a union that begins
and ends with a template literal (`not_forall_javaTypeText_union`).
-/

namespace BeanGen

open Text Java

namespace TypeText

namespace UnionText

/-! ## The verdict -/

/-- The text of a union on one line, without parentheses around the whole. -/
def core (union : UnionText) : List Char :=
  unwrapParens (collapse union.text)

/-- Text that begins and ends as a text does: a word for texts and missing values, or the same quotation mark
at both ends. -/
def endsAsText (cs : List Char) : Bool :=
  isOneOf ["string", "null", "undefined"] cs || isQuotedBy quotes cs

/-- The whole begins and ends with a backtick, or each member begins and ends as a text does. -/
def looksText (union : UnionText) : Bool :=
  isTemplate union.core || union.opened.members.all (endsAsText ·.core)

theorem core_eq (union : UnionText) : union.core = unwrapParens (trim union.squeezed.text) := by
  rw [core, collapse, text_squeezed]

/-- The normal form of a union is the text without parentheses around it. -/
theorem normalize_text (union : UnionText) : normalize union.text = union.core := by
  obtain ⟨⟨c, rest, hstart, hc⟩, -⟩ := union.squeezed.begins_text
  have hblank : isBlank c = false := isBlank_of_head?_trimStart union.squeezed.text (by rw [hstart]; rfl)
  have htrim : trim union.squeezed.text = c :: trimEnd rest := by
    rw [trim, hstart]
    exact trimEnd_append_cons hblank [] rest
  have hbar : ¬ isLeadingBar c = true := by
    rw [isLeadingBar]
    intro hbar
    simp only [Bool.or_eq_true, beq_iff_eq] at hbar
    rcases hbar with (rfl | rfl) | rfl
    · exact hc (by decide)
    · exact hc (by decide)
    · exact absurd hblank (by decide)
  rw [TypeText.normalize, collapse, ← text_squeezed, htrim, List.dropWhile_cons_of_neg hbar, ← htrim, core_eq]

theorem unwrapParens_opened : ∀ union : UnionText,
    unwrapParens (trim union.text) = unwrapParens (trim union.opened.text)
  | atom _ => rfl
  | group front inner back => (unwrapParens_group front inner back).trans inner.unwrapParens_opened
  | either _ _ => rfl

theorem exists_opened_eq_either : ∀ union : UnionText, 2 ≤ union.alternatives.length →
    ∃ left right, union.opened = either left right
  | atom _, h => by simp [alternatives] at h
  | group _ inner _, h => inner.exists_opened_eq_either h
  | either left right, _ => ⟨left, right, rfl⟩

/-- The mapping gives a union of at least two alternatives the type of text when it looks like a text, and
that of objects otherwise. -/
theorem javaType_text (union : UnionText) (h : 2 ≤ union.alternatives.length) (optional : Bool) :
    javaType optional union.text = if union.looksText then .text else .object := by
  obtain ⟨left, right, hopened⟩ := union.exists_opened_eq_either h
  have hcore : union.core = trim (either left.squeezed right.squeezed).text := by
    rw [core_eq, unwrapParens_opened, opened_squeezed, hopened, squeezed, unwrapParens_either]
  have hmembers : (either left.squeezed right.squeezed).members.all (isTextLike ·.text) =
      union.opened.members.all (endsAsText ·.core) := by
    have hsqueezed := members_squeezed (either left right)
    rw [squeezed] at hsqueezed
    rw [hopened, hsqueezed, List.all_map]
    simp only [Function.comp_def, text_squeezed]
    rfl
  have hread : read (normalize union.text) = .settled (if union.looksText then .text else .object) := by
    rw [normalize_text, looksText, hcore, read_either, hmembers]
  rw [javaType_of_settled hread]
  cases optional <;> cases union.looksText <;> rfl

/-! ## What the alternatives say -/

/-- One quotation from the first character to the last. -/
def isLiteral (cs : List Char) : Bool :=
  quotes.any (cs.head? == some ·) && (items .top cs).tail.all (!·.atTop) && decide (Nesting.top.after cs = .top)

end UnionText

/-- An alternative that is a text: a word for texts and missing values, or one literal. -/
def Alternative.isText (alternative : Alternative) : Bool :=
  isOneOf ["string", "null", "undefined"] (trim alternative.text) || UnionText.isLiteral (trim alternative.text)

namespace UnionText

/-- The alternatives of a union are those of its members. -/
theorem alternatives_members : ∀ union : UnionText, union.members.flatMap alternatives = union.alternatives
  | atom _ => by rw [members, List.flatMap_singleton]; simp
  | group _ _ _ => by rw [members, List.flatMap_singleton]; simp
  | either left right => by
    rw [members, List.flatMap_append, left.alternatives_members, right.alternatives_members, alternatives]

theorem alternatives_opened : ∀ union : UnionText, union.opened.alternatives = union.alternatives
  | atom _ => rfl
  | group _ inner _ => inner.alternatives_opened
  | either _ _ => rfl

/-- The ends of the members say what their alternatives do, and those of the whole do not say otherwise. -/
structure IsFaithful (union : UnionText) : Prop where
  members : ∀ member ∈ union.opened.members, endsAsText member.core = member.alternatives.all (·.isText)
  whole : isTemplate union.core = true → union.alternatives.all (·.isText) = true

/-- Where the ends do not mislead, a union looks like a text exactly when all its alternatives are texts. -/
theorem IsFaithful.looksText_eq {union : UnionText} (h : union.IsFaithful) :
    union.looksText = union.alternatives.all (·.isText) := by
  have hmembers : union.opened.members.all (endsAsText ·.core) = union.alternatives.all (·.isText) := by
    rw [← alternatives_opened, ← alternatives_members, List.all_flatMap]
    rw [Bool.eq_iff_iff, List.all_eq_true, List.all_eq_true]
    exact forall₂_congr fun member hmember => by rw [h.members member hmember]
  rw [looksText, hmembers]
  cases htemplate : isTemplate union.core with
  | true => rw [h.whole htemplate]; rfl
  | false => rfl

/-- A union of at least two alternatives is mapped to the text of one of two types. -/
theorem javaTypeText_text (union : UnionText) (h : 2 ≤ union.alternatives.length) (optional : Bool) :
    javaTypeText optional none (some (String.ofList union.text)) =
      if union.looksText then "String" else "Object" := by
  rw [javaTypeText_ofList, union.javaType_text h]
  cases union.looksText with
  | true => exact TypeExpr.print_text
  | false => exact TypeExpr.print_object

/-! ## Unions of literals and words -/

/-- A text that does not begin with the letter does not begin with the keyword. -/
theorem not_beginsReadonly {cs : List Char} (h : (trimStart cs).head? ≠ some 'r') : ¬ BeginsReadonly cs := by
  rintro ⟨c, rest, hstart, -⟩
  exact h (by rw [hstart]; rfl)

/-- A text that does not begin with a parenthesis has none around it. -/
theorem core_eq_collapse {union : UnionText} (h : (collapse union.text).head? ≠ some '(') :
    union.core = collapse union.text := by
  rw [core, unwrapParens, if_neg fun hwrapped => h hwrapped.1]

theorem eq_of_mem_quotes {quote : Char} (h : quote ∈ quotes) : quote = '\'' ∨ quote = '"' ∨ quote = '\x60' := by
  simpa [quotes] using h

/-- A letter between two quotation marks. -/
def letterLiteral (quote : Char) (hquote : quote ∈ quotes) : Alternative where
  text := [quote, 'a', quote]
  nonblank := by rcases eq_of_mem_quotes hquote with rfl | rfl | rfl <;> rfl
  balanced := by
    intro depth
    rcases eq_of_mem_quotes hquote with rfl | rfl | rfl <;> rfl
  whole := by
    rcases eq_of_mem_quotes hquote with rfl | rfl | rfl <;> (unfold IsWhole; decide)
  notReadonly := not_beginsReadonly (by rcases eq_of_mem_quotes hquote with rfl | rfl | rfl <;> decide)

/-- A word with white space around it. -/
def numberWord : Alternative where
  text := [' ', 'n', 'u', 'm', 'b', 'e', 'r', ' ']
  nonblank := by decide
  balanced := fun _ => rfl
  whole := by unfold IsWhole; decide
  notReadonly := not_beginsReadonly (by decide)

/-- A literal or a number. -/
def literalOrNumber : UnionText :=
  .either (.atom (letterLiteral '\'' (by decide))) (.atom numberWord)

/-- A number between two template literals. -/
def numberBetweenTemplates : UnionText :=
  .either (.atom (letterLiteral '\x60' (by decide)))
    (.either (.atom numberWord) (.atom (letterLiteral '\x60' (by decide))))

/-- The ends of a literal and of a number do not mislead. -/
theorem isFaithful_literalOrNumber : literalOrNumber.IsFaithful := by
  refine ⟨fun member hmember => ?_, fun htemplate => ?_⟩
  · have hcases : member = .atom (letterLiteral '\'' (by decide)) ∨ member = .atom numberWord := by
      simpa [literalOrNumber, opened, members] using hmember
    rcases hcases with rfl | rfl
    · rw [core_eq_collapse (by decide)]
      decide
    · rw [core_eq_collapse (by decide)]
      decide
  · rw [core_eq_collapse (by decide)] at htemplate
    exact absurd htemplate (by decide)

end UnionText

open UnionText

/-- A union of at least two alternatives is mapped to `String` if it looks like a text and to `Object` if
not, whatever the parentheses around it. Where the ends do not mislead, that is `String` exactly when all
alternatives are texts. -/
theorem javaTypeText_union (union : UnionText) (h : 2 ≤ union.alternatives.length) (optional : Bool) :
    javaTypeText optional none (some (String.ofList union.text)) =
        (if union.looksText then "String" else "Object") ∧
      (union.IsFaithful → javaTypeText optional none (some (String.ofList union.text)) =
        if union.alternatives.all (·.isText) then "String" else "Object") := by
  refine ⟨union.javaTypeText_text h optional, fun hfaithful => ?_⟩
  rw [union.javaTypeText_text h optional, hfaithful.looksText_eq]

/-- An optional member that is a literal or a number is an object. -/
theorem javaTypeText_literalOrNumber : 2 ≤ literalOrNumber.alternatives.length ∧
    literalOrNumber.IsFaithful ∧
    javaTypeText true none (some (String.ofList literalOrNumber.text)) = "Object" := by
  have hlength : 2 ≤ literalOrNumber.alternatives.length := by decide
  refine ⟨hlength, isFaithful_literalOrNumber, ?_⟩
  rw [(javaTypeText_union literalOrNumber hlength true).2 isFaithful_literalOrNumber]
  decide

/-- A union is mapped to `String` though one of its alternatives is no text when it begins and ends with a
template literal. -/
theorem not_forall_javaTypeText_union : ¬ ∀ (union : UnionText) (optional : Bool),
    2 ≤ union.alternatives.length → javaTypeText optional none (some (String.ofList union.text)) =
      if union.alternatives.all (·.isText) then "String" else "Object" := by
  intro h
  have hlength : 2 ≤ numberBetweenTemplates.alternatives.length := by decide
  have hlooks : numberBetweenTemplates.looksText = true := by
    have htemplate : isTemplate (collapse numberBetweenTemplates.text) = true := by decide
    rw [looksText, core_eq_collapse (by decide), htemplate, Bool.true_or]
  have hnumber : numberBetweenTemplates.alternatives.all (·.isText) = false := by decide
  have hdocumented := h numberBetweenTemplates false hlength
  rw [numberBetweenTemplates.javaTypeText_text hlength, hlooks, hnumber] at hdocumented
  exact absurd hdocumented (by decide)

end TypeText

end BeanGen

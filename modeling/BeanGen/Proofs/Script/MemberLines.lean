import BeanGen.Proofs.Script.BrokenMember
import Mathlib.Data.List.Chain

/-!
# Members, one a line

A line of a body holds a member that is read alike whatever stands around it (`MemberLine`). Such lines are
read one after the other, strictly (`objectType?_lines`) as well as leniently (`readBody_lines`). A broken
line among them makes the object type unreadable (`objectType?_broken`), but a lenient reader finds the same
members with it as without (`readBody_insert`).
-/

namespace BeanGen.Script

open Source (Property)

/-! ## Lines -/

/-- The next token can begin a member: it neither closes nor separates. -/
def BeginsMember (cs : List Char) : Prop :=
  ∃ c rest, skip cs = c :: rest ∧ c ∉ ['\x7d', ';', ',', '|']

/-- A line with a member. -/
structure MemberLine where
  text : List Char
  /-- What is kept of the member. -/
  property : Option Property
  /-- What is left of the line behind the member and its separator. -/
  tail : Trivia
  /-- The member ends with a separator, and not with its line. -/
  separated : Bool
  begins : ∀ k, BeginsMember (text ++ k)
  reads : ∀ {steps depth : Nat} {cs k : List Char}, skip cs = skip (text ++ k) →
    (separated = false → endsAt .line ('\n' :: k) = true) → (text ++ k).length ≤ steps → text.length ≤ depth →
    looseMember? (readerWithin steps (depth + 1)) cs = some (property, tail.text ++ k)

/-- A line in front that ends without a separator ends in front of this one. -/
def MemberLine.BeginsAnew (line : MemberLine) : Prop :=
  ∀ k, endsAt .line ('\n' :: (line.text ++ k)) = true

/-- The lines of a body. -/
structure MemberLines where
  lines : List MemberLine
  inOrder : lines.IsChain fun line next => line.separated = true ∨ next.BeginsAnew

/-- The lines as text. -/
def linesText (lines : List MemberLine) : List Char :=
  lines.flatMap MemberLine.text

/-- What is kept of the members. -/
def linesProperties (lines : List MemberLine) : List Property :=
  lines.filterMap MemberLine.property

/-- Every line ends where the next one begins, and the last one where the text behind it does. -/
def EndAt : List MemberLine → List Char → Prop
  | [], _ => True
  | line :: lines, k =>
    (line.separated = false → endsAt .line ('\n' :: (linesText lines ++ k)) = true) ∧ EndAt lines k

/-- What is left of the last line, or what stands in front of the lines if there are none. -/
def leftOf (lead : Trivia) (lines : List MemberLine) : Trivia :=
  lines.foldl (fun _ line => line.tail) lead

section
variable {steps depth count : Nat} {lead : Trivia} {line : MemberLine} {lines : List MemberLine}
  {cs k rest : List Char} {reader : Reader}

theorem linesText_cons : linesText (line :: lines) ++ k = line.text ++ (linesText lines ++ k) := by
  simp [linesText]

theorem length_lines_le (lines : List MemberLine) : lines.length ≤ (linesText lines).length := by
  refine length_le_length_flatMap (fun line hnil => ?_) lines
  obtain ⟨c, rest, hskip, -⟩ := line.begins []
  rw [hnil] at hskip
  cases hskip

theorem endAt_of_inOrder (h : lines.IsChain fun line next => line.separated = true ∨ next.BeginsAnew)
    (hk : endsAt .line ('\n' :: k) = true) : EndAt lines k := by
  induction lines with
  | nil => trivial
  | cons line lines ih =>
    refine ⟨fun hopen => ?_, ih h.tail⟩
    cases lines with
    | nil => exact hk
    | cons next lines =>
      rw [linesText_cons]
      exact ((List.isChain_cons_cons.1 h).1.resolve_left (by simp [hopen])) _

/-! ## Where a member begins -/

theorem BeginsMember.trivia (h : BeginsMember cs) (lead : Trivia) : BeginsMember (lead.text ++ cs) := by
  rwa [BeginsMember, lead.skip_append]

theorem BeginsMember.nextMark? (h : BeginsMember cs) {mark : String} {m : Char} (hmark : mark.toList.head? = some m)
    (hm : m ∈ ['\x7d', ';', ',', '|']) : nextMark? mark cs = none := by
  obtain ⟨c, rest, hskip, hc⟩ := h
  rw [Script.nextMark?, hskip]
  refine mark?_of_head? hmark ?_
  rintro ⟨⟩
  exact hc hm

theorem BeginsMember.closesObject? (h : BeginsMember cs) : closesObject? cs = none := by
  rw [Script.closesObject?, h.nextMark? rfl (by decide), h.nextMark? rfl (by decide)]
  rfl

/-- Behind an opening brace no bar follows, which would belong to it. -/
theorem nextMark?_bar (h : (skip cs).head? ≠ some '|') : nextMark? "\x7b|" ('\x7b' :: cs) = none := by
  have hskip : skip ('\x7b' :: cs) = '\x7b' :: cs := skip_cons (by decide)
  have hbar : ['|'].isPrefixOf cs = false := by
    cases cs with
    | nil => rfl
    | cons c cs =>
      have hne : '|' ≠ c := by
        rintro rfl
        exact h (by rw [skip_cons (by decide)]; rfl)
      rw [List.isPrefixOf_cons_cons, beq_false_of_ne hne, Bool.false_and]
  have hlist : "\x7b|".toList = ['\x7b', '|'] := rfl
  rw [nextMark?, hskip, mark?, hlist, List.isPrefixOf_cons_cons, hbar, Bool.and_false, if_neg (by simp)]

/-! ## The strict reader -/

/-- A member is read with its end, and then, unless the closing mark follows, the next one. -/
theorem members?_succ (reader : Reader) (count : Nat) (earlier : List Property) (cs : List Char) :
    members? reader (count + 1) earlier cs =
      (looseMember? reader cs).bind fun found =>
        match closesObject? found.2 with
        | some rest => some ((found.1.toList ++ earlier).reverse, rest)
        | none => members? reader count (found.1.toList ++ earlier) found.2 := by
  rw [members?, looseMember?]
  cases member? reader cs with
  | none => rfl
  | some found =>
    obtain ⟨property, rest⟩ := found
    simp only [Option.bind_eq_bind, Option.bind_some]
    cases separated? rest <;> rfl

/-- A line is read with its end where it stands. -/
theorem MemberLine.looseMember?_eq (line : MemberLine) (hends : EndAt (line :: lines) k)
    (hcs : skip cs = skip (linesText (line :: lines) ++ k)) (hsteps : (linesText (line :: lines) ++ k).length ≤ steps)
    (hdepth : (linesText (line :: lines)).length ≤ depth) :
    looseMember? (readerWithin steps (depth + 1)) cs =
      some (line.property, line.tail.text ++ (linesText lines ++ k)) := by
  have hdepth' := hdepth
  rw [linesText, List.flatMap_cons, List.length_append] at hdepth'
  rw [linesText_cons] at hcs hsteps
  exact line.reads hcs hends.1 hsteps (by omega)

theorem length_linesText_le (line : MemberLine) (lines : List MemberLine) (k : List Char) :
    (linesText lines ++ k).length ≤ (linesText (line :: lines) ++ k).length ∧
      (linesText lines).length ≤ (linesText (line :: lines)).length := by
  rw [linesText_cons]
  simp [linesText]

/-- The lines are read one after the other up to what follows them, unless that closes the body. -/
theorem members?_append {earlier : List Property} (hends : EndAt lines k)
    (hk : BeginsMember k)
    (hsteps : (linesText lines ++ k).length ≤ steps) (hdepth : (linesText lines).length ≤ depth) :
    members? (readerWithin steps (depth + 1)) (lines.length + count) earlier (lead.text ++ (linesText lines ++ k)) =
      members? (readerWithin steps (depth + 1)) count ((linesProperties lines).reverse ++ earlier)
        ((leftOf lead lines).text ++ k) := by
  induction lines generalizing lead earlier with
  | nil => simp [linesText, linesProperties, leftOf]
  | cons line lines ih =>
    have hread := line.looseMember?_eq hends (lead.skip_append _) hsteps hdepth
    obtain ⟨hsteps', hdepth'⟩ := length_linesText_le line lines k
    have hclose : closesObject? (line.tail.text ++ (linesText lines ++ k)) = none := by
      cases lines with
      | nil => exact (hk.trivia line.tail).closesObject?
      | cons next lines =>
        rw [linesText_cons]
        exact ((next.begins _).trivia _).closesObject?
    rw [List.length_cons, Nat.add_right_comm, members?_succ, hread, Option.bind_some, hclose]
    dsimp only
    rw [ih hends.2 (by omega) (by omega)]
    cases hproperty : line.property <;> simp [linesProperties, leftOf, hproperty]

theorem skip_brace (k : List Char) : skip ('\x7d' :: k) = '\x7d' :: k := rfl

theorem nextMark?_brace (lead : Trivia) (k : List Char) : nextMark? "\x7d" (lead.text ++ '\x7d' :: k) = some k := by
  rw [nextMark?, lead.skip_append]
  rfl

theorem closesObject?_brace (lead : Trivia) (k : List Char) : closesObject? (lead.text ++ '\x7d' :: k) = some k := by
  rw [closesObject?, nextMark?_brace]
  rfl

/-- The lines are read up to the closing brace. -/
theorem members?_lines {earlier : List Property} (close : Trivia)
    (hends : EndAt (line :: lines) (close.text ++ '\x7d' :: k))
    (hsteps : (linesText (line :: lines) ++ (close.text ++ '\x7d' :: k)).length ≤ steps)
    (hdepth : (linesText (line :: lines)).length ≤ depth) (hcount : lines.length < count) :
    members? (readerWithin steps (depth + 1)) count earlier
        (lead.text ++ (linesText (line :: lines) ++ (close.text ++ '\x7d' :: k))) =
      some (earlier.reverse ++ linesProperties (line :: lines), k) := by
  induction lines generalizing line lead earlier count with
  | nil =>
    have hread := line.looseMember?_eq hends (lead.skip_append _) hsteps hdepth
    have hclose : closesObject? (line.tail.text ++ (close.text ++ '\x7d' :: k)) = some k := by
      rw [← List.append_assoc]
      exact closesObject?_brace (line.tail.append close) k
    obtain ⟨count, rfl⟩ : ∃ n, count = n + 1 := ⟨count - 1, by omega⟩
    rw [members?_succ, hread, Option.bind_some, linesText, List.flatMap_nil, List.nil_append, hclose]
    cases hproperty : line.property <;> simp [linesProperties, hproperty]
  | cons next lines ih =>
    have hread := line.looseMember?_eq hends (lead.skip_append _) hsteps hdepth
    obtain ⟨hsteps', hdepth'⟩ := length_linesText_le line (next :: lines) (close.text ++ '\x7d' :: k)
    obtain ⟨count, rfl⟩ : ∃ n, count = n + 1 := ⟨count - 1, by omega⟩
    have hclose : closesObject? (line.tail.text ++ (linesText (next :: lines) ++ (close.text ++ '\x7d' :: k))) =
        none := by
      rw [linesText_cons]
      exact ((next.begins _).trivia _).closesObject?
    rw [members?_succ, hread, Option.bind_some, hclose]
    dsimp only
    rw [ih hends.2 (by omega) (by omega) (Nat.lt_of_succ_lt_succ hcount)]
    cases hproperty : line.property <;> simp [linesProperties, hproperty]

theorem nextMark?_openBrace (h : (skip cs).head? ≠ some '|') :
    (nextMark? "\x7b|" ('\x7b' :: cs)).or (nextMark? "\x7b" ('\x7b' :: cs)) = some cs := by
  rw [nextMark?_bar h, Option.none_or, nextMark?, skip_cons (by decide)]
  rfl

/-- An object type that has members is read by them. -/
theorem objectType?_of_beginsMember (h : BeginsMember cs) :
    objectType? reader ('\x7b' :: cs) =
      (members? reader reader.steps [] cs).map fun found => { rest := found.2, members := some found.1 } := by
  have hbar : (skip cs).head? ≠ some '|' := by
    obtain ⟨c, rest, hskip, hc⟩ := h
    rw [hskip]
    rintro ⟨⟩
    exact hc (by decide)
  rw [objectType?, nextMark?_openBrace hbar]
  simp only [Option.bind_eq_bind, Option.bind_some, h.closesObject?, h.nextMark? (rfl : ",".toList.head? = _) (by decide),
    h.nextMark? (rfl : ";".toList.head? = _) (by decide), Option.none_or, Option.getD_none]
  cases members? reader reader.steps [] cs <;> rfl

/-- Lines in braces are read as an object type. -/
theorem objectType?_lines (close : Trivia) (hends : EndAt lines (close.text ++ '\x7d' :: k))
    (hsteps : (linesText lines ++ (close.text ++ '\x7d' :: k)).length ≤ steps)
    (hdepth : (linesText lines).length ≤ depth) (hcount : lines.length ≤ steps) :
    objectType? (readerWithin steps (depth + 1))
        ('\x7b' :: (lead.text ++ (linesText lines ++ (close.text ++ '\x7d' :: k)))) =
      some { rest := k, members := some (linesProperties lines) } := by
  cases lines with
  | nil =>
    have hclose : closesObject? (lead.text ++ (close.text ++ '\x7d' :: k)) = some k := by
      rw [← List.append_assoc]
      exact closesObject?_brace (lead.append close) k
    have hbar : (skip (lead.text ++ (close.text ++ '\x7d' :: k))).head? ≠ some '|' := by
      rw [lead.skip_append, close.skip_append, skip_brace]
      simp
    have hnone : linesText [] ++ (close.text ++ '\x7d' :: k) = close.text ++ '\x7d' :: k := rfl
    rw [hnone, objectType?, nextMark?_openBrace hbar]
    simp only [Option.bind_eq_bind, Option.bind_some, hclose]
    rfl
  | cons line lines =>
    have hbegins : BeginsMember (lead.text ++ (linesText (line :: lines) ++ (close.text ++ '\x7d' :: k))) := by
      rw [linesText_cons]
      exact (line.begins _).trivia lead
    rw [objectType?_of_beginsMember hbegins]
    exact congrArg (Option.map _) (members?_lines close hends hsteps hdepth hcount)

/-! ## The broken line -/

section
variable {indent : Trivia}

theorem trivia_brokenLine (lead indent : Trivia) (k : List Char) :
    lead.text ++ (brokenLine indent ++ k) = brokenLine (lead.append indent) ++ k := by
  simp [brokenLine, Trivia.append]

theorem beginsMember_brokenLine (indent : Trivia) (k : List Char) : BeginsMember (brokenLine indent ++ k) := by
  refine ⟨'m', ": ;\n".toList ++ k, ?_, by decide⟩
  rw [brokenLine, List.append_assoc, indent.skip_append]
  rfl

theorem looseMember?_brokenLine (indent : Trivia) (k : List Char) :
    looseMember? (readerWithin steps depth) (brokenLine indent ++ k) = none := by
  rw [brokenLine, List.append_assoc]
  exact looseMember?_broken indent ('\n' :: k)

/-- No object type has the broken line among its members. -/
theorem objectType?_broken (hends : EndAt lines (brokenLine indent ++ k))
    (hsteps : (linesText lines ++ (brokenLine indent ++ k)).length ≤ steps)
    (hdepth : (linesText lines).length ≤ depth) (hcount : lines.length ≤ steps) :
    objectType? (readerWithin steps (depth + 1))
      ('\x7b' :: (lead.text ++ (linesText lines ++ (brokenLine indent ++ k)))) = none := by
  have hbroken := beginsMember_brokenLine indent k
  have hbegins : BeginsMember (lead.text ++ (linesText lines ++ (brokenLine indent ++ k))) := by
    cases lines with
    | nil => exact hbroken.trivia lead
    | cons line lines =>
      rw [linesText_cons]
      exact (line.begins _).trivia lead
  obtain ⟨count, hcount'⟩ : ∃ count, steps = lines.length + count := ⟨steps - lines.length, by omega⟩
  have hmembers : members? (readerWithin steps (depth + 1)) (lines.length + count) []
      (lead.text ++ (linesText lines ++ (brokenLine indent ++ k))) = none := by
    rw [members?_append hends hbroken hsteps hdepth, trivia_brokenLine]
    cases count with
    | zero => rfl
    | succ count => rw [members?_succ, looseMember?_brokenLine]; rfl
  rw [objectType?_of_beginsMember hbegins]
  exact congrArg (Option.map _) ((congrArg (fun n => members? _ n _ _) hcount').trans hmembers)

end

/-! ## The lenient reader -/

/-- The body with more items in front. -/
def LooseBody.prepend {α : Type} (items : List α) (body : LooseBody α) : LooseBody α :=
  { body with items := items ++ body.items }

/-- What begins as a member is read as one, or mended. -/
theorem readBody_succ {first complete : Bool} (h : BeginsMember cs) :
    readBody (objectRules reader) (count + 1) first complete cs =
      match looseMember? reader cs with
      | some (item, rest) => (readBody (objectRules reader) count false true rest).prepend item.toList
      | none =>
        let mended := ((objectRules reader).mended? first (readBody.read? (objectRules reader)) cs).getD
          (none, skipBroken count true false cs)
        (readBody (objectRules reader) count false false mended.2).prepend mended.1.toList := by
  obtain ⟨c, rest, hskip, hc⟩ := id h
  rw [readBody, hskip, h.nextMark? (rfl : "\x7d".toList.head? = _) (by decide),
    h.nextMark? (rfl : ";".toList.head? = _) (by decide), h.nextMark? (rfl : ",".toList.head? = _) (by decide)]
  have hread : (objectRules reader).read? cs = looseMember? reader cs := rfl
  simp only [List.isEmpty_cons, Bool.false_eq_true, if_false, Option.none_or, hread]
  cases looseMember? reader cs with
  | none => rfl
  | some found => rfl

theorem LooseBody.prepend_prepend {α : Type} (front back : List α) (body : LooseBody α) :
    (body.prepend back).prepend front = body.prepend (front ++ back) := by
  simp [LooseBody.prepend]

/-- Lines are read up to what follows them. -/
theorem readBody_append {first complete : Bool} (hends : EndAt lines k)
    (hsteps : (linesText lines ++ k).length ≤ steps) (hdepth : (linesText lines).length ≤ depth) :
    readBody (objectRules (readerWithin steps (depth + 1))) (lines.length + count) first complete
        (lead.text ++ (linesText lines ++ k)) =
      (readBody (objectRules (readerWithin steps (depth + 1))) count (first && lines.isEmpty)
        (complete || !lines.isEmpty) ((leftOf lead lines).text ++ k)).prepend (linesProperties lines) := by
  induction lines generalizing lead first complete with
  | nil => simp [linesText, linesProperties, leftOf, LooseBody.prepend]
  | cons line lines ih =>
    have hread := line.looseMember?_eq hends (lead.skip_append _) hsteps hdepth
    obtain ⟨hsteps', hdepth'⟩ := length_linesText_le line lines k
    have hbegins : BeginsMember (lead.text ++ (linesText (line :: lines) ++ k)) := by
      rw [linesText_cons]
      exact (line.begins _).trivia lead
    rw [List.length_cons, Nat.add_right_comm, readBody_succ hbegins, hread]
    dsimp only
    rw [ih hends.2 (by omega) (by omega), LooseBody.prepend_prepend]
    cases hproperty : line.property <;> simp [linesProperties, leftOf, hproperty]

/-- The body ends at its closing brace. -/
theorem readBody_brace {α : Type} (rules : MendingRules (Option α)) (count : Nat) (first complete : Bool)
    (lead : Trivia) (k : List Char) :
    readBody rules (count + 1) first complete (lead.text ++ '\x7d' :: k) = { items := [], rest := k } := by
  rw [readBody, lead.skip_append, skip_brace, nextMark?_brace]
  rfl

/-- The broken line is passed over. -/
theorem readBody_brokenLine {first complete : Bool} (indent : Trivia) (k : List Char) :
    readBody (objectRules (readerWithin (steps + 1) (depth + 1))) (count + 1) first complete
        (brokenLine indent ++ k) =
      readBody (objectRules (readerWithin (steps + 1) (depth + 1))) count false false ('\n' :: k) := by
  rw [readBody_succ (beginsMember_brokenLine indent k), looseMember?_brokenLine, mended?_brokenLine]
  rfl

/-- With the broken line among them, the same members are read as without it. -/
theorem readBody_insert {above below : List MemberLine} {indent : Trivia}
    (habove : EndAt above (brokenLine indent ++ (linesText below ++ '\x7d' :: k)))
    (hbelow : EndAt below ('\x7d' :: k))
    (hsteps : (linesText above ++ (brokenLine indent ++ (linesText below ++ '\x7d' :: k))).length ≤ steps)
    (hdepth : (linesText (above ++ below)).length ≤ depth) (hcount : above.length + below.length + 2 ≤ count) :
    readBody (objectRules (readerWithin steps (depth + 1))) count true true
        (lead.text ++ (linesText above ++ (brokenLine indent ++ (linesText below ++ '\x7d' :: k)))) =
      { items := linesProperties (above ++ below), rest := k } := by
  have hlength : (linesText (above ++ below)).length = (linesText above).length + (linesText below).length := by
    simp [linesText]
  have hbroken : "m: ;\n".toList.length = 5 := rfl
  have hbelow' : (linesText below ++ '\x7d' :: k).length < steps := by
    simp only [List.length_append, brokenLine] at hsteps ⊢
    omega
  obtain ⟨more, rfl⟩ : ∃ more, count = above.length + (below.length + (more + 1) + 1) :=
    ⟨count - (above.length + below.length + 2), by omega⟩
  obtain ⟨steps, rfl⟩ : ∃ n, steps = n + 1 := ⟨steps - 1, by omega⟩
  rw [readBody_append habove hsteps (by omega), trivia_brokenLine, readBody_brokenLine]
  have hbreak : '\n' :: (linesText below ++ '\x7d' :: k) = Trivia.lineBreak.text ++ (linesText below ++ '\x7d' :: k) := rfl
  rw [hbreak, readBody_append hbelow (by omega) (by omega), readBody_brace, LooseBody.prepend_prepend]
  simp [LooseBody.prepend, linesProperties]

end

end BeanGen.Script

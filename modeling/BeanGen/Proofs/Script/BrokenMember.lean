import BeanGen.Proofs.Script.Members
import BeanGen.Script.Salvage

/-!
# Mending a member without a type

A line that holds `m: ;` is no member, since no type stands behind the colon. The first token that breaks
it is its semicolon: what is in front can be completed, and no more than that (`breakIndex_brokenLine`). Of
all that could be changed there, leaving out the colon costs least (`exists_mendings_brokenLine`), and then
the line is a member without a type, of which nothing is kept. What follows the line does not matter in
this, so it is left as it is (`mended?_brokenLine`).
-/

namespace BeanGen.Script

open Written (Name)

/-! ## The line -/

/-- A line with a member that has no type behind its colon, and what stands in front of it. -/
def brokenLine (lead : Trivia) : List Char :=
  lead.text ++ "m: ;\n".toList

/-- The name of the member. -/
def brokenName : Name := ⟨"m", by decide, by decide⟩

section
variable {steps depth : Nat} {lead : Trivia} {cs k : List Char} {reader : Reader}

theorem length_skip_le (cs : List Char) : (skip cs).length ≤ cs.length := by
  suffices h : ∀ inside, (skipFrom inside cs).length ≤ cs.length from h 0
  induction cs with
  | nil => exact fun inside => by cases inside <;> exact Nat.le_refl 0
  | cons c cs ih =>
    intro inside
    cases inside with
    | succ inside => exact Nat.le_succ_of_le (ih inside)
    | zero =>
      rw [skipFrom]
      split
      · exact Nat.le_succ_of_le (ih 0)
      · split
        · exact Nat.le_succ_of_le (ih _)
        · exact Nat.le_refl _

/-- No member begins with the line up to its semicolon. -/
theorem looseMember?_broken (lead : Trivia) (k : List Char) :
    looseMember? (readerWithin steps depth) (lead.text ++ ("m: ;".toList ++ k)) = none := by
  have hcs : skip (lead.text ++ ("m: ;".toList ++ k)) = brokenName.chars ++ (": ;".toList ++ k) :=
    lead.skip_append _
  have htype : (readerWithin steps depth).read (.type .line) (" ;".toList ++ k) = none := by cases depth <;> rfl
  have hcolon : ahead .line (": ;".toList ++ k) = ':' :: (" ;".toList ++ k) := rfl
  have hmark : atMark "?" (':' :: (" ;".toList ++ k)) = false := rfl
  rw [looseMember?, member?_of_skip hcs rfl, namedMember?, memberName?_of_skip hcs rfl]
  simp only [Option.bind_eq_bind, Option.bind_some, hcolon, hmark, Bool.false_eq_true, if_false, htype,
    Option.bind_none]

/-- Its name alone is a member without a type. -/
theorem looseMember?_name (lead : Trivia) :
    looseMember? reader (lead.text ++ "m ;".toList) = some (none, []) := by
  have hcs : skip (lead.text ++ "m ;".toList) = brokenName.chars ++ " ;".toList :=
    lead.skip_append _
  rw [looseMember?, member?_of_skip hcs rfl, namedMember?, memberName?_of_skip hcs rfl]
  exact congrArg (fun item => some (item, [])) (ite_self none)

/-- With a type behind its colon it is a property. -/
theorem looseMember?_typed (lead : Trivia) :
    (looseMember? (readerWithin (steps + 1) (depth + 1)) (lead.text ++ "m:  M;".toList)).map (·.2) =
      some [] := by
  have hcs : skip (lead.text ++ "m:  M;".toList) = brokenName.chars ++ ":  M;".toList :=
    lead.skip_append _
  rw [looseMember?, member?_of_skip hcs rfl, namedMember?, memberName?_of_skip hcs rfl]
  rfl

/-- Without its colon it is a member without a type. -/
theorem looseMember?_gap (lead : Trivia) (k : List Char) :
    looseMember? reader (lead.text ++ ('m' :: (gapOf [':'] ++ (" ;\n".toList ++ k)))) =
      some (none, '\n' :: k) := by
  have hcs : skip (lead.text ++ ('m' :: (gapOf [':'] ++ (" ;\n".toList ++ k)))) =
      brokenName.chars ++ (gapOf [':'] ++ (" ;\n".toList ++ k)) :=
    lead.skip_append _
  rw [looseMember?, member?_of_skip hcs rfl, namedMember?, memberName?_of_skip hcs rfl]
  exact congrArg (fun item => some (item, '\n' :: k)) (ite_self none)

/-! ## Where the line breaks -/

theorem length_rest_le {count : Nat} {previous : Option Token} {before cs : List Char} {place : Place}
    (h : place ∈ places count previous before cs) : place.rest.length ≤ cs.length := by
  induction count generalizing previous before cs with
  | zero => cases h
  | succ count ih =>
    rw [places] at h
    split at h
    · obtain rfl := List.mem_singleton.1 h
      exact Nat.zero_le _
    · next token htoken =>
      have hrest : token.rest.length ≤ cs.length := by
        unfold token? at htoken
        split at htoken
        · cases htoken
        · obtain rfl := Option.some.inj htoken
          rw [List.length_drop]
          exact Nat.le_trans (Nat.sub_le _ _) (length_skip_le cs)
      rcases List.mem_cons.1 h with rfl | h
      · exact hrest
      · exact Nat.le_trans (ih h) hrest

/-- In front of a place stands what stood in front of the first one. -/
theorem exists_before {count : Nat} {previous : Option Token} {before cs : List Char} {place : Place}
    (h : place ∈ places count previous before cs) : ∃ more, place.before = more ++ before := by
  induction count generalizing previous before cs with
  | zero => cases h
  | succ count ih =>
    rw [places] at h
    split at h
    · obtain rfl := List.mem_singleton.1 h
      exact ⟨[], rfl⟩
    · rcases List.mem_cons.1 h with rfl | h
      · exact ⟨[], rfl⟩
      · obtain ⟨more, hmore⟩ := ih h
        exact ⟨more ++ _, by rw [hmore, List.append_assoc]⟩

/-- The search ends at the last number at which the test holds. -/
theorem search_eq {holds : Nat → Bool} {last : Nat} (hlow : ∀ index, index ≤ last → holds index = true ∨ index = 0)
    (hhigh : ∀ index, last < index → holds index = false) {steps low high : Nat} (h : low ≤ last) (h' : last < high)
    (hsteps : high ≤ low + Nat.pow 2 steps) : breakIndex.search holds steps low high = last := by
  induction steps generalizing low high with
  | zero =>
    have hpow : Nat.pow 2 0 = 1 := rfl
    rw [breakIndex.search]
    omega
  | succ steps ih =>
    have hpow : Nat.pow 2 (steps + 1) = Nat.pow 2 steps * 2 := rfl
    rw [breakIndex.search]
    by_cases hnear : high ≤ low + 1
    · rw [if_pos hnear]
      omega
    · rw [if_neg hnear]
      by_cases hmiddle : (low + high) / 2 ≤ last
      · rw [if_pos ((hlow _ hmiddle).resolve_right (by omega))]
        exact ih hmiddle h' (by omega)
      · rw [if_neg (by rw [hhigh _ (by omega)]; simp)]
        exact ih h (by omega) (by omega)

/-- The token of the name. -/
def nameToken (lead : Trivia) (k : List Char) : Token :=
  ⟨.word, ['m'], breaksAhead 0 (brokenLine lead ++ k), ": ;\n".toList ++ k⟩

/-- The token of the colon. -/
def colonToken (k : List Char) : Token :=
  ⟨.mark, [':'], false, " ;\n".toList ++ k⟩

/-- The token of the semicolon. -/
def semicolonToken (k : List Char) : Token :=
  ⟨.mark, [';'], false, '\n' :: k⟩

/-- The three tokens in their places. -/
def brokenPlaces (lead : Trivia) (k : List Char) : List Place :=
  [⟨none, [], brokenLine lead ++ k, some (nameToken lead k)⟩,
    ⟨some (nameToken lead k), (lead.text ++ ['m']).reverse, ": ;\n".toList ++ k,
      some (colonToken k)⟩,
    ⟨some (colonToken k), (lead.text ++ "m:".toList).reverse, " ;\n".toList ++ k,
      some (semicolonToken k)⟩]

theorem places_succ {count : Nat} {previous : Option Token} {before cs : List Char} {token : Token}
    (h : token? (previous.any (·.endsOperand)) cs = some token) :
    places (count + 1) previous before cs =
      ⟨previous, before, cs, some token⟩ ::
        places count token ((textBefore token.rest cs).reverse ++ before) token.rest := by
  rw [places, h]

theorem length_places_le (count : Nat) (previous : Option Token) (before cs : List Char) :
    (places count previous before cs).length ≤ count := by
  induction count generalizing previous before cs with
  | zero => exact Nat.le_refl 0
  | succ count ih =>
    rw [places]
    split
    · exact Nat.succ_le_succ (Nat.zero_le _)
    · exact Nat.succ_le_succ (ih _ _ _)

/-- Behind the three tokens come those of the text behind the line. -/
theorem exists_places_brokenLine (lead : Trivia) (k : List Char) :
    ∃ more, places 24 none [] (brokenLine lead ++ k) = brokenPlaces lead k ++ more ∧
      more.length ≤ 21 ∧
      (∀ place ∈ more, place.rest.length ≤ k.length + 1) ∧
      ∀ place ∈ more, ∃ front, place.before.reverse = lead.text ++ ("m: ;".toList ++ front) := by
  have hskip : skip (brokenLine lead ++ k) = "m: ;\n".toList ++ k := by
    rw [brokenLine, List.append_assoc, lead.skip_append]
    rfl
  have hname : token? (Option.any Token.endsOperand none) (brokenLine lead ++ k) = some (nameToken lead k) := by
    rw [token?, hskip]
    rfl
  have hcolon : token? (Option.any Token.endsOperand (some (nameToken lead k))) (": ;\n".toList ++ k) =
      some (colonToken k) := rfl
  have hsemicolon : token? (Option.any Token.endsOperand (some (colonToken k))) (" ;\n".toList ++ k) =
      some (semicolonToken k) := rfl
  have hbeforeColon : textBefore (": ;\n".toList ++ k) (brokenLine lead ++ k) = lead.text ++ ['m'] := by
    have happ : brokenLine lead ++ k = (lead.text ++ ['m']) ++ (": ;\n".toList ++ k) := by
      simp [brokenLine]
    rw [happ, textBefore_append]
  have hbeforeSemicolon : textBefore (" ;\n".toList ++ k) (": ;\n".toList ++ k) = [':'] := textBefore_append [':'] _
  have hbehind : textBefore ('\n' :: k) (" ;\n".toList ++ k) = " ;".toList := textBefore_append " ;".toList _
  have hplaces : places 24 none [] (brokenLine lead ++ k) = brokenPlaces lead k ++
      places 21 (some (semicolonToken k))
        (" ;".toList.reverse ++ (lead.text ++ "m:".toList).reverse) ('\n' :: k) := by
    have hname' : (nameToken lead k).rest = ": ;\n".toList ++ k := rfl
    have hcolon' : (colonToken k).rest = " ;\n".toList ++ k := rfl
    have hsemicolon' : (semicolonToken k).rest = '\n' :: k := rfl
    rw [places_succ hname, hname', places_succ hcolon, hcolon', places_succ hsemicolon, hsemicolon',
      hbeforeColon, hbeforeSemicolon, hbehind]
    simp [brokenPlaces]
  refine ⟨_, hplaces, length_places_le _ _ _ _, fun place hplace => length_rest_le hplace, fun place hplace => ?_⟩
  obtain ⟨more, hmore⟩ := exists_before hplace
  exact ⟨more.reverse, by rw [hmore]; simp⟩

/-- With its end, the text is one phrase. -/
def MendingRules.reads {α : Type} (rules : MendingRules α) (text : List Char) : Bool :=
  (rules.read? (text ++ rules.ending.toList)).any fun (_, rest) => (skip rest).length ≤ rules.ending.length

theorem isBeginning_of_completion {reads : List Char → Bool} {beginning : List Char} {tokens : List Token}
    {inner outer : String} (hmem : (inner, outer) ∈ completions) (hclosers : closers true tokens = [])
    (h : reads (beginning ++ ' ' :: (inner.toList ++ outer.toList)) = true) :
    isBeginning reads beginning tokens = true := by
  refine List.any_eq_true.2 ⟨true, List.mem_cons_self, List.any_eq_true.2 ⟨_, hmem, ?_⟩⟩
  rw [hclosers]
  simpa using h

theorem isBeginning_eq_false {reads : List Char → Bool} {beginning : List Char} (tokens : List Token)
    (h : ∀ more, reads (beginning ++ more) = false) : isBeginning reads beginning tokens = false := by
  refine List.any_eq_false.2 fun angles _ => ?_
  rw [Bool.not_eq_true]
  refine List.any_eq_false.2 fun completion _ => ?_
  rw [Bool.not_eq_true]
  simpa [List.append_assoc] using h _

/-- The line breaks at its semicolon. -/
theorem breakIndex_brokenLine {more : List Place} (hlength : more.length ≤ 21)
    (hmore : ∀ place ∈ more, ∃ front,
      place.before.reverse = lead.text ++ ("m: ;".toList ++ front)) :
    breakIndex (objectRules (readerWithin (steps + 1) (depth + 1))).reads (brokenPlaces lead k ++ more) = 2 := by
  have hreads (text : List Char) : (objectRules (readerWithin (steps + 1) (depth + 1))).reads text =
      (looseMember? (readerWithin (steps + 1) (depth + 1)) (text ++ ";".toList)).any fun found =>
        (skip found.2).length ≤ ";".length := rfl
  have hstart (front : List Char) : (objectRules (readerWithin (steps + 1) (depth + 1))).reads
      (lead.text ++ ("m: ;".toList ++ front)) = false := by
    rw [hreads, List.append_assoc, List.append_assoc, looseMember?_broken]
    rfl
  rw [breakIndex]
  refine search_eq (fun index hindex => ?_) (fun index hindex => ?_) (Nat.zero_le _) ?_ ?_
  · obtain rfl | rfl | rfl : index = 0 ∨ index = 1 ∨ index = 2 := by omega
    · exact .inr rfl
    · refine .inl (isBeginning_of_completion (by decide : ("", "") ∈ completions) rfl ?_)
      have htext : (lead.text ++ ['m']).reverse.reverse ++ ' ' :: ("".toList ++ "".toList) ++ ";".toList =
          lead.text ++ "m ;".toList := by simp
      rw [hreads, htext, looseMember?_name]
      rfl
    · refine .inl (isBeginning_of_completion (by decide : (" M", "") ∈ completions) rfl ?_)
      have htext : (lead.text ++ "m:".toList).reverse.reverse ++ ' ' :: (" M".toList ++ "".toList) ++
          ";".toList = lead.text ++ "m:  M;".toList := by simp
      obtain ⟨⟨item, rest⟩, hfound, hrest⟩ := Option.map_eq_some_iff.1 (looseMember?_typed lead)
      obtain rfl : rest = [] := hrest
      rw [hreads, htext, hfound]
      rfl
  · obtain ⟨index, rfl⟩ : ∃ n, index = n + 3 := ⟨index - 3, by omega⟩
    have hplace : (brokenPlaces lead k ++ more)[index + 3]? = more[index]? := by simp [brokenPlaces]
    rw [hplace]
    cases hfound : more[index]? with
    | none => rfl
    | some place =>
      obtain ⟨front, hfront⟩ := hmore place (List.mem_of_getElem? hfound)
      refine isBeginning_eq_false _ fun text => ?_
      rw [hfront, List.append_assoc, List.append_assoc]
      exact hstart _
  · simp [brokenPlaces]
  · simp [brokenPlaces]
    omega

/-! ## The cheapest change -/

/-- The line without its colon. -/
def gapLine (lead : Trivia) (k : List Char) : Mending where
  cost := 600
  text := lead.text ++ ('m' :: (gapOf [':'] ++ (" ;\n".toList ++ k)))
  behind := " ;\n".toList ++ k

/-- To leave out what stands behind the break costs more than that. -/
theorem lt_gapCost {kept passed : List Token} {text : List Char} (hpassed : passed ≠ []) (htext : text ≠ []) :
    600 < gapCost kept passed text := by
  obtain ⟨token, passed, rfl⟩ := List.exists_cons_of_ne_nil hpassed
  obtain ⟨c, text, rfl⟩ := List.exists_cons_of_ne_nil htext
  have hstring : 1 ≤ if token.isString then 3 else 1 := by split <;> omega
  have hsize := Char.utf8Size_pos c
  simp only [gapCost, List.foldr_cons, List.isEmpty_cons, Bool.false_and, Bool.false_eq_true, if_false]
  omega

theorem textBefore_ne_nil {rest cs : List Char} (h : rest.length < cs.length) : textBefore rest cs ≠ [] := by
  intro hnil
  have hlength := congrArg List.length hnil
  rw [textBefore, List.length_take, List.length_nil] at hlength
  omega

/-- What stands at the places of the line, and from there. -/
theorem start_of_mem_brokenPlaces {place : Place} (h : place ∈ brokenPlaces lead k) :
    k.length + 2 ≤ place.start.length := by
  have hskip : skip (brokenLine lead ++ k) = "m: ;\n".toList ++ k := by
    rw [brokenLine, List.append_assoc, lead.skip_append]
    rfl
  simp only [brokenPlaces, List.mem_cons, List.not_mem_nil, or_false] at h
  rcases h with rfl | rfl | rfl
  · rw [Place.start, hskip]
    simp
  · exact Nat.le_add_right _ 2
  · exact Nat.le_refl _

theorem leaveOut?_colon (lead : Trivia) (k : List Char) (more : List Place) :
    leaveOut? (brokenPlaces lead k ++ more) 2 1 2 = some (gapLine lead k) := by
  have hpart : textBefore (" ;\n".toList ++ k) (": ;\n".toList ++ k) = [':'] := textBefore_append [':'] _
  have hlead : textBefore (": ;\n".toList ++ k) (": ;\n".toList ++ k) = [] := textBefore_append [] _
  have hcost : gapCost [colonToken k] [] [':'] = 600 := rfl
  have hleave : leaveOut? (brokenPlaces lead k ++ more) 2 1 2 =
      some ⟨gapCost [colonToken k] [] (textBefore (" ;\n".toList ++ k) (": ;\n".toList ++ k)),
        (lead.text ++ ['m']).reverse.reverseAux
          (textBefore (": ;\n".toList ++ k) (": ;\n".toList ++ k) ++
            gapOf (textBefore (" ;\n".toList ++ k) (": ;\n".toList ++ k)) ++ (" ;\n".toList ++ k)),
        " ;\n".toList ++ k⟩ := rfl
  rw [hleave, hpart, hlead, hcost, gapLine, List.reverseAux_eq, List.reverse_reverse, List.append_assoc]
  rfl

/-- Whatever is left out of the line besides its colon costs more. -/
theorem lt_cost_leaveOut? {more : List Place} (hmore : ∀ place ∈ more, place.rest.length ≤ k.length + 1)
    {first count : Nat} {mending : Mending} (hrange : first < 2 + count) (hfirst : first ≤ 2)
    (h : leaveOut? (brokenPlaces lead k ++ more) 2 first (2 + count) = some mending) :
    mending = gapLine lead k ∨ 600 < mending.cost := by
  match count, first, hrange with
  | 0, 0, _ =>
    obtain rfl := Option.some.inj h
    have hcost (part : List Char) : gapCost [nameToken lead k, colonToken k] [] part =
        500 + 100 * (2 + 0) + part.foldr (·.utf8Size + ·) 0 + 30 * part.count '\n' - 0 := rfl
    refine .inr (Nat.lt_of_lt_of_eq ?_ (hcost _).symm)
    omega
  | 0, 1, _ => exact .inl (Option.some.inj (h.symm.trans (leaveOut?_colon lead k more)))
  | count + 1, first, _ =>
    -- then the semicolon is left out, too, or what follows it
    obtain ⟨start, hstart, h⟩ := Option.bind_eq_some_iff.1 h
    obtain ⟨stop, hstop, h⟩ := Option.bind_eq_some_iff.1 h
    rw [List.getElem?_append_left (by simp [brokenPlaces]; omega)] at hstart
    have hrest : stop.rest.length ≤ k.length + 1 := by
      match count, hstop with
      | 0, hstop =>
        obtain rfl := Option.some.inj hstop
        exact Nat.le_refl _
      | count + 1, hstop =>
        have hplace : (brokenPlaces lead k ++ more)[2 + (count + 1 + 1) - 1]? = more[count]? := by
          rw [List.getElem?_append_right (by simp [brokenPlaces]; omega)]
          congr 1
          simp [brokenPlaces]
          omega
        rw [hplace] at hstop
        exact hmore stop (List.mem_of_getElem? hstop)
    have htokens : (brokenPlaces lead k ++ more).filterMap (·.token) =
        nameToken lead k :: colonToken k :: semicolonToken k :: more.filterMap (·.token) := rfl
    split at h
    · cases h
    · obtain rfl := Option.some.inj h
      refine .inr (lt_gapCost ?_ (textBefore_ne_nil ?_))
      · rw [htokens, ← Nat.add_assoc, Nat.add_comm 2 count]
        exact List.cons_ne_nil _ _
      · have := start_of_mem_brokenPlaces (List.mem_of_getElem? hstart)
        omega

/-- What costs less than all else comes first. -/
theorem exists_mergeSort_eq {α : Type} (cost : α → Nat) {x : α} {xs : List α} (hmem : x ∈ xs)
    (h : ∀ y ∈ xs, y = x ∨ cost x < cost y) : ∃ rest, (xs.mergeSort fun a b => cost a ≤ cost b) = x :: rest := by
  have hsorted : (xs.mergeSort fun a b => decide (cost a ≤ cost b)).Pairwise fun a b => decide (cost a ≤ cost b) = true :=
    List.pairwise_mergeSort (fun a b c hab hbc => by simp only [decide_eq_true_eq] at *; omega)
      (fun a b => by simp only [Bool.or_eq_true, decide_eq_true_eq]; omega) xs
  have hmem' : x ∈ xs.mergeSort fun a b => decide (cost a ≤ cost b) := List.mem_mergeSort.2 hmem
  cases hlist : xs.mergeSort fun a b => decide (cost a ≤ cost b) with
  | nil =>
    rw [hlist] at hmem'
    cases hmem'
  | cons y rest =>
    rw [hlist] at hsorted hmem'
    have hy : y ∈ xs := List.mem_mergeSort.1 (hlist ▸ List.mem_cons_self)
    rcases h y hy with rfl | hlt
    · exact ⟨rest, rfl⟩
    · rcases List.mem_cons.1 hmem' with rfl | hx
      · exact absurd hlt (Nat.lt_irrefl _)
      · have hle := (List.pairwise_cons.1 hsorted).1 x hx
        simp only [decide_eq_true_eq] at hle
        omega

/-- To leave out the colon comes first of all changes. -/
theorem exists_mendings_brokenLine (reader : Reader) (first : Bool) (lead : Trivia) {more : List Place}
    (hmore : ∀ place ∈ more, place.rest.length ≤ k.length + 1) :
    ∃ rest, (objectRules reader).mendings first (brokenPlaces lead k ++ more) 2 = gapLine lead k :: rest := by
  have hranges (late : Bool) (ranges : List (Nat × Nat)) (range : Nat × Nat) :
      range ∈ (if late then ranges.reverse else ranges) ↔ range ∈ ranges := by
    cases late <;> simp
  rw [MendingRules.mendings]
  refine exists_mergeSort_eq Mending.cost ?_ fun mending hmending => ?_
  · refine List.mem_append_left _ (List.mem_filterMap.2 ⟨(1, 2), (hranges _ _ _).2 (List.mem_flatMap.2 ?_), ?_⟩)
    · exact ⟨1, by decide, List.mem_filterMap.2 ⟨0, by simp, rfl⟩⟩
    · exact leaveOut?_colon lead k more
  · rcases List.mem_append.1 hmending with hout | hfilled
    · obtain ⟨⟨start, stop⟩, hrange, hleave⟩ := List.mem_filterMap.1 hout
      obtain ⟨index, hindex, hcounts⟩ := List.mem_flatMap.1 ((hranges _ _ _).1 hrange)
      obtain ⟨count, -, hcount⟩ := List.mem_filterMap.1 hcounts
      obtain ⟨hlt, heq⟩ := Option.ite_none_right_eq_some.1 hcount
      obtain ⟨rfl, rfl⟩ := Prod.mk.inj (Option.some.inj heq)
      exact lt_cost_leaveOut? hmore hlt (Nat.le_of_lt_succ (List.mem_range.1 hindex)) hleave
    · obtain ⟨place, -, hfill⟩ := List.mem_flatMap.1 hfilled
      refine .inr ?_
      rcases List.mem_append.1 hfill with hname | hfiller
      · obtain ⟨-, heq⟩ := Option.ite_none_right_eq_some.1 (Option.mem_toList.1 hname)
        obtain rfl := Option.some.inj heq
        simp only [Place.fillIn, gapLine, objectRules, Bool.false_and, Bool.false_eq_true, if_false]
        omega
      · obtain ⟨filler, -, rfl⟩ := List.mem_map.1 hfiller
        rw [Place.fillIn]
        dsimp only [gapLine]
        split <;> omega

/-- What is read with the first change of all counts, unless the text ends with it. -/
theorem mended?_of_mendings {α : Type} {rules : MendingRules α} {first : Bool}
    {read? : List Char → Option (α × List Char)} {mending : Mending} {mendings : List Mending} {item : α}
    {rest : List Char}
    (h : rules.mendings first (places 24 none [] cs) (breakIndex rules.reads (places 24 none [] cs)) =
      mending :: mendings)
    (hread : read? mending.text = some (item, rest)) (hrest : rest.length ≤ mending.behind.length)
    (hbehind : (skip mending.behind).isEmpty = false) : rules.mended? first read? cs = some (item, rest) := by
  have hmended : rules.mended? first read? cs =
      (rules.mendings first (places 24 none [] cs) (breakIndex rules.reads (places 24 none [] cs))).findSome?
        fun mending => (read? mending.text).bind fun found =>
          if found.2.length ≤ mending.behind.length && !(skip mending.behind).isEmpty then some (found.1, found.2)
          else none := rfl
  rw [hmended, h, List.findSome?_cons, hread, Option.bind_some, hbehind, decide_eq_true hrest]
  rfl

/-- The line is mended to a member of which nothing is kept, and what follows it is left as it is. -/
theorem mended?_brokenLine (first : Bool) (lead : Trivia) (k : List Char) :
    (objectRules (readerWithin (steps + 1) (depth + 1))).mended? first
        (readBody.read? (objectRules (readerWithin (steps + 1) (depth + 1)))) (brokenLine lead ++ k) =
      some (none, '\n' :: k) := by
  obtain ⟨more, hplaces, hlength, hrest, hbefore⟩ := exists_places_brokenLine lead k
  obtain ⟨mendings, hmendings⟩ :=
    exists_mendings_brokenLine (readerWithin (steps + 1) (depth + 1)) first lead hrest
  rw [← breakIndex_brokenLine hlength hbefore, ← hplaces] at hmendings
  refine mended?_of_mendings hmendings ?_ (Nat.le_add_right _ 2) rfl
  have hskip : skip (gapLine lead k).text = 'm' :: (gapOf [':'] ++ (" ;\n".toList ++ k)) := lead.skip_append _
  have hbrace (cs : List Char) : atMark "\x7d" ('m' :: cs) = false := rfl
  rw [readBody.read?, hskip, hbrace, if_neg (by simp)]
  exact looseMember?_gap lead k

end

end BeanGen.Script

import BeanGen.Proofs.Text.Blank
import BeanGen.Proofs.Text.Infix
import BeanGen.Script.Hint

/-!
# The text of a hint

A hint is cut out of a comment in three steps: what stands in front of a further `//`, that without
white space and semicolons at its end, and of that what stands in front of the first white space outside
angle brackets. The first two steps do what they are for: a hint is never empty, has no white space at its
ends and no `//` in it (`typeHint?_clean`). The third comes last and counts brackets as they come, so a
semicolon in front of the white space at which it cuts stays, and behind a closing bracket without an
opening one white space outside of brackets stays, too; these are the only ways to a hint that is not
clean (`getLast?_named_iff`, `hasOpenBlank_named_iff`).
-/

namespace BeanGen.Script

open Text

/-! ## Angle brackets -/

/-- How many angle brackets are open behind the text. A closing one without an opening one counts for
nothing. -/
def openAngles (cs : List Char) : Nat :=
  cs.foldl (fun count c => if c = '<' then count + 1 else if c = '>' then count - 1 else count) 0

/-- What a character adds to the number of opening brackets less that of closing ones. -/
def angleStep (c : Char) : Int :=
  if c = '<' then 1 else if c = '>' then -1 else 0

/-- How many more brackets the text opens than it closes. -/
def angleBalance (cs : List Char) : Int :=
  cs.foldr (fun c balance => angleStep c + balance) 0

/-- White space stands in the text outside of angle brackets. -/
def HasOpenBlank (cs : List Char) : Prop :=
  ∃ front c back, cs = front ++ c :: back ∧ isBlank c = true ∧ openAngles front = 0

instance (cs : List Char) : Decidable (HasOpenBlank cs) :=
  decidable_of_iff (∃ i, ∃ h : i < cs.length, isBlank cs[i] = true ∧ openAngles (cs.take i) = 0) <| by
    constructor
    · rintro ⟨i, h, hblank, hopen⟩
      exact ⟨cs.take i, cs[i], cs.drop (i + 1), by simp, hblank, hopen⟩
    · rintro ⟨front, c, back, rfl, hblank, hopen⟩
      exact ⟨front.length, by simp, by simpa using hblank, by simpa using hopen⟩

/-- What a hint should look like. -/
structure IsCleanHint (hint : List Char) : Prop where
  nonempty : hint ≠ []
  trimmed : trim hint = hint
  noSemicolon : hint.getLast? ≠ some ';'
  noComment : ¬ ['/', '/'] <:+: hint
  noOpenBlank : ¬ HasOpenBlank hint

section
variable {depth : Int} {c : Char} {cs front back : List Char}

@[simp]
theorem angleBalance_nil : angleBalance [] = 0 := rfl

@[simp]
theorem angleBalance_cons : angleBalance (c :: cs) = angleStep c + angleBalance cs := rfl

theorem angleBalance_append : angleBalance (front ++ back) = angleBalance front + angleBalance back := by
  induction front with
  | nil => simp
  | cons c front ih => rw [List.cons_append, angleBalance_cons, angleBalance_cons, ih, Int.add_assoc]

theorem angleStep_of_isBlank (h : isBlank c = true) : angleStep c = 0 := by
  rw [angleStep, if_neg (ne_of_isBlank h rfl), if_neg (ne_of_isBlank h rfl)]

/-! ## The cut -/

/-- At no white space in the text, the brackets in front of it are in balance. -/
def NoBalancedBlank (depth : Int) (cs : List Char) : Prop :=
  ∀ front c back, cs = front ++ c :: back → isBlank c = true → depth + angleBalance front ≠ 0

theorem noBalancedBlank_nil : NoBalancedBlank depth [] := by
  intro front c back heq
  simp at heq

theorem noBalancedBlank_cons :
    NoBalancedBlank depth (c :: cs) ↔
      (isBlank c = true → depth ≠ 0) ∧ NoBalancedBlank (depth + angleStep c) cs := by
  constructor
  · intro h
    refine ⟨fun hc => by simpa using h [] c cs rfl hc, fun front d back heq hd => ?_⟩
    have hne := h (c :: front) d back (by rw [heq]; rfl) hd
    rw [angleBalance_cons] at hne
    omega
  · rintro ⟨hfirst, hrest⟩ front d back heq hd
    cases front with
    | nil =>
      obtain ⟨rfl, -⟩ := List.cons.inj heq
      simpa using hfirst hd
    | cons e front =>
      obtain ⟨rfl, htail⟩ := List.cons.inj heq
      have hne := hrest front d back htail hd
      rw [angleBalance_cons]
      omega

theorem NoBalancedBlank.of_append (h : NoBalancedBlank depth (front ++ back)) : NoBalancedBlank depth front :=
  fun f c b heq => h f c (b ++ back) (by rw [heq, List.append_assoc, List.cons_append])

theorem NoBalancedBlank.concat (h : NoBalancedBlank depth cs) (hc : isBlank c = true → depth + angleBalance cs ≠ 0) :
    NoBalancedBlank depth (cs ++ [c]) := by
  intro front d back heq hd
  obtain ⟨rfl, hlast⟩ | ⟨back', rfl, rfl⟩ :
      (front = cs ∧ d :: back = [c]) ∨ ∃ b, back = b ++ [c] ∧ cs = front ++ d :: b := by
    rcases List.eq_nil_or_concat back with rfl | ⟨b, e, rfl⟩
    · obtain ⟨hfront, hlast⟩ := List.append_inj' heq rfl
      exact .inl ⟨hfront.symm, hlast.symm⟩
    · rw [List.concat_eq_append, ← List.cons_append, ← List.append_assoc] at heq
      obtain ⟨hcs, hlast⟩ := List.append_inj' heq rfl
      exact .inr ⟨b, by rw [List.concat_eq_append, hlast], hcs⟩
  · obtain ⟨rfl, -⟩ := List.cons.inj hlast
    exact hc hd
  · exact h front d back' rfl hd

/-- The text is cut into these two parts. -/
structure CutsAt (depth : Int) (front back : List Char) : Prop where
  noBalancedBlank : NoBalancedBlank depth front
  head : ∀ c ∈ back.head?, isBlank c = true ∧ depth + angleBalance front = 0

theorem upToBlank_cons (c : Char) (cs : List Char) :
    upToBlank depth (c :: cs) =
      if isBlank c = true ∧ depth = 0 then [] else c :: upToBlank (depth + angleStep c) cs := by
  have hadd : depth + -1 = depth - 1 := by omega
  rw [upToBlank]
  by_cases hless : c = '<'
  · subst hless
    rfl
  by_cases hgreater : c = '>'
  · subst hgreater
    simp [angleStep, hadd, (by decide : isBlank '>' = false)]
  · simp [hless, hgreater, angleStep]

/-- Cutting gives the first part, whatever the second one is. -/
theorem CutsAt.upToBlank (h : CutsAt depth front back) : upToBlank depth (front ++ back) = front := by
  induction front generalizing depth with
  | nil =>
    cases back with
    | nil => rfl
    | cons c back =>
      obtain ⟨hc, hdepth⟩ := h.head c rfl
      rw [List.nil_append, upToBlank_cons, if_pos ⟨hc, by simpa using hdepth⟩]
  | cons c front ih =>
    obtain ⟨hfirst, hrest⟩ := noBalancedBlank_cons.1 h.noBalancedBlank
    have hcut : CutsAt (depth + angleStep c) front back :=
      ⟨hrest, fun d hd => ⟨(h.head d hd).1, by
        have := (h.head d hd).2
        rw [angleBalance_cons] at this
        omega⟩⟩
    rw [List.cons_append, upToBlank_cons, if_neg fun hboth => hfirst hboth.1 hboth.2, ih hcut]

/-- Every text is cut somewhere. -/
theorem exists_cutsAt (depth : Int) (cs : List Char) : ∃ front back, cs = front ++ back ∧ CutsAt depth front back := by
  induction cs generalizing depth with
  | nil => exact ⟨[], [], rfl, noBalancedBlank_nil, by simp⟩
  | cons c cs ih =>
    by_cases hcut : isBlank c = true ∧ depth = 0
    · refine ⟨[], c :: cs, rfl, noBalancedBlank_nil, ?_⟩
      rintro d ⟨⟩
      simpa using hcut
    · obtain ⟨front, back, rfl, hrest⟩ := ih (depth + angleStep c)
      refine ⟨c :: front, back, rfl, noBalancedBlank_cons.2 ⟨fun hc hdepth => hcut ⟨hc, hdepth⟩, hrest.noBalancedBlank⟩,
        fun d hd => ⟨(hrest.head d hd).1, ?_⟩⟩
      have := (hrest.head d hd).2
      rw [angleBalance_cons]
      omega

theorem upToBlank_isPrefix (depth : Int) (cs : List Char) : upToBlank depth cs <+: cs := by
  obtain ⟨front, back, rfl, hcut⟩ := exists_cutsAt depth cs
  rw [hcut.upToBlank]
  exact List.prefix_append _ _

end

/-! ## Semicolons at the end -/

section
variable {c : Char} {cs text front back : List Char}

/-- White space with nothing but semicolons behind it. -/
def OnlyEnds (cs : List Char) : Prop :=
  ∃ blanks count, cs = blanks ++ List.replicate count ';' ∧ ∀ c ∈ blanks, isBlank c = true

theorem OnlyEnds.of_append (h : OnlyEnds (front ++ back)) : OnlyEnds back := by
  obtain ⟨blanks, count, heq, hblanks⟩ := h
  rcases List.append_eq_append_iff.1 heq with ⟨more, rfl, rfl⟩ | ⟨more, rfl, hmore⟩
  · exact ⟨more, count, rfl, fun c hc => hblanks c (List.mem_append_right _ hc)⟩
  · have hall : ∀ c ∈ back, c = ';' := fun c hc =>
      List.eq_of_mem_replicate (hmore ▸ List.mem_append_right _ hc)
    exact ⟨[], back.length, List.eq_replicate_of_mem hall, by simp⟩

/-- Where something else than white space comes, only semicolons are left. -/
theorem OnlyEnds.eq_of_cons (h : OnlyEnds (c :: cs)) (hc : isBlank c = false) : ∀ d ∈ c :: cs, d = ';' := by
  obtain ⟨blanks, count, heq, hblanks⟩ := h
  cases blanks with
  | nil =>
    rw [heq]
    exact fun d hd => List.eq_of_mem_replicate hd
  | cons b blanks =>
    obtain ⟨rfl, -⟩ := List.cons.inj heq
    rw [hblanks c List.mem_cons_self] at hc
    cases hc

theorem exists_dropTrailing (c : Char) (cs : List Char) :
    ∃ count, cs = dropTrailing c cs ++ List.replicate count c ∧ (dropTrailing c cs).getLast? ≠ some c := by
  have hsplit := List.takeWhile_append_dropWhile (p := (· == c)) (l := cs.reverse)
  have hall : ∀ d ∈ cs.reverse.takeWhile (· == c), d = c := fun d hd => by simpa using List.mem_takeWhile_imp hd
  refine ⟨(cs.reverse.takeWhile (· == c)).length, ?_, fun hlast => ?_⟩
  · rw [dropTrailing, ← List.reverse_replicate, ← List.reverse_append, ← List.eq_replicate_of_mem hall, hsplit,
      List.reverse_reverse]
  · rw [dropTrailing, List.getLast?_reverse] at hlast
    have hhead := List.head?_dropWhile_not (· == c) cs.reverse
    rw [hlast] at hhead
    simp at hhead

/-- What is left of a text without the semicolons at its end, and without the white space in front of them. -/
def withoutEnds (text : List Char) : List Char :=
  trim (dropTrailing ';' text)

/-- What is taken away are semicolons with white space in front of them. A semicolon that is left at the end
stands in front of white space. -/
structure StripsEnds (text core : List Char) : Prop where
  exists_eq : ∃ ends, text = core ++ ends ∧ OnlyEnds ends ∧
    (core.getLast? = some ';' → ∃ c rest, ends = c :: rest ∧ isBlank c = true)
  last : ∀ c ∈ core.getLast?, isBlank c = false

theorem stripsEnds_withoutEnds (htext : trim text = text) : StripsEnds text (withoutEnds text) := by
  obtain ⟨count, heq, hlast⟩ := exists_dropTrailing ';' text
  obtain ⟨front, back, hcore, hfront, hback⟩ := exists_trim (dropTrailing ';' text)
  have hnil : front = [] := by
    cases front with
    | nil => rfl
    | cons b front =>
      have hhead : (trim text).head? = some b := by
        rw [htext, heq, hcore]
        rfl
      exact absurd (hfront b List.mem_cons_self) (by rw [isBlank_of_head?_trim text hhead]; simp)
  subst hnil
  refine ⟨⟨back ++ List.replicate count ';', ?_, ⟨back, count, rfl, hback⟩, fun hsemicolon => ?_⟩, fun c hc => ?_⟩
  · rw [withoutEnds, ← List.append_assoc, ← List.nil_append (trim _), ← hcore]
    exact heq
  · cases back with
    | nil =>
      rw [List.nil_append, List.append_nil] at hcore
      rw [withoutEnds, ← hcore] at hsemicolon
      exact absurd hsemicolon hlast
    | cons b back => exact ⟨b, _, rfl, hback b List.mem_cons_self⟩
  · rw [withoutEnds, trim, trimEnd, List.getLast?_reverse] at hc
    exact isBlank_of_head?_trimStart _ hc

/-- Nothing of what is left could have been taken away. -/
theorem StripsEnds.not_onlyEnds {core x : List Char} (h : StripsEnds text core) (hcore : core = front ++ x)
    (hx : x ≠ []) (htext : text = front ++ back) : ¬ OnlyEnds back := by
  obtain ⟨⟨ends, heq, hends, hsemicolon⟩, hlast⟩ := h
  intro honly
  obtain ⟨init, l, rfl⟩ := (List.eq_nil_or_concat x).resolve_left hx
  rw [List.concat_eq_append, ← List.append_assoc] at hcore
  have hl : core.getLast? = some l := by rw [hcore, List.getLast?_concat]
  have hback : back = init ++ l :: ends := by
    refine (List.append_right_inj front).1 ?_
    rw [← htext, heq, hcore]
    simp
  rw [hback] at honly
  have hall := honly.of_append.eq_of_cons (hlast l hl)
  have hlsemi := hall l List.mem_cons_self
  obtain ⟨c, rest, rfl, hc⟩ := hsemicolon (hlsemi ▸ hl)
  rw [hall c (by simp)] at hc
  cases hc

/-- What is not among the semicolons at the end and the white space in front of them is left. -/
theorem exists_left_of_not_onlyEnds {core ends rest : List Char} (h : core ++ ends = front ++ c :: rest)
    (hends : OnlyEnds ends) (hc : ¬ OnlyEnds (c :: rest)) :
    ∃ more, core = front ++ c :: more ∧ rest = more ++ ends := by
  rcases List.append_eq_append_iff.1 h with ⟨gone, -, rfl⟩ | ⟨more, hmore, hrest⟩
  · exact absurd hends.of_append hc
  · cases more with
    | nil => exact absurd hends (by rwa [← List.nil_append ends, ← hrest])
    | cons d more =>
      obtain ⟨rfl, rfl⟩ := List.cons.inj hrest
      exact ⟨more, hmore, rfl⟩

end

/-! ## What a comment names -/

section
variable {text : List Char}

/-- The text of a comment behind the marker, up to a further `//`, without white space around it. -/
def askedText? (comment : List Char) : Option (List Char) :=
  (findHint? comment).map fun cs => trim ((beforeInfix? ['/', '/'] cs).getD cs)

/-- What a text names. -/
def named (text : List Char) : List Char :=
  upToBlank 0 (withoutEnds text)

/-- A semicolon stands in front of white space at which the brackets are in balance for the first time, or
which only semicolons follow. -/
def LeavesSemicolon (text : List Char) : Prop :=
  ∃ stem c rest, text = stem ++ ';' :: c :: rest ∧ isBlank c = true ∧ NoBalancedBlank 0 stem ∧
    (angleBalance stem = 0 ∨ OnlyEnds (c :: rest))

/-- White space stands outside of angle brackets, and neither at it nor at white space in front of it are the
brackets in balance, so there is a closing one without an opening one. -/
def LosesBracket (text : List Char) : Prop :=
  ∃ front c back, text = front ++ c :: back ∧ isBlank c = true ∧ openAngles front = 0 ∧
    NoBalancedBlank 0 (front ++ [c]) ∧ ¬ OnlyEnds (c :: back)

/-- A name that ends in a semicolon is cut off in front of white space. -/
theorem leavesSemicolon_of_getLast? (htext : trim text = text) (hlast : (named text).getLast? = some ';') :
    LeavesSemicolon text := by
  obtain ⟨ends, heq, hends, hsemicolon⟩ := (stripsEnds_withoutEnds htext).exists_eq
  obtain ⟨front, back, hcore, hcut⟩ := exists_cutsAt 0 (withoutEnds text)
  rw [named, hcore, hcut.upToBlank] at hlast
  obtain ⟨stem, rfl⟩ := List.getLast?_eq_some_iff.1 hlast
  have hbalance : angleBalance (stem ++ [';']) = angleBalance stem := by
    rw [angleBalance_append]
    simp [angleStep]
  cases back with
  | nil =>
    rw [List.append_nil] at hcore
    obtain ⟨c, rest, rfl, hc⟩ := hsemicolon (by rw [hcore, List.getLast?_concat])
    refine ⟨stem, c, rest, ?_, hc, hcut.noBalancedBlank.of_append, .inr hends⟩
    rw [heq, hcore]
    simp
  | cons c back =>
    obtain ⟨hc, hzero⟩ := hcut.head c rfl
    refine ⟨stem, c, back ++ ends, ?_, hc, hcut.noBalancedBlank.of_append, .inl ?_⟩
    · rw [heq, hcore]
      simp
    · rwa [Int.zero_add, hbalance] at hzero

/-- A semicolon in front of white space at which a name is cut off ends the name. -/
theorem LeavesSemicolon.getLast?_named (htext : trim text = text) (h : LeavesSemicolon text) :
    (named text).getLast? = some ';' := by
  obtain ⟨stem, c, rest, htext', hc, hstem, hend⟩ := h
  have hstrips := stripsEnds_withoutEnds htext
  obtain ⟨ends, heq, hends, -⟩ := hstrips.exists_eq
  -- the semicolon is none of those at the end, since white space follows it
  have hkept : ¬ OnlyEnds (';' :: c :: rest) := fun honly => by
    rw [honly.eq_of_cons (by decide) c (by simp)] at hc
    cases hc
  obtain ⟨more, hmore, hrest⟩ := exists_left_of_not_onlyEnds (heq.symm.trans htext') hends hkept
  rw [List.append_cons] at hmore
  have hcut : CutsAt 0 (stem ++ [';']) more := by
    refine ⟨hstem.concat fun h => absurd h (by decide), fun d hd => ?_⟩
    cases more with
    | nil => cases hd
    | cons e more =>
      obtain ⟨rfl, -⟩ := List.cons.inj hrest
      obtain rfl : c = d := by simpa using hd
      refine ⟨hc, ?_⟩
      rcases hend with hzero | honly
      · rw [Int.zero_add, angleBalance_append, hzero]
        simp [angleStep]
      · refine absurd honly (hstrips.not_onlyEnds hmore (List.cons_ne_nil _ _) ?_)
        rw [htext']
        simp
  rw [named, hmore, hcut.upToBlank, List.getLast?_concat]

theorem getLast?_named_iff (htext : trim text = text) : (named text).getLast? = some ';' ↔ LeavesSemicolon text :=
  ⟨leavesSemicolon_of_getLast? htext, fun h => h.getLast?_named htext⟩

theorem hasOpenBlank_named_iff (htext : trim text = text) : HasOpenBlank (named text) ↔ LosesBracket text := by
  have hstrips := stripsEnds_withoutEnds htext
  obtain ⟨ends, heq, hends, -⟩ := hstrips.exists_eq
  obtain ⟨front, back, hcore, hcut⟩ := exists_cutsAt 0 (withoutEnds text)
  have hnamed : named text = front := by rw [named, hcore, hcut.upToBlank]
  rw [hnamed]
  constructor
  · rintro ⟨front', c, back', rfl, hc, hopen⟩
    rw [List.append_assoc, List.cons_append] at hcore
    have htext' : text = front' ++ c :: (back' ++ back ++ ends) := by
      rw [heq, hcore]
      simp
    refine ⟨front', c, _, htext', hc, hopen, ?_, hstrips.not_onlyEnds hcore (List.cons_ne_nil _ _) htext'⟩
    have hblank := hcut.noBalancedBlank
    rw [← List.singleton_append, ← List.append_assoc] at hblank
    exact hblank.of_append
  · rintro ⟨front', c, back', htext', hc, hopen, hblank, honly⟩
    -- the white space is not among what is taken away, so it stands in front of the cut
    obtain ⟨more, hmore, -⟩ := exists_left_of_not_onlyEnds (heq.symm.trans htext') hends honly
    rw [List.append_cons, hcore] at hmore
    rcases List.append_eq_append_iff.1 hmore with ⟨rest, hrest, hback⟩ | ⟨rest, rfl, -⟩
    · cases rest with
      | nil =>
        rw [List.append_nil] at hrest
        exact ⟨front', c, [], hrest.symm, hc, hopen⟩
      | cons d rest =>
        obtain ⟨hd, hzero⟩ := hcut.head d (by rw [hback]; rfl)
        exact absurd hzero (hblank front d rest hrest hd)
    · exact ⟨front', c, rest, by simp, hc, hopen⟩

/-- What a text names begins with no white space and ends with none. -/
theorem trim_named (htext : trim text = text) : trim (named text) = named text := by
  obtain ⟨front, back, hcore, hcut⟩ := exists_cutsAt 0 (withoutEnds text)
  have hnamed : named text = front := by rw [named, hcore, hcut.upToBlank]
  rw [hnamed]
  refine trim_of_ends (fun c hc => ?_) fun c hc => ?_
  · refine isBlank_of_head?_trim (dropTrailing ';' text) ?_
    rw [← withoutEnds, hcore, List.head?_append, hc]
    rfl
  · obtain ⟨init, rfl⟩ := List.getLast?_eq_some_iff.1 hc
    cases back with
    | nil => exact (stripsEnds_withoutEnds htext).last c (by rw [hcore, List.append_nil]; exact hc)
    | cons d back =>
      rw [← Bool.not_eq_true]
      intro hblank
      have hzero := (hcut.head d rfl).2
      rw [angleBalance_append, angleBalance_cons, angleStep_of_isBlank hblank, angleBalance_nil, Int.add_zero,
        Int.add_zero] at hzero
      exact hcut.noBalancedBlank init c [] rfl hblank hzero

theorem named_isInfix (text : List Char) : named text <:+: text := by
  obtain ⟨front, back, hcore, -⟩ := exists_trim (dropTrailing ';' text)
  obtain ⟨count, htext, -⟩ := exists_dropTrailing ';' text
  have hcut : named text <:+: withoutEnds text := (upToBlank_isPrefix 0 _).isInfix
  have hends : withoutEnds text <:+: dropTrailing ';' text := ⟨front, back, hcore.symm⟩
  exact hcut.trans (hends.trans ⟨[], _, htext.symm⟩)

theorem hintType_eq (cs : List Char) :
    hintType cs = named (trim ((beforeInfix? ['/', '/'] cs).getD cs)) := rfl

/-- A hint that a comment gives is never empty, has no white space at its ends and no comment in it. It is
clean, unless a semicolon is left where the text is cut or a closing bracket hides white space. -/
theorem typeHint?_clean {comment hint : String} (h : typeHint? comment = some hint) :
    ∃ text, askedText? comment.toList = some text ∧
      (hint ≠ "" ∧ trimmed hint = hint ∧ ¬ ['/', '/'] <:+: hint.toList) ∧
      (hint.toList.getLast? = some ';' ↔ LeavesSemicolon text) ∧
      (HasOpenBlank hint.toList ↔ LosesBracket text) ∧
      (IsCleanHint hint.toList ↔ ¬ LeavesSemicolon text ∧ ¬ LosesBracket text) := by
  unfold typeHint? at h
  split at h
  case isFalse => cases h
  split at h
  case h_2 => cases h
  next c cs hfound =>
  obtain rfl := Option.some.inj h
  obtain ⟨found, hfind, hcut⟩ := Option.map_eq_some_iff.1 hfound
  rw [hintType_eq] at hcut
  have htrim := trim_trim ((beforeInfix? ['/', '/'] found).getD found)
  have hasked : askedText? comment.toList = some (trim ((beforeInfix? ['/', '/'] found).getD found)) := by
    rw [askedText?, hfind]
    rfl
  have hcomment : ¬ ['/', '/'] <:+: c :: cs := by
    obtain ⟨front, back, htext, -⟩ := exists_trim ((beforeInfix? ['/', '/'] found).getD found)
    rw [← hcut]
    exact fun hmem => not_infix_getD_beforeInfix? (by simp) found
      ((hmem.trans (named_isInfix _)).trans ⟨front, back, htext.symm⟩)
  have hends := trim_named htrim
  have hsemicolon := getLast?_named_iff htrim
  have hopen := hasOpenBlank_named_iff htrim
  rw [hcut] at hends hsemicolon hopen
  rw [String.toList_ofList]
  refine ⟨_, hasked, ⟨by simp, ?_, hcomment⟩, hsemicolon, hopen, ?_⟩
  · rw [trimmed, String.toList_ofList, hends]
  · rw [← hsemicolon, ← hopen]
    exact ⟨fun hclean => ⟨hclean.noSemicolon, hclean.noOpenBlank⟩,
      fun h => ⟨List.cons_ne_nil c cs, hends, h.1, hcomment, h.2⟩⟩

/-- A hint with white space between its brackets, and a semicolon and a comment behind it. -/
theorem typeHint?_clean_map :
    typeHint? "// ids javaType = java.util.Map<String, Integer>; // by id" = some "java.util.Map<String, Integer>" ∧
      IsCleanHint "java.util.Map<String, Integer>".toList := by
  have hhint : typeHint? "// ids javaType = java.util.Map<String, Integer>; // by id" =
      some "java.util.Map<String, Integer>" := by
    decide
  obtain ⟨text, -, -, hsemicolon, hopen, hclean⟩ := typeHint?_clean hhint
  have hlast : "java.util.Map<String, Integer>".toList.getLast? ≠ some ';' := by decide
  have hinside : ¬ HasOpenBlank "java.util.Map<String, Integer>".toList := by decide
  exact ⟨hhint, hclean.2 ⟨fun h => hlast (hsemicolon.2 h), fun h => hinside (hopen.2 h)⟩⟩

/-- A semicolon in front of other words stays. -/
theorem not_forall_isCleanHint_typeHint? :
    ¬ ∀ comment hint, typeHint? comment = some hint → IsCleanHint hint.toList := by
  intro h
  exact (h "// javaType: int; the count" "int;" (by decide)).noSemicolon (by decide)

end

end BeanGen.Script

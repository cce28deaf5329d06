import BeanGen.Proofs.TypeText.Mention
import BeanGen.TypeText.Mapping

/-!
# Which names a mapped type has

The Java type of a piece of type text is written with names that the text mentions, with qualified names,
and with four names of the mapping itself (`mappingNames`): `String` and `Object`, and `double` and
`boolean` for what the source language calls number and boolean (`mentions_of_javaTypeText`).
-/

namespace BeanGen

open Text

/-! ## The names of a Java type -/

namespace Java

/-- The names that a type is written with. -/
def TypeExpr.names : TypeExpr → List String
  | prim p => [p.keyword]
  | named name => [name]
  | applied name args => name :: args.flatMap names

/-- Boxing leaves a type alone or brings in a qualified name. -/
theorem TypeExpr.names_boxed (type : TypeExpr) :
    type.boxed.names = type.names ∨ ∃ p : Primitive, type.boxed.names = [p.wrapper] := by
  cases type with
  | prim p => exact .inr ⟨p, by rw [boxed, names]⟩
  | named | applied => exact .inl rfl

/-- A plain name that a written type mentions is one of the names it is written with. -/
theorem TypeExpr.mem_names_of_mentions {name : List Char} (hplain : TypeText.IsPlain name) :
    ∀ type : TypeExpr, (∀ atom ∈ type.names, ∀ c ∈ atom.toList, isWordPart c = true) →
      Mentions name type.print.toList → String.ofList name ∈ type.names
  | prim p, hwords, h => by
    rw [names, List.forall_mem_singleton] at hwords
    rw [print] at h
    rw [names, List.mem_singleton, h.eq_of_forall hwords]
    exact String.ofList_toList
  | named whole, hwords, h => by
    rw [names, List.forall_mem_singleton] at hwords
    rw [print] at h
    rw [names, List.mem_singleton, h.eq_of_forall hwords]
    exact String.ofList_toList
  | applied head args, hwords, h => by
    rw [names, List.forall_mem_cons] at hwords
    have hprint : (applied head args).print.toList =
        head.toList ++ '<' :: ", ".toList.intercalate (args.map fun arg => arg.print.toList) ++
          ['>'] := by
      simp [print, Function.comp_def]
    rw [hprint] at h
    rw [names]
    rcases h.of_append_cons (hplain.unstructured '>' (by simp)) with hfront | hnil
    · rcases hfront.of_append_cons (hplain.unstructured '<' (by simp)) with hhead | hargs
      · rw [hhead.eq_of_forall hwords.1, String.ofList_toList]
        exact List.mem_cons_self
      · obtain ⟨written, hwritten, harg⟩ :=
          hargs.of_intercalate hplain.ne_nil (hplain.unstructured ',' (by simp)) hplain.head?_ne
        obtain ⟨arg, hmem, rfl⟩ := List.mem_map.1 hwritten
        have hatoms : ∀ atom ∈ arg.names, ∀ c ∈ atom.toList, isWordPart c = true :=
          fun atom hatom => hwords.2 atom (List.mem_flatMap.2 ⟨arg, hmem, hatom⟩)
        exact List.mem_cons_of_mem _
          (List.mem_flatMap.2 ⟨arg, hmem, mem_names_of_mentions hplain arg hatoms harg⟩)
    · exact absurd rfl (hnil.ne_nil hplain.ne_nil)

end Java

namespace TypeText

open Java

/-! ## Where the names come from -/

/-- The names without a package that the mapping itself writes. -/
def mappingNames : List String :=
  ["String", "Object", "double", "boolean"]

/-- A name that the mapping may write for a text: it is made of the characters of names, and it is
qualified, one of the names of the mapping, or mentioned in the text. -/
structure IsMappedName (text : List Char) (name : String) : Prop where
  words : ∀ c ∈ name.toList, isWordPart c = true
  origin : name ≠ "" → '.' ∈ name.toList ∨ name ∈ mappingNames ∨ Mentions name.toList text

section
variable {cs text : List Char} {name : String}

/-- What may be written for a text may be written for another one that mentions as much. -/
theorem IsMappedName.mono (h : IsMappedName cs name)
    (hmentions : name ≠ "" → Mentions name.toList cs → Mentions name.toList text) :
    IsMappedName text name :=
  ⟨h.words, fun hne => (h.origin hne).imp_right (.imp_right (hmentions hne))⟩

/-- The characters of a mapped name are no white space. -/
theorem IsMappedName.isBlank (h : IsMappedName text name) {c : Char} (hc : c ∈ name.toList) :
    isBlank c = false := by
  rw [← Bool.not_eq_true]
  intro hblank
  have hword := h.words c hc
  rw [isWordPart_of_isBlank hblank] at hword
  cases hword

/-- The names of the mapping may be written for any text, and so may the collections. -/
theorem IsMappedName.ofMapping (h : name ∈ mappingNames ++ ["java.util.List", "java.util.Map"]) :
    IsMappedName text name := by
  have hwords : ∀ name ∈ mappingNames ++ ["java.util.List", "java.util.Map"],
      name.toList.all isWordPart = true := by decide
  refine ⟨List.all_eq_true.1 (hwords name h), fun _ => ?_⟩
  rcases List.mem_append.1 h with hmapping | hqualified
  · exact .inr (.inl hmapping)
  · have hdot : ∀ name ∈ ["java.util.List", "java.util.Map"], '.' ∈ name.toList := by decide
    exact .inl (hdot name hqualified)

/-- Type arguments bring in their names. -/
theorem IsMappedName.of_applied {args : List TypeExpr} (hhead : IsMappedName text name)
    (hargs : ∀ arg ∈ args, ∀ name ∈ arg.names, IsMappedName text name) :
    ∀ other ∈ (TypeExpr.applied name args).names, IsMappedName text other := by
  intro other hother
  rw [TypeExpr.names] at hother
  rcases List.mem_cons.1 hother with rfl | hmem
  · exact hhead
  · obtain ⟨arg, harg, hother⟩ := List.mem_flatMap.1 hmem
    exact hargs arg harg other hother

/-- Boxing brings in no other names. -/
theorem IsMappedName.of_boxed {type : TypeExpr} (h : ∀ name ∈ type.names, IsMappedName text name) :
    ∀ name ∈ type.boxed.names, IsMappedName text name := by
  have hwrapper : ∀ p : Primitive, '.' ∈ p.wrapper.toList ∧
      p.wrapper.toList.all isWordPart = true := by
    intro p
    cases p <;> decide
  rcases type.names_boxed with hsame | ⟨p, hboxed⟩
  · rwa [hsame]
  · rw [hboxed]
    intro name hname
    obtain rfl := List.mem_singleton.1 hname
    exact ⟨List.all_eq_true.1 (hwrapper p).2, fun _ => .inl (hwrapper p).1⟩

/-- The characters of a qualified name are those of names. -/
theorem isWordPart_of_isQualifiedName (h : isQualifiedName cs = true) {c : Char} (hc : c ∈ cs) :
    isWordPart c = true := by
  by_cases hdot : c = '.'
  · rw [hdot]
    decide
  · obtain ⟨piece, hpiece, hmem⟩ := exists_mem_splitOn hc hdot
    have hsegment := List.all_eq_true.1 h piece hpiece
    cases piece with
    | nil => cases hmem
    | cons first rest =>
      simp only [Bool.and_eq_true, List.all_eq_true] at hsegment
      rcases List.mem_cons.1 hmem with rfl | hmem
      · have hstart := hsegment.1
        simp only [isNameStart, Bool.or_eq_true] at hstart
        simp only [isWordPart, isWordChar, Bool.or_eq_true]
        tauto
      · rw [isWordPart, hsegment.2 c hmem, Bool.true_or]

/-- A qualified name may be written for a text that mentions what it mentions. -/
theorem IsMappedName.of_isQualifiedName (hqualified : isQualifiedName cs = true)
    (hmentions : ∀ name, Mentions name cs → Mentions name text) : IsMappedName text (String.ofList cs) := by
  refine ⟨fun c hc => ?_, fun _ => .inr (.inr ?_)⟩
  · exact isWordPart_of_isQualifiedName hqualified (by simpa using hc)
  · rw [String.toList_ofList]
    exact hmentions cs (.refl cs)

/-- A generic type is written with its name and its arguments between angle brackets. -/
theorem spec_of_generic? {base : List Char} {args : List (List Char)}
    (h : generic? cs = some (base, args)) :
    isQualifiedName base = true ∧ (∀ name, Mentions name base → Mentions name cs) ∧
      ∀ arg ∈ args, ∀ name, Mentions name arg → Mentions name cs := by
  simp only [generic?] at h
  split at h
  · next hcond =>
    cases h
    simp only [Bool.and_eq_true, beq_iff_eq] at hcond
    obtain ⟨⟨⟨-, hclose⟩, hqualified⟩, hcloses⟩ := hcond
    have hopen : '<' ∈ cs := by
      by_contra hnone
      have hempty : cs.dropWhile (· != '<') = [] :=
        List.dropWhile_eq_nil_iff.2 fun c hc => bne_iff_ne.2 fun heq => hnone (heq ▸ hc)
      rw [hempty] at hcloses
      exact absurd hcloses (by decide)
    refine ⟨hqualified, fun name hname => mentions_of_before hname, fun arg harg name hname => ?_⟩
    obtain ⟨piece, hpiece, rfl⟩ := List.mem_map.1 (List.mem_of_mem_filter harg)
    exact mentions_of_arg hopen hclose hpiece hname
  · cases h

end

/-! ## Readings -/

/-- The names that a reading settles. -/
def Reading.names : Reading → List String
  | settled type => type.names
  | same _ _ => []
  | listOf _ => []
  | mapOf _ _ => []
  | applied name _ => [String.ofList name]

/-- The reading is made of a text: its pieces mention nothing that the text does not, and the names that
it settles may be written for the text. -/
structure Reading.IsFrom (cs : List Char) (reading : Reading) : Prop where
  pieces : ∀ piece ∈ reading.pieces, ∀ name, Mentions name piece → Mentions name cs
  names : ∀ name ∈ reading.names, IsMappedName cs name

namespace Reading.IsFrom

section
variable {cs : List Char}

/-- A type is read from a text when its names may be written for the text. -/
theorem settled {type : TypeExpr} (h : ∀ name ∈ type.names, IsMappedName cs name) :
    IsFrom cs (.settled type) :=
  ⟨by simp [Reading.pieces], h⟩

/-- The types that the mapping has names for may be read from any text. -/
theorem ofMapping {type : TypeExpr}
    (h : ∀ name ∈ type.names, name ∈ mappingNames ++ ["java.util.List", "java.util.Map"]) :
    IsFrom cs (.settled type) :=
  settled fun name hname => .ofMapping (h name hname)

/-- A reading is made of the text it is the reading of. -/
theorem of_readsAs {reading : Reading} (h : ReadsAs cs reading) : IsFrom cs reading := by
  cases h with
  | text => exact ofMapping (by simp [TypeExpr.text, TypeExpr.names, mappingNames])
  | object => exact ofMapping (by simp [TypeExpr.object, TypeExpr.names, mappingNames])
  | record =>
    exact ofMapping (by simp [TypeExpr.record, TypeExpr.map, TypeExpr.text, TypeExpr.object, TypeExpr.names,
      mappingNames])
  | listOfObjects => exact ofMapping (by simp [TypeExpr.list, TypeExpr.object, TypeExpr.names, mappingNames])
  | @primitive p h =>
    refine settled fun name hname => ?_
    obtain rfl : name = p.keyword := List.mem_singleton.1 (by rwa [TypeExpr.names] at hname)
    rcases h with rfl | rfl | hspelled
    · exact .ofMapping (by decide)
    · exact .ofMapping (by decide)
    · have hwords : ∀ p : Primitive, p.keyword.toList.all isWordPart = true := by
        intro p
        cases p <;> decide
      refine ⟨List.all_eq_true.1 (hwords p), fun _ => .inr (.inr ?_)⟩
      rw [hspelled, String.toList_ofList]
      exact .refl cs
  | named _ hqualified =>
    refine settled fun name hname => ?_
    obtain rfl : name = String.ofList cs := List.mem_singleton.1 (by rwa [TypeExpr.names] at hname)
    exact .of_isQualifiedName hqualified fun _ h => h
  | readonly h =>
    refine ⟨fun piece hpiece name hname => ?_, by simp [Reading.names]⟩
    rw [Reading.pieces, List.mem_singleton] at hpiece
    rw [h, ← hpiece]
    simpa using hname.within "readonly ".toList [] ((Option.any_eq_false _ _).1 (by decide)) (by simp)
  | argument h | array h =>
    obtain ⟨-, -, hargs⟩ := spec_of_generic? h
    refine ⟨fun piece hpiece => ?_, by simp [Reading.names]⟩
    exact hargs piece (List.mem_singleton.1 hpiece ▸ List.mem_cons_self)
  | brackets h =>
    refine ⟨fun piece hpiece name hname => ?_, by simp [Reading.names]⟩
    rw [Reading.pieces, List.mem_singleton] at hpiece
    rw [h, ← hpiece]
    simpa using hname.within [] ['[', ']'] (by simp) (by simp; decide)
  | map h =>
    obtain ⟨-, -, hargs⟩ := spec_of_generic? h
    refine ⟨fun piece hpiece => hargs piece ?_, by simp [Reading.names]⟩
    rw [Reading.pieces, List.mem_cons, Option.mem_toList] at hpiece
    exact List.mem_cons.2 (hpiece.imp_right List.mem_of_mem_head?)
  | applied h =>
    obtain ⟨hqualified, hbase, hargs⟩ := spec_of_generic? h
    refine ⟨hargs, fun name hname => ?_⟩
    obtain rfl := List.mem_singleton.1 hname
    exact .of_isQualifiedName hqualified hbase

end

end Reading.IsFrom

/-! ## The mapped type -/

/-- The type that a reading comes to, given the types of its pieces. -/
def Reading.type (pieceType : Bool → List Char → TypeExpr) (optional : Bool) : Reading → TypeExpr
  | settled type => type.boxedIf optional
  | same absent piece => pieceType (optional || absent) piece
  | listOf piece => .list (pieceType false piece).boxed
  | mapOf key none => .map (pieceType true key) .object
  | mapOf key (some value) => .map (pieceType true key) (pieceType true value)
  | applied name args => .applied (String.ofList name) (args.map (pieceType true))

/-- A text is mapped to the type that its reading comes to when the pieces are mapped. -/
theorem javaType_eq (optional : Bool) (raw : List Char) :
    javaType optional raw = (read (normalize raw)).type javaType optional := by
  rw [javaType]
  split
  all_goals
    next hreading =>
      rw [hreading]
      simp [Reading.type]

/-- The pieces that a text is read apart into are shorter than the text. -/
theorem length_lt_of_mem_pieces {raw piece : List Char} (h : piece ∈ (read (normalize raw)).pieces) :
    piece.length < raw.length :=
  Nat.lt_of_lt_of_le (length_lt_of_mem_pieces_read h) (length_normalize_le raw)

section
variable {name raw : List Char}

/-- What is left of a text between parentheses mentions nothing that the text does not. -/
theorem mentions_of_unwrapParens (raw : List Char) (h : Mentions name (unwrapParens raw)) :
    Mentions name raw := by
  fun_induction unwrapParens raw with
  | case1 cs hparens ih =>
    obtain ⟨hopen, hclose⟩ := hparens
    obtain ⟨inner, rfl⟩ := List.head?_eq_some_iff.1 hopen
    obtain ⟨front, c, hcs, hcloser⟩ := exists_of_closesAtEnd hclose
    have hnoName : closers.any isWordPart = false := by decide
    cases front with
    | nil =>
      -- an opening bracket closes nothing
      obtain rfl : '(' = c := (List.cons.inj hcs).1
      exact absurd hcloser (by decide)
    | cons first front =>
      obtain ⟨rfl, rfl⟩ := List.cons.inj hcs
      have hinner : Mentions name front := by simpa using (ih h).of_trim
      simpa using hinner.within ['('] [c] (by simp; decide)
        (by simpa using List.any_eq_false.1 hnoName c hcloser)
  | case2 => exact h

/-- The normal form of a text mentions no other names without white space. -/
theorem mentions_of_normalize (h : Mentions name (normalize raw)) (hne : name ≠ [])
    (hname : ∀ c ∈ name, isBlank c = false) : Mentions name raw := by
  have hbars := mentions_of_unwrapParens _ h
  have hcut : (collapse raw).takeWhile isLeadingBar ++ (collapse raw).dropWhile isLeadingBar =
      collapse raw := List.takeWhile_append_dropWhile
  have hcollapse : Mentions name (collapse raw) := by
    rw [← hcut]
    have hwithin := hbars.within ((collapse raw).takeWhile isLeadingBar) []
      (fun c hc => ?_) (by simp)
    · simpa using hwithin
    · have hbar := List.mem_takeWhile_imp (List.mem_of_getLast? hc)
      simp only [isLeadingBar, Bool.or_eq_true, beq_iff_eq] at hbar
      rcases hbar with (rfl | rfl) | rfl <;> decide
  exact hcollapse.of_trim.of_squeeze hne hname

/-- The names of the mapped type may be written for the text. -/
theorem isMappedName_of_mem_names (optional : Bool) (raw : List Char) :
    ∀ name ∈ (javaType optional raw).names, IsMappedName raw name := by
  have hread := Reading.IsFrom.of_readsAs (.read (normalize raw))
  have hraw : ∀ name, IsMappedName (normalize raw) name → IsMappedName raw name := fun name h =>
    h.mono fun hne hmention =>
      mentions_of_normalize hmention (by simpa using hne) fun c hc => h.isBlank hc
  have hpiece : ∀ piece ∈ (read (normalize raw)).pieces, ∀ optional,
      ∀ name ∈ (javaType optional piece).names, IsMappedName raw name := by
    intro piece hmem optional name hname
    have hlength : piece.length < raw.length := length_lt_of_mem_pieces hmem
    exact hraw name ((isMappedName_of_mem_names optional piece name hname).mono
      fun _ => hread.pieces piece hmem name.toList)
  rw [javaType_eq]
  generalize read (normalize raw) = reading at hread hpiece
  cases reading with
  | settled type =>
    have hnames : ∀ name ∈ type.names, IsMappedName raw name := fun name hname =>
      hraw name (hread.names name hname)
    rw [Reading.type, TypeExpr.boxedIf]
    split
    · exact .of_boxed hnames
    · exact hnames
  | same absent piece => exact hpiece piece (List.mem_singleton_self _) _
  | listOf piece =>
    refine .of_applied (.ofMapping (by decide)) fun arg harg => ?_
    obtain rfl := List.mem_singleton.1 harg
    exact .of_boxed (hpiece piece (List.mem_singleton_self _) false)
  | mapOf key value =>
    have hkey := hpiece key List.mem_cons_self true
    cases value with
    | none =>
      refine .of_applied (.ofMapping (by decide)) fun arg harg => ?_
      rcases List.mem_cons.1 harg with rfl | hmem
      · exact hkey
      · obtain rfl := List.mem_singleton.1 hmem
        intro name hname
        rw [TypeExpr.object, TypeExpr.names, List.mem_singleton] at hname
        exact .ofMapping (by rw [hname]; decide)
    | some value =>
      refine .of_applied (.ofMapping (by decide)) fun arg harg => ?_
      rcases List.mem_cons.1 harg with rfl | hmem
      · exact hkey
      · obtain rfl := List.mem_singleton.1 hmem
        exact hpiece value (List.mem_cons_of_mem _ (List.mem_singleton_self _)) true
  | applied name args =>
    have hhead : IsMappedName raw (String.ofList name) := hraw _ (hread.names _ (List.mem_singleton_self _))
    exact .of_applied hhead (List.forall_mem_map.2 fun arg harg => hpiece arg harg true)
termination_by raw.length

/-- A plain name that the type of a member mentions is mentioned in its hint or in the text of its type,
or it is a name of the mapping. -/
theorem mentions_of_javaTypeText {name : List Char} (hplain : IsPlain name) (hdot : '.' ∉ name)
    {optional : Bool} {hint type : Option String}
    (h : Mentions name (javaTypeText optional hint type).toList) :
    (∃ text ∈ hint.toList ++ type.toList, Mentions name text.toList) ∨
      String.ofList name ∈ mappingNames := by
  unfold javaTypeText at h
  split at h
  · next hinted hhint =>
    obtain ⟨text, rfl, htext⟩ := Option.bind_eq_some_iff.1 hhint
    exact .inl ⟨text, by simp, mentions_of_nonBlank? htext h⟩
  · have hmapped := isMappedName_of_mem_names optional (type.getD "").toList
    have hatom := TypeExpr.mem_names_of_mentions hplain _
      (fun atom hatom => (hmapped atom hatom).words) h
    have hne : String.ofList name ≠ "" := by simpa using hplain.ne_nil
    rcases (hmapped _ hatom).origin hne with hqualified | hmapping | hmention
    · rw [String.toList_ofList] at hqualified
      exact absurd hqualified hdot
    · exact .inr hmapping
    · rw [String.toList_ofList] at hmention
      cases type with
      | none => exact absurd rfl (hmention.ne_nil hplain.ne_nil)
      | some text => exact .inl ⟨text, by simp, hmention⟩

end

end TypeText

end BeanGen

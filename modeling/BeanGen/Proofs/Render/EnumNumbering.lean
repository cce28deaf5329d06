import BeanGen.Proofs.Java.Name
import BeanGen.Proofs.Render.EnumIntegers
import BeanGen.Render.Unit

/-!
# How enum constants are numbered

A constant without a value gets a number by counting on from the last integer in front of it (`CountsTo`).
Constants that are left out count as well. What a constant carries follows from the constants in front of it
(`Carries`), so the entries of an enum are described one after the other (`Lists`): the step lemmas
`CountsTo.concat_none`, `CountsTo.concat_integer` and `CountsTo.concat_other` keep the count, and the run lemma
`lists_constantTexts` follows by induction.

The entries are those with names of the Java language, unless a name that is listed ends with a line break
(`lists_enumConstants_iff`).
-/

namespace BeanGen

open Java (isIdentifier isName)

/-- The value of the constant is an integer. -/
def Constant.HasInteger (constant : Constant) (n : Int) : Prop :=
  ∃ text, constant.value = some text ∧ WritesInt text n

/-- How many of the constants have no value. -/
def withoutValue (constants : List Constant) : Nat :=
  constants.countP (·.value.isNone)

/-- The number that counting reaches with the last of the constants: the last integer among them, or zero if
there is none, and one more for each constant without a value behind it. -/
inductive CountsTo (constants : List Constant) : Int → Prop where
  | fromZero (hnone : ∀ constant ∈ constants, ∀ n, ¬ constant.HasInteger n) :
      CountsTo constants (withoutValue constants)
  | fromInteger {front back : List Constant} {constant : Constant} {n : Int}
      (hsplit : constants = front ++ constant :: back) (h : constant.HasInteger n)
      (hback : ∀ later ∈ back, ∀ m, ¬ later.HasInteger m) :
      CountsTo constants (n + withoutValue back)

/-- What a constant carries behind others: the number that counting reaches with it, its own integer, or in an
enum of texts the text as it is written. In an enum of texts numbers are texts, too. -/
inductive Carries : Bool → List Constant → Constant → String → Prop where
  | number {earlier : List Constant} {name : String} {n : Int} (h : CountsTo (earlier ++ [⟨name, none⟩]) n) :
      Carries false earlier ⟨name, none⟩ (toString n)
  | integer {earlier : List Constant} {name text : String} {n : Int} (h : WritesInt text n) :
      Carries false earlier ⟨name, some text⟩ (toString n)
  | numberText {earlier : List Constant} {name : String} {n : Int}
      (h : CountsTo (earlier ++ [⟨name, none⟩]) n) :
      Carries true earlier ⟨name, none⟩ (Java.stringLiteral (toString n))
  | text {earlier : List Constant} {name text : String} :
      Carries true earlier ⟨name, some text⟩ (Java.stringLiteral text)

/-- The entries of an enum for constants behind others: one for each constant with a valid name, in order. -/
inductive Lists (valid : String → Bool) (textBacked : Bool) :
    List Constant → List Constant → List Java.EnumEntry → Prop where
  | nil {earlier : List Constant} : Lists valid textBacked earlier [] []
  | listed {earlier rest : List Constant} {constant : Constant} {argument : String}
      {entries : List Java.EnumEntry} (hname : valid constant.name = true)
      (hargument : Carries textBacked earlier constant argument)
      (hrest : Lists valid textBacked (earlier ++ [constant]) rest entries) :
      Lists valid textBacked earlier (constant :: rest) (⟨constant.name, argument⟩ :: entries)
  | dropped {earlier rest : List Constant} {constant : Constant} {entries : List Java.EnumEntry}
      (hname : valid constant.name = false)
      (hrest : Lists valid textBacked (earlier ++ [constant]) rest entries) :
      Lists valid textBacked earlier (constant :: rest) entries

/-! ## Counting -/

section
variable {constants : List Constant} {constant : Constant} {last n : Int}

/-- A constant has one integer at most. -/
theorem Constant.HasInteger.unique {m : Int} (h : constant.HasInteger n) (hm : constant.HasInteger m) : n = m := by
  obtain ⟨text, hvalue, h⟩ := h
  obtain ⟨other, hother, hm⟩ := hm
  obtain rfl : text = other := Option.some.inj (hvalue.symm.trans hother)
  exact h.unique hm

/-- A constant without a value has no integer. -/
theorem Constant.not_hasInteger_of_none (h : constant.value = none) : ¬ constant.HasInteger n := by
  rintro ⟨text, hvalue, -⟩
  rw [h] at hvalue
  cases hvalue

/-- A constant that has no integer is counted if it has no value. -/
theorem CountsTo.concat_of_not_hasInteger (h : CountsTo constants last)
    (hconstant : ∀ n, ¬ constant.HasInteger n) :
    CountsTo (constants ++ [constant]) (last + withoutValue [constant]) := by
  have hnone : ∀ {list : List Constant}, (∀ later ∈ list, ∀ m, ¬ later.HasInteger m) →
      ∀ later ∈ list ++ [constant], ∀ m, ¬ later.HasInteger m := by
    intro list hlist later hlater
    rcases List.mem_append.1 hlater with hlater | hlater
    · exact hlist later hlater
    · rw [List.mem_singleton.1 hlater]
      exact hconstant
  have hcast : ∀ list : List Constant,
      (withoutValue (list ++ [constant]) : Int) = withoutValue list + withoutValue [constant] := by
    intro list
    rw [withoutValue, List.countP_append, Int.natCast_add, ← withoutValue, ← withoutValue]
  cases h with
  | fromZero hconstants =>
    rw [← hcast]
    exact .fromZero (hnone hconstants)
  | @fromInteger front back found n hsplit hfound hback =>
    rw [Int.add_assoc, ← hcast]
    exact .fromInteger (by rw [hsplit, List.append_assoc, List.cons_append]) hfound (hnone hback)

/-- A constant without a value is counted. -/
theorem CountsTo.concat_none (h : CountsTo constants last) (hvalue : constant.value = none) :
    CountsTo (constants ++ [constant]) (last + 1) := by
  have hone : withoutValue [constant] = 1 := by
    rw [withoutValue, List.countP_singleton, hvalue]
    rfl
  have hcount := h.concat_of_not_hasInteger fun _ => Constant.not_hasInteger_of_none hvalue
  rwa [hone] at hcount

/-- A constant with another value leaves the count where it is. -/
theorem CountsTo.concat_other (h : CountsTo constants last) (hvalue : constant.value ≠ none)
    (hconstant : ∀ n, ¬ constant.HasInteger n) : CountsTo (constants ++ [constant]) last := by
  have hzero : withoutValue [constant] = 0 := by
    rw [withoutValue, List.countP_singleton, if_neg (by simpa using hvalue)]
  have hcount := h.concat_of_not_hasInteger hconstant
  rwa [hzero, Int.natCast_zero, Int.add_zero] at hcount

/-- An integer is where counting starts anew. -/
theorem CountsTo.concat_integer (constants : List Constant) (h : constant.HasInteger n) :
    CountsTo (constants ++ [constant]) n := by
  have hcount : CountsTo (constants ++ [constant]) (n + withoutValue []) :=
    .fromInteger rfl h fun later hlater => nomatch hlater
  rwa [withoutValue, List.countP_nil, Int.natCast_zero, Int.add_zero] at hcount

/-- Counting reaches one number. -/
theorem CountsTo.unique {m : Int} (h : CountsTo constants n) (hm : CountsTo constants m) : n = m := by
  -- of two last integers the one in front would have the other one behind it
  have hbehind : ∀ {middle back back' : List Constant} {found found' : Constant},
      found :: back = middle ++ found' :: back' → middle ≠ [] → found' ∈ back := by
    intro middle back back' found found' heq hne
    obtain ⟨first, rest, rfl⟩ := List.exists_cons_of_ne_nil hne
    rw [(List.cons.inj heq).2]
    exact List.mem_append_right _ List.mem_cons_self
  cases h with
  | fromZero hnone =>
    cases hm with
    | fromZero => rfl
    | fromInteger hsplit h =>
      exact absurd h (hnone _ (by rw [hsplit]; exact List.mem_append_right _ List.mem_cons_self) _)
  | @fromInteger front back found n hsplit h hback =>
    cases hm with
    | fromZero hnone =>
      exact absurd h (hnone _ (by rw [hsplit]; exact List.mem_append_right _ List.mem_cons_self) _)
    | @fromInteger front' back' found' m hsplit' h' hback' =>
      rw [hsplit] at hsplit'
      rcases List.append_eq_append_iff.1 hsplit' with ⟨middle, -, heq⟩ | ⟨middle, -, heq⟩
      · rcases eq_or_ne middle [] with rfl | hne
        · obtain ⟨rfl, rfl⟩ := List.cons.inj heq
          rw [h.unique h']
        · exact absurd h' (hback _ (hbehind heq hne) _)
      · rcases eq_or_ne middle [] with rfl | hne
        · obtain ⟨rfl, rfl⟩ := List.cons.inj heq
          rw [h.unique h']
        · exact absurd h (hback' _ (hbehind heq hne) _)

end
/-! ## Entries -/

section
variable {valid valid' : String → Bool} {textBacked : Bool} {earlier rest constants : List Constant}
  {entries : List Java.EnumEntry} {last : Int}

/-- An enum carries texts when a value is no integer. -/
theorem isTextBacked_iff : isTextBacked constants = true ↔
    ∃ constant ∈ constants, ∃ text, constant.value = some text ∧ ∀ n, ¬ WritesInt text n := by
  simp only [isTextBacked, List.any_eq_true, ← enumInteger?_eq_some_iff, ← Option.eq_none_iff_forall_ne_some]
  refine exists_congr fun constant => and_congr_right fun _ => ?_
  cases constant.value <;> simp

/-- In an enum of integers every value is an integer. -/
theorem exists_writesInt (h : isTextBacked constants = false) {constant : Constant}
    (hconstant : constant ∈ constants) {text : String} (hvalue : constant.value = some text) :
    ∃ n, WritesInt text n := by
  by_contra hnone
  refine Bool.eq_false_iff.1 h (isTextBacked_iff.2 ⟨constant, hconstant, text, hvalue, ?_⟩)
  exact not_exists.1 hnone

/-- The entries that are made of constants with their texts. -/
def entriesOf (textBacked : Bool) (texts : List (String × String)) : List Java.EnumEntry :=
  (texts.filter fun entry => isIdentifier entry.1).map fun entry =>
    ⟨entry.1, if textBacked then Java.stringLiteral entry.2 else entry.2⟩

theorem textBacked_enumBody (constants : List Constant) :
    (enumBody constants).textBacked = isTextBacked constants :=
  rfl

theorem entries_enumBody (constants : List Constant) : (enumBody constants).entries =
    entriesOf (isTextBacked constants) (constantTexts (isTextBacked constants) 0 constants) :=
  rfl

/-- An entry is made of a constant when its name passes the check. -/
theorem lists_entriesOf_cons {constant : Constant} {text : String} {texts : List (String × String)}
    (hcarries : Carries textBacked earlier constant (if textBacked then Java.stringLiteral text else text))
    (hrest : Lists isIdentifier textBacked (earlier ++ [constant]) rest (entriesOf textBacked texts)) :
    Lists isIdentifier textBacked earlier (constant :: rest)
      (entriesOf textBacked ((constant.name, text) :: texts)) := by
  rw [entriesOf, List.filter_cons]
  cases hname : isIdentifier constant.name with
  | true =>
    rw [if_pos rfl, List.map_cons, ← entriesOf]
    exact .listed hname hcarries hrest
  | false =>
    rw [if_neg Bool.false_ne_true, ← entriesOf]
    exact .dropped hname hrest

/-- When counting has reached the last number, the texts of the constants behind it are what these carry. -/
theorem lists_constantTexts (hlast : CountsTo earlier last)
    (hvalues : textBacked = false → ∀ constant ∈ rest, ∀ text, constant.value = some text →
      ∃ n, WritesInt text n) :
    Lists isIdentifier textBacked earlier rest (entriesOf textBacked (constantTexts textBacked last rest)) := by
  have hlater : ∀ {constant : Constant} {rest : List Constant},
      (textBacked = false → ∀ other ∈ constant :: rest, ∀ text, other.value = some text →
        ∃ n, WritesInt text n) →
      textBacked = false → ∀ other ∈ rest, ∀ text, other.value = some text → ∃ n, WritesInt text n :=
    fun h hbacked other hother => h hbacked other (List.mem_cons_of_mem _ hother)
  fun_induction constantTexts textBacked last rest generalizing earlier with
  | case1 => exact .nil
  | case2 last name rest ih =>
    have hnext : CountsTo (earlier ++ [⟨name, none⟩]) (last + 1) := hlast.concat_none rfl
    refine lists_entriesOf_cons ?_ (ih hnext (hlater hvalues))
    cases textBacked with
    | true => exact .numberText hnext
    | false => exact .number hnext
  | case3 last name value rest n hinteger ih =>
    have hwrites : WritesInt value n := enumInteger?_eq_some_iff.1 hinteger
    have hnext : CountsTo (earlier ++ [⟨name, some value⟩]) n :=
      .concat_integer earlier ⟨value, rfl, hwrites⟩
    refine lists_entriesOf_cons ?_ (ih hnext (hlater hvalues))
    cases textBacked with
    | true => exact .text
    | false => exact .integer hwrites
  | case4 last name value rest hinteger ih =>
    have hnone : ∀ n, ¬ WritesInt value n := fun n hwrites => by
      rw [enumInteger?_eq_some_iff.2 hwrites] at hinteger
      cases hinteger
    have hnext : CountsTo (earlier ++ [⟨name, some value⟩]) last :=
      hlast.concat_other (Option.some_ne_none _)
        fun n ⟨text, hvalue, hwrites⟩ => hnone n (Option.some.inj hvalue ▸ hwrites)
    refine lists_entriesOf_cons ?_ (ih hnext (hlater hvalues))
    cases textBacked with
    | true => exact .text
    | false =>
      obtain ⟨n, hwrites⟩ := hvalues rfl _ List.mem_cons_self value rfl
      exact absurd hwrites (hnone n)

/-- The entries of an enum are those of its constants with names that pass the check. -/
theorem lists_enumBody (constants : List Constant) :
    Lists isIdentifier (enumBody constants).textBacked [] constants (enumBody constants).entries := by
  have hzero : CountsTo [] 0 := .fromZero fun constant hconstant => nomatch hconstant
  rw [entries_enumBody]
  exact lists_constantTexts hzero fun hbacked constant hconstant text hvalue =>
    exists_writesInt hbacked hconstant hvalue

/-- The names of the entries are the valid ones among those of the constants. -/
theorem Lists.names (h : Lists valid textBacked earlier rest entries) :
    entries.map (·.name) = (rest.map (·.name)).filter valid := by
  induction h with
  | nil => rfl
  | listed hname _ _ ih => rw [List.map_cons, List.map_cons, List.filter_cons_of_pos hname, ih]
  | dropped hname _ ih => rw [List.map_cons, List.filter_cons_of_neg (by simp [hname]), ih]

/-- Two checks that agree on the constants list the same entries. -/
theorem Lists.congr (h : Lists valid textBacked earlier rest entries)
    (hsame : ∀ constant ∈ rest, valid' constant.name = valid constant.name) :
    Lists valid' textBacked earlier rest entries := by
  induction h with
  | nil => exact .nil
  | listed hname hargument _ ih =>
    refine .listed ((hsame _ List.mem_cons_self).trans hname) hargument (ih fun other hother => ?_)
    exact hsame other (List.mem_cons_of_mem _ hother)
  | dropped hname _ ih =>
    refine .dropped ((hsame _ List.mem_cons_self).trans hname) (ih fun other hother => ?_)
    exact hsame other (List.mem_cons_of_mem _ hother)

/-- Entries whose names pass the check are those with names of the language when no such name ends with a line
break. -/
theorem Lists.isName_iff (h : Lists isIdentifier textBacked earlier rest entries) :
    Lists isName textBacked earlier rest entries ↔
      ∀ constant ∈ rest, isIdentifier constant.name = true → constant.name.toList.getLast? ≠ some '\n' := by
  constructor
  · intro hnames constant hconstant hcheck
    have hlisted : constant.name ∈ (rest.map (·.name)).filter isIdentifier :=
      List.mem_filter.2 ⟨List.mem_map_of_mem hconstant, hcheck⟩
    rw [← h.names, hnames.names] at hlisted
    exact (Java.isName_iff.1 (List.mem_filter.1 hlisted).2).2
  · intro hbreaks
    refine h.congr fun constant hconstant => ?_
    rw [Bool.eq_iff_iff, Java.isName_iff]
    exact ⟨fun hname => hname.1, fun hcheck => ⟨hcheck, hbreaks constant hconstant hcheck⟩⟩

end

/-- The declaration that an enum with constants is printed as. -/
theorem Writer.typeDecl_of_constants (writer : Writer) {bean : Bean} (hkind : bean.kind = .javaEnum)
    (hne : bean.constants ≠ []) :
    ∃ decl, writer.typeDecl bean = .ofEnum decl ∧ decl.body = some (enumBody bean.constants) := by
  refine ⟨writer.enumDecl bean, ?_, ?_⟩
  · rw [typeDecl, hkind]
  · rw [enumDecl]
    exact if_neg (by simpa using hne)

/-- An enum with an integer, a name that is left out, constants without values and a text. -/
def mixedEnum : Bean where
  name := "Mixed"
  kind := .javaEnum
  constants := [⟨"A", some " +7 "⟩, ⟨"b-c", none⟩, ⟨"D", none⟩, ⟨"E", some "x"⟩, ⟨"F", none⟩]

/-- An enum with a constant that is named by a reserved word with a line break behind it. -/
def keywordEnum : Bean where
  name := "E"
  kind := .javaEnum
  constants := [⟨"class\n", none⟩]

end BeanGen

import BeanGen.Proofs.Render.EnumNumbering
import Mathlib

/-!
# Numbers of enum constants that fit

Values that are integers fit 32 bits, but counting on from them is not bounded. In an enum of integers each
constant carries the decimal text of an integer that is not too small. None is too large exactly when counting
does not pass the largest integer at a constant that is listed (`fitsInt_arguments_iff`).
-/

namespace BeanGen

open Java (isIdentifier)

section
variable {valid : String → Bool} {textBacked : Bool} {earlier rest constants : List Constant}
  {constant : Constant} {entries : List Java.EnumEntry} {entry : Java.EnumEntry} {argument : String} {n : Int}

/-! ## Entries and their constants -/

/-- Each entry is made of a constant with a valid name. -/
theorem Lists.exists_constant (h : Lists valid textBacked earlier rest entries) (hentry : entry ∈ entries) :
    ∃ front constant back, rest = front ++ constant :: back ∧ valid constant.name = true ∧
      Carries textBacked (earlier ++ front) constant entry.argument := by
  induction h with
  | nil => cases hentry
  | @listed earlier rest constant argument entries hname hargument _ ih =>
    rcases List.mem_cons.1 hentry with rfl | hentry
    · exact ⟨[], constant, rest, rfl, hname, by rwa [List.append_nil]⟩
    · obtain ⟨front, other, back, rfl, hother, hcarries⟩ := ih hentry
      exact ⟨constant :: front, other, back, rfl, hother, by rwa [List.append_cons]⟩
  | @dropped earlier rest constant entries _ _ ih =>
    obtain ⟨front, other, back, rfl, hother, hcarries⟩ := ih hentry
    exact ⟨constant :: front, other, back, rfl, hother, by rwa [List.append_cons]⟩

/-- Each constant with a valid name has an entry. -/
theorem Lists.exists_entry (h : Lists valid textBacked earlier rest entries) {front back : List Constant}
    (hsplit : rest = front ++ constant :: back) (hname : valid constant.name = true) :
    ∃ entry ∈ entries, Carries textBacked (earlier ++ front) constant entry.argument := by
  induction h generalizing front with
  | nil => simp at hsplit
  | @listed earlier rest first argument entries hfirst hargument _ ih =>
    rcases List.cons_eq_append_iff.1 hsplit with ⟨rfl, heq⟩ | ⟨front, rfl, heq⟩
    · obtain ⟨rfl, rfl⟩ := List.cons.inj heq
      exact ⟨_, List.mem_cons_self, by rwa [List.append_nil]⟩
    · obtain ⟨entry, hentry, hcarries⟩ := ih heq
      exact ⟨entry, List.mem_cons_of_mem _ hentry, by rwa [List.append_cons]⟩
  | @dropped earlier rest first entries hfirst _ ih =>
    rcases List.cons_eq_append_iff.1 hsplit with ⟨rfl, heq⟩ | ⟨front, rfl, heq⟩
    · obtain ⟨rfl, rfl⟩ := List.cons.inj heq
      rw [hname] at hfirst
      cases hfirst
    · obtain ⟨entry, hentry, hcarries⟩ := ih heq
      exact ⟨entry, hentry, by rwa [List.append_cons]⟩

/-! ## Bounds -/

/-- Counting does not go below the smallest integer. -/
theorem CountsTo.le (h : CountsTo constants n) : -2 ^ 31 ≤ n := by
  cases h with
  | fromZero => omega
  | @fromInteger front back constant n _ hinteger _ =>
    obtain ⟨text, -, -, hlow, -⟩ := hinteger
    omega

/-- In an enum of integers a constant carries the decimal text of an integer: its own, which fits, or the one that
counting reaches. -/
theorem Carries.exists_integer (h : Carries false earlier constant argument) :
    ∃ n : Int, argument = toString n ∧ -2 ^ 31 ≤ n ∧
      (n ≤ 2 ^ 31 - 1 ∨ constant.value = none ∧ CountsTo (earlier ++ [constant]) n) := by
  cases h with
  | number h => exact ⟨_, rfl, h.le, .inr ⟨rfl, h⟩⟩
  | integer h => exact ⟨_, rfl, h.2.1, .inl h.2.2⟩

/-- A constant without a value carries the number that counting reaches. -/
theorem Carries.eq_of_countsTo (h : Carries false earlier constant argument) (hvalue : constant.value = none)
    (hcounts : CountsTo (earlier ++ [constant]) n) : argument = toString n := by
  cases h with
  | number h => rw [h.unique hcounts]
  | integer => cases hvalue

/-- The entries of an enum of integers carry integers of 32 bits exactly when counting stays in their range. -/
theorem Lists.fitsInt_iff (h : Lists valid false [] constants entries) :
    (∀ entry ∈ entries, ∃ n : Int, entry.argument = toString n ∧ -2 ^ 31 ≤ n ∧ n ≤ 2 ^ 31 - 1) ↔
      ∀ (front : List Constant) (constant : Constant) (back : List Constant) (n : Int),
        constants = front ++ constant :: back → constant.value = none → valid constant.name = true →
        CountsTo (front ++ [constant]) n → n ≤ 2 ^ 31 - 1 := by
  constructor
  · intro hfits front constant back n hsplit hvalue hname hcounts
    obtain ⟨entry, hentry, hcarries⟩ := h.exists_entry hsplit hname
    obtain ⟨m, hargument, -, hm⟩ := hfits entry hentry
    have hsame : toString m = toString n := hargument.symm.trans (hcarries.eq_of_countsTo hvalue hcounts)
    exact Int.repr_injective hsame ▸ hm
  · intro hbound entry hentry
    obtain ⟨front, constant, back, hsplit, hname, hcarries⟩ := h.exists_constant hentry
    obtain ⟨n, hargument, hlow, hfits | ⟨hvalue, hcounts⟩⟩ := hcarries.exists_integer
    · exact ⟨n, hargument, hlow, hfits⟩
    · exact ⟨n, hargument, hlow, hbound front constant back n hsplit hvalue hname hcounts⟩

end

/-- What an enum is printed with comes from its constants. -/
theorem Writer.eq_enumBody_of_typeDecl {writer : Writer} {bean : Bean} {decl : Java.EnumDecl}
    {body : Java.EnumBody} (hdecl : writer.typeDecl bean = .ofEnum decl) (hbody : decl.body = some body) :
    body = enumBody bean.constants := by
  have hdecl' : writer.enumDecl bean = decl := by
    unfold typeDecl at hdecl
    split at hdecl
    · exact Java.TypeDecl.ofEnum.inj hdecl
    · cases hdecl
    · cases hdecl
  rw [← hdecl', enumDecl, Option.ite_none_left_eq_some] at hbody
  exact (Option.some.inj hbody.2).symm

/-- **When the numbers of an enum fit.** In an enum that is printed with integers each constant carries the decimal
text of an integer that is not below the smallest one of 32 bits; and none is above the largest one exactly when
counting does not pass it at a constant without a value that is listed. -/
theorem fitsInt_arguments_iff {writer : Writer} {bean : Bean} {decl : Java.EnumDecl} {body : Java.EnumBody}
    (hdecl : writer.typeDecl bean = .ofEnum decl) (hbody : decl.body = some body)
    (hintegers : body.textBacked = false) :
    (∀ entry ∈ body.entries, ∃ n : Int, entry.argument = toString n ∧ -2 ^ 31 ≤ n) ∧
    ((∀ entry ∈ body.entries, ∃ n : Int, entry.argument = toString n ∧ -2 ^ 31 ≤ n ∧ n ≤ 2 ^ 31 - 1) ↔
      ∀ (front : List Constant) (constant : Constant) (back : List Constant) (n : Int),
        bean.constants = front ++ constant :: back → constant.value = none → isIdentifier constant.name = true →
        CountsTo (front ++ [constant]) n → n ≤ 2 ^ 31 - 1) := by
  have hlists : Lists isIdentifier false [] bean.constants body.entries := by
    have hall := lists_enumBody bean.constants
    rwa [← Writer.eq_enumBody_of_typeDecl hdecl hbody, hintegers] at hall
  refine ⟨fun entry hentry => ?_, hlists.fitsInt_iff⟩
  obtain ⟨front, constant, back, -, -, hcarries⟩ := hlists.exists_constant hentry
  obtain ⟨n, hargument, hlow, -⟩ := hcarries.exists_integer
  exact ⟨n, hargument, hlow⟩

/-- An enum whose constants count up to the integer behind the one given. -/
def countedEnum (text : String) : Bean where
  name := "E"
  kind := .javaEnum
  constants := [⟨"A", some text⟩, ⟨"B", none⟩]

theorem textBacked_countedEnum {text : String} {n : Int} (h : enumInteger? text = some n) :
    (enumBody (countedEnum text).constants).textBacked = false := by
  rw [textBacked_enumBody]
  simp [isTextBacked, countedEnum, h]

theorem countsTo_countedEnum {text : String} {n : Int} (h : enumInteger? text = some n) :
    CountsTo (countedEnum text).constants (n + 1) := by
  have hfirst : CountsTo [⟨"A", some text⟩] n := .concat_integer [] ⟨text, rfl, enumInteger?_eq_some_iff.1 h⟩
  exact hfirst.concat_none rfl

/-- The largest integer can still be reached. -/
theorem fitsInt_arguments_countedEnum :
    ∃ decl, (Writer.of .empty default).typeDecl (countedEnum "2147483646") = .ofEnum decl ∧
      decl.body = some (enumBody (countedEnum "2147483646").constants) ∧
      (enumBody (countedEnum "2147483646").constants).textBacked = false ∧
      ∀ entry ∈ (enumBody (countedEnum "2147483646").constants).entries,
        ∃ n : Int, entry.argument = toString n ∧ -2 ^ 31 ≤ n ∧ n ≤ 2 ^ 31 - 1 := by
  have hkind : (countedEnum "2147483646").kind = .javaEnum := rfl
  have hne : (countedEnum "2147483646").constants ≠ [] := List.cons_ne_nil _ _
  have hinteger : enumInteger? "2147483646" = some 2147483646 := by cbv
  have hbacked := textBacked_countedEnum hinteger
  obtain ⟨decl, hdecl, hbody⟩ := (Writer.of .empty default).typeDecl_of_constants hkind hne
  refine ⟨decl, hdecl, hbody, hbacked, (fitsInt_arguments_iff hdecl hbody hbacked).2.2 ?_⟩
  rintro front constant back n hsplit hvalue - hcounts
  -- the constant without a value is the second one
  rcases List.cons_eq_append_iff.1 hsplit with ⟨rfl, heq⟩ | ⟨others, rfl, heq⟩
  · obtain rfl := (List.cons.inj heq).1
    cases hvalue
  · rcases List.cons_eq_append_iff.1 heq with ⟨rfl, heq⟩ | ⟨more, rfl, heq⟩
    · obtain rfl := (List.cons.inj heq).1
      obtain rfl : 2147483646 + 1 = n := (countsTo_countedEnum hinteger).unique hcounts
      decide
    · simp at heq

/-- Behind the largest integer counting goes on. -/
theorem not_forall_fitsInt_arguments :
    ¬ ∀ (writer : Writer) (bean : Bean) (decl : Java.EnumDecl) (body : Java.EnumBody),
      writer.typeDecl bean = .ofEnum decl → decl.body = some body → body.textBacked = false →
      ∀ entry ∈ body.entries, ∃ n : Int, entry.argument = toString n ∧ -2 ^ 31 ≤ n ∧ n ≤ 2 ^ 31 - 1 := by
  intro h
  have hkind : (countedEnum "2147483647").kind = .javaEnum := rfl
  have hne : (countedEnum "2147483647").constants ≠ [] := List.cons_ne_nil _ _
  have hinteger : enumInteger? "2147483647" = some 2147483647 := by cbv
  have hbacked := textBacked_countedEnum hinteger
  obtain ⟨decl, hdecl, hbody⟩ := (Writer.of .empty default).typeDecl_of_constants hkind hne
  have hlists := lists_enumBody (countedEnum "2147483647").constants
  rw [hbacked] at hlists
  have hsplit : (countedEnum "2147483647").constants =
      [⟨"A", some "2147483647"⟩] ++ ⟨"B", none⟩ :: [] := rfl
  have hvalid : isIdentifier "B" = true := by decide
  obtain ⟨entry, hentry, hcarries⟩ := hlists.exists_entry hsplit hvalid
  obtain ⟨n, hargument, -, hn⟩ := h _ _ _ _ hdecl hbody hbacked entry hentry
  have hsame : toString (2147483647 + 1 : Int) = toString n :=
    (hcarries.eq_of_countsTo rfl (countsTo_countedEnum hinteger)).symm.trans hargument
  have hnumber : (2147483647 + 1 : Int) = n := Int.repr_injective hsame
  omega

end BeanGen

import BeanGen.Bean.OfSource
import BeanGen.Proofs.Script.Roundtrip
import BeanGen.Proofs.TypeText.Arrays
import BeanGen.Proofs.TypeText.Slashes

/-!
# What block comments change

A block comment can stand between any two tokens, and in most places it changes nothing. It is seen in four
places. In front of the type of a property it is taken for the type, which then is `Object`. Inside a type it
is part of the text that is mapped. Behind the type of a property it hides the pragma that ends the line. And
behind the sign of a value it is part of the value. So the declared names, their bases and the names of their
constants are always as they are without the comments, and the rest is if and only if no comment in one of
the four places makes a difference (`typed_parse_iff`). Comments in all other places change nothing
(`Script.typed_parse_of_seenGaps`).
-/

namespace BeanGen

open Text (hasInfix trim)
open TypeText (javaTypeText)

/-! ## What is compared -/

namespace Source

/-- The member with its Java type in place of the type as written, and without its comment. -/
def Property.typed (property : Property) : Property :=
  { property with type := mappedType property, comment := none }

/-- The interface with Java types for those of its members. -/
def Interface.typed (decl : Interface) : Interface :=
  { decl with properties := decl.properties.map Property.typed }

/-- The class with Java types for those of its members. -/
def Class.typed (decl : Class) : Class :=
  { decl with properties := decl.properties.map Property.typed }

/-- The alias with the Java type that it stands for. -/
def Alias.typed (decl : Alias) : Alias :=
  { decl with target := some (javaTypeText true none decl.target) }

/-- The file with Java types in place of the types as written, and without the comments of members. -/
def File.typed (file : File) : File :=
  { file with
    interfaces := file.interfaces.map Interface.typed
    classes := file.classes.map Class.typed
    aliases := file.aliases.map Alias.typed }

/-- The interface without its members. -/
def Interface.heading (decl : Interface) : Interface :=
  { decl with properties := [] }

/-- The class without its members. -/
def Class.heading (decl : Class) : Class :=
  { decl with properties := [] }

/-- The enum without the values of its constants. -/
def Enum.heading (decl : Enum) : Enum :=
  { decl with members := decl.members.map fun member => { member with value := none } }

/-- The alias without what it stands for. -/
def Alias.heading (decl : Alias) : Alias :=
  { decl with target := none, properties := none }

/-- The names that the file declares, with the bases of interfaces and classes and the names of constants. -/
def File.headings (file : File) : File :=
  { file with
    interfaces := file.interfaces.map Interface.heading
    classes := file.classes.map Class.heading
    enums := file.enums.map Enum.heading
    aliases := file.aliases.map Alias.heading }

end Source

namespace Spaced

open Script (typeHint?)
open Written (Pragma)

/-! ## Where comments are seen -/

mutual

/-- The gaps inside a type. -/
def TypeForm.gaps : TypeForm → List Gap
  | .named _ => []
  | .predefined _ _ => []
  | .literal _ => []
  | .array item before inside => item.gaps ++ [before, inside]
  | .applied _ before inside args => before :: inside :: args.gaps
  | .union left before behind right => left.gaps ++ before :: behind :: right.gaps

/-- The gaps inside types and around the commas between them. -/
def TypeForms.gaps : TypeForms → List Gap
  | .one type behind => type.gaps ++ [behind]
  | .more type behind before types => type.gaps ++ behind :: before :: types.gaps

end

/-- Where a comment is seen in a property: in front of its type, inside it and behind it. -/
def Property.seenGaps (property : Property) : List Gap :=
  property.front :: (property.type.gaps ++ [property.back, property.behind])

/-- Where a comment is seen in a value: behind its sign. -/
def Value.seenGaps : Value → List Gap
  | .negative sign _ => [sign]
  | _ => []

/-- Where a comment is seen in a constant: in its value. -/
def Constant.seenGaps (constant : Constant) : List Gap :=
  (constant.value.map fun value => value.2.2.seenGaps).getD []

/-- Where a comment is seen in a declaration. -/
def Declaration.seenGaps : Declaration → List Gap
  | .ofInterface decl => decl.properties.flatMap Property.seenGaps
  | .ofClass decl => decl.properties.flatMap Property.seenGaps
  | .ofEnum decl => decl.constants.flatMap Constant.seenGaps
  | .ofAlias decl => decl.target.gaps

/-- The Java type of the type as it is written, with the comments in it. -/
def TypeForm.javaText (optional : Bool) (type : TypeForm) : String :=
  javaTypeText optional none (some (String.ofList type.printed))

/-- The type of the pragma, unless a comment is in front of it. -/
def Property.hint? (property : Property) : Option String :=
  if (Gap.comment? (property.back ++ property.behind)).isSome then none
  else property.pragma.map Pragma.text

/-- No comment makes a difference to the property. -/
structure Property.IsUnaffected (property : Property) : Prop where
  /-- What is taken for its type mentions no import. -/
  kept : hasInfix "import(".toList property.recorded = false
  /-- A pragma is the first comment behind the type. -/
  hint : property.pragma ≠ none → Gap.comment? (property.back ++ property.behind) = none
  /-- Without a pragma, comments in front of the type and inside it leave the Java type as it is. -/
  type : property.pragma = none →
    (if property.front.comment?.isSome then "Object" else property.type.javaText property.optional.isSome) =
      property.type.plain.javaText property.optional.isSome

/-- No comment makes a difference to the value. -/
def Value.IsUnaffected : Value → Prop
  | .negative sign _ => sign.comment? = none
  | _ => True

/-- No comment makes a difference to the declaration. -/
def Declaration.IsUnaffected : Declaration → Prop
  | .ofInterface decl => ∀ property ∈ decl.properties, property.IsUnaffected
  | .ofClass decl => ∀ property ∈ decl.properties, property.IsUnaffected
  | .ofEnum decl => ∀ constant ∈ decl.constants, ∀ value ∈ constant.value, value.2.2.IsUnaffected
  | .ofAlias decl => decl.target.javaText true = decl.target.plain.javaText true

/-! ## Gaps -/

section
variable {gap : Gap}

theorem Gap.comment?_plain (gap : Gap) : gap.plain.comment? = none := by
  induction gap with
  | nil => rfl
  | cons piece gap ih => cases piece <;> exact ih

/-- A gap without comments is as it was if there was none in it. -/
theorem Gap.plain_of_comment? (h : gap.comment? = none) : gap.plain = gap := by
  induction gap with
  | nil => rfl
  | cons piece gap ih =>
    cases piece with
    | space => exact congrArg (Piece.space :: ·) (ih h)
    | comment _ => cases h

/-- A gap reads the same without its comments if and only if there is none. -/
theorem Gap.text_plain_iff : gap.plain.text = gap.text ↔ gap.comment? = none := by
  refine ⟨fun h => ?_, fun h => by rw [Gap.plain_of_comment? h]⟩
  by_contra hcomment
  have hslash : '/' ∈ gap.text := by
    clear h
    induction gap with
    | nil => exact absurd rfl hcomment
    | cons piece gap ih =>
      cases piece with
      | space => exact List.mem_cons_of_mem _ (ih hcomment)
      | comment _ => exact List.mem_cons_self
  rw [← h] at hslash
  exact absurd (Written.eq_space_of_mem_plain hslash) (by decide)

end

/-! ## Types -/

mutual

/-- A type with no comment in it is as it was without comments. -/
theorem TypeForm.plain_of_gaps :
    ∀ type : TypeForm, (∀ gap ∈ type.gaps, gap.comment? = none) → type.plain = type
  | .named _, _ => rfl
  | .predefined _ _, _ => rfl
  | .literal _, _ => rfl
  | .array item before inside, h => by
    rw [TypeForm.gaps, List.forall_mem_append] at h
    rw [TypeForm.plain, item.plain_of_gaps h.1, Gap.plain_of_comment? (h.2 before (by simp)),
      Gap.plain_of_comment? (h.2 inside (by simp))]
  | .applied name before inside args, h => by
    rw [TypeForm.gaps, List.forall_mem_cons, List.forall_mem_cons] at h
    rw [TypeForm.plain, Gap.plain_of_comment? h.1, Gap.plain_of_comment? h.2.1, args.plain_of_gaps h.2.2]
  | .union left before behind right, h => by
    rw [TypeForm.gaps, List.forall_mem_append, List.forall_mem_cons, List.forall_mem_cons] at h
    rw [TypeForm.plain, left.plain_of_gaps h.1, Gap.plain_of_comment? h.2.1, Gap.plain_of_comment? h.2.2.1,
      right.plain_of_gaps h.2.2.2]

theorem TypeForms.plain_of_gaps : ∀ types : TypeForms,
    (∀ gap ∈ types.gaps, gap.comment? = none) → types.plain = types
  | .one type behind, h => by
    rw [TypeForms.gaps, List.forall_mem_append] at h
    rw [TypeForms.plain, type.plain_of_gaps h.1, Gap.plain_of_comment? (h.2 behind (by simp))]
  | .more type behind before types, h => by
    rw [TypeForms.gaps, List.forall_mem_append, List.forall_mem_cons, List.forall_mem_cons] at h
    rw [TypeForms.plain, type.plain_of_gaps h.1, Gap.plain_of_comment? h.2.1, Gap.plain_of_comment? h.2.2.1,
      types.plain_of_gaps h.2.2.2]

end

/-- White space in the text of a type does not matter. -/
theorem TypeForm.javaTypeText_collapse (optional : Bool) (type : TypeForm) :
    javaTypeText optional none (some (String.ofList (Text.collapse type.printed))) = type.javaText optional := by
  unfold javaText
  rw [TypeText.javaTypeText_ofList, TypeText.javaTypeText_ofList,
    TypeText.javaType_of_collapse_eq (Text.collapse_collapse _)]

/-! ## Properties -/

section
variable (property : Property)

/-- A block comment asks for no type. -/
theorem typeHint?_comment (comment : Comment) : typeHint? (String.ofList comment.text) = none := by
  have hchars : (String.ofList comment.text).toList = comment.text := String.toList_ofList
  rw [typeHint?, hchars]
  exact if_neg Bool.false_ne_true

/-- A comment behind the type hides the pragma. -/
theorem Property.typeHint?_note? :
    (property.note?.map String.ofList).bind typeHint? = property.hint? := by
  unfold note? hint?
  cases hcomment : Gap.comment? (property.back ++ property.behind) with
  | some text =>
    obtain ⟨comment, rfl⟩ := Script.exists_comment_of_comment? hcomment
    exact typeHint?_comment comment
  | none =>
    cases property.pragma with
    | none => rfl
    | some pragma => exact pragma.typeHint?_printed

/-- A comment in front of the type makes it an object. -/
theorem Property.javaTypeText_recorded (optional : Bool) :
    javaTypeText optional none (some (String.ofList property.recorded)) =
      if property.front.comment?.isSome then "Object" else property.type.javaText optional := by
  unfold recorded TypeForm.javaText
  rw [TypeText.javaTypeText_ofList, TypeText.javaTypeText_ofList,
    TypeText.javaType_of_collapse_eq (Text.collapse_trim _)]
  cases hcomment : property.front.comment? with
  | none => rfl
  | some text =>
    obtain ⟨comment, rfl⟩ := Script.exists_comment_of_comment? hcomment
    rw [Option.getD_some, TypeText.javaType_slashes rfl (Written.getLast?_comment comment)]
    exact Java.TypeExpr.print_object

/-- What is found of a property that mentions no import. -/
theorem Property.typed_source? (h : hasInfix "import(".toList property.recorded = false) :
    property.source?.map Source.Property.typed = some
      { name := property.name.text
        type := javaTypeText property.optional.isSome property.hint?
          (some (String.ofList property.recorded))
        optional := property.optional.isSome
        typeHint := property.hint? } := by
  rw [source?, h, if_neg Bool.false_ne_true, typeHint?_note?]
  rfl

/-- Without comments no property mentions an import. -/
theorem Property.hasInfix_recorded_plain : hasInfix "import(".toList property.plain.recorded = false := by
  have hfront : Gap.comment? property.plain.front = none := Gap.comment?_plain _
  refine Written.hasInfix_import_of_forall fun c hc => Written.isTypePart_plain property.type c ?_
  rw [recorded, hfront] at hc
  obtain ⟨front, back, heq, -, -⟩ := Text.exists_trim property.type.plain.printed
  rw [heq]
  exact List.mem_append_left _ (List.mem_append_right _ hc)

/-- Without comments nothing hides a pragma. -/
theorem Property.hint?_plain : property.plain.hint? = property.pragma.map Pragma.text := by
  have hbehind : Gap.comment? (property.plain.back ++ property.plain.behind) = none := by
    rw [Script.comment?_append]
    exact congrArg₂ Option.or (Gap.comment?_plain _) (Gap.comment?_plain _)
  rw [hint?, hbehind]
  rfl

/-- The pragma is kept if and only if no comment is in front of it. -/
theorem Property.hint?_eq_iff :
    property.hint? = property.pragma.map Pragma.text ↔
      (property.pragma ≠ none → Gap.comment? (property.back ++ property.behind) = none) := by
  unfold hint?
  cases property.pragma with
  | none => simp
  | some pragma =>
    cases Gap.comment? (property.back ++ property.behind) <;> simp

/-- A pragma decides the type. -/
theorem javaTypeText_pragma (optional : Bool) (pragma : Pragma) (raw : Option String) :
    javaTypeText optional (some pragma.text) raw = pragma.text := by
  have hblank : Text.isBlankText pragma.text = false := by
    rw [← Bool.not_eq_true]
    intro hblank
    refine pragma.text_ne_nil ?_
    rw [← pragma.trim_text, trim, Text.trimStart_of_allBlank hblank]
    rfl
  have htext : Text.nonBlank? pragma.text = some pragma.text := by
    rw [Text.nonBlank?, hblank, if_neg Bool.false_ne_true, Text.trimmed, pragma.trim_text,
      String.ofList_toList]
  rw [javaTypeText, Option.bind_some, htext]

/-- With and without its comments a property is found alike, up to the text of its type, if and only if none
of them makes a difference. -/
theorem Property.typed_source?_iff :
    property.source?.map Source.Property.typed = property.plain.source?.map Source.Property.typed ↔
      property.IsUnaffected := by
  have hplain := property.plain.typed_source? property.hasInfix_recorded_plain
  have hoptional : property.plain.optional.isSome = property.optional.isSome := Option.isSome_map
  rw [hplain, hint?_plain, hoptional]
  cases himport : hasInfix "import(".toList property.recorded with
  | true =>
    rw [source?, himport, if_pos rfl]
    refine ⟨fun h => (Option.some_ne_none _ h.symm).elim, fun h => ?_⟩
    exact absurd (himport.symm.trans h.kept) (by decide)
  | false =>
    have htype := property.javaTypeText_recorded property.optional.isSome
    have htypePlain := property.plain.javaTypeText_recorded property.optional.isSome
    have hfront : property.plain.front.comment? = none := Gap.comment?_plain _
    rw [hfront, Option.isSome_none, if_neg Bool.false_ne_true] at htypePlain
    rw [property.typed_source? himport]
    constructor
    · intro h
      injection h with h
      injection h with hname htypes hoptionals hvisibility hcomment hhint hmembers
      refine ⟨himport, property.hint?_eq_iff.1 hhint, fun hnone => ?_⟩
      rw [hhint, hnone, Option.map_none, htype, htypePlain] at htypes
      exact htypes
    · intro h
      rw [property.hint?_eq_iff.2 h.hint]
      cases hpragma : property.pragma with
      | none => rw [Option.map_none, htype, htypePlain, h.type hpragma]; rfl
      | some pragma => rw [Option.map_some, javaTypeText_pragma, javaTypeText_pragma]; rfl

/-- Comments in other places make no difference to a property. -/
theorem Property.isUnaffected_of_seenGaps (h : ∀ gap ∈ property.seenGaps, gap.comment? = none) :
    property.IsUnaffected := by
  rw [seenGaps, List.forall_mem_cons, List.forall_mem_append] at h
  obtain ⟨hfront, htype, hbehind⟩ := h
  have hplain := property.type.plain_of_gaps htype
  refine ⟨?_, fun _ => ?_, fun _ => ?_⟩
  · have hrecorded : property.recorded = property.plain.recorded := by
      have hfrontPlain : property.plain.front.comment? = none := Gap.comment?_plain _
      have htypePlain : property.plain.type = property.type := hplain
      rw [recorded, recorded, hfront, hfrontPlain, htypePlain]
    rw [hrecorded]
    exact property.hasInfix_recorded_plain
  · rw [Script.comment?_append, hbehind property.back (by simp), hbehind property.behind (by simp)]
    rfl
  · rw [hfront, hplain]
    rfl

end

/-! ## Declarations -/

/-- Properties are found alike with and without their comments if and only if none of them makes a
difference. -/
theorem map_typed_filterMap_iff (properties : List Property) :
    (properties.filterMap Property.source?).map Source.Property.typed =
        ((properties.map Property.plain).filterMap Property.source?).map Source.Property.typed ↔
      ∀ property ∈ properties, property.IsUnaffected := by
  -- without comments every property is found, so none can be missing with them
  have hsome : ∀ property : Property, ∃ found, property.plain.source?.map Source.Property.typed = some found :=
    fun property => ⟨_, property.plain.typed_source? property.hasInfix_recorded_plain⟩
  choose found hfound using hsome
  have hplain : ((properties.map Property.plain).filterMap Property.source?).map Source.Property.typed =
      properties.map found := by
    rw [List.map_filterMap, List.filterMap_map]
    exact List.filterMap_eq_map_iff_forall_eq_some.2 fun property _ => hfound property
  rw [hplain, List.map_filterMap, List.filterMap_eq_map_iff_forall_eq_some]
  refine forall₂_congr fun property _ => ?_
  rw [← hfound property, property.typed_source?_iff]

/-- A value is found alike if and only if no comment is behind its sign. -/
theorem Value.source_plain_iff (value : Value) : value.source = value.plain.source ↔ value.IsUnaffected := by
  cases value with
  | natural | text => exact iff_of_true rfl trivial
  | negative sign n =>
    show String.ofList ('-' :: (sign.text ++ Nat.toDigits 10 n)) =
      String.ofList ('-' :: (sign.plain.text ++ Nat.toDigits 10 n)) ↔ sign.comment? = none
    rw [String.ofList_inj, List.cons_inj_right, List.append_left_inj, eq_comm, Gap.text_plain_iff]

/-- Constants are found alike if and only if no comment makes a difference to one of their values. -/
theorem map_source_plain_iff (constants : List Constant) :
    constants.map Constant.source = (constants.map Constant.plain).map Constant.source ↔
      ∀ constant ∈ constants, ∀ value ∈ constant.value, value.2.2.IsUnaffected := by
  rw [List.map_map, List.map_inj_left]
  refine forall₂_congr fun constant _ => ?_
  obtain ⟨indent, name, value, back, behind⟩ := constant
  cases value with
  | none => simp [Constant.source, Constant.plain]
  | some value =>
    simp [Constant.source, Constant.plain, value.2.2.source_plain_iff]

end Spaced

namespace Script

/-- The declaration with Java types in place of the types as written. -/
def Declaration.typed : Declaration → Declaration
  | .ofInterface decl => .ofInterface decl.typed
  | .ofClass decl => .ofClass decl.typed
  | .ofEnum decl => .ofEnum decl
  | .ofAlias decl => .ofAlias decl.typed

/-- The declaration without members, values and targets. -/
def Declaration.heading : Declaration → Declaration
  | .ofInterface decl => .ofInterface decl.heading
  | .ofClass decl => .ofClass decl.heading
  | .ofEnum decl => .ofEnum decl.heading
  | .ofAlias decl => .ofAlias decl.heading

end Script

namespace Spaced

theorem clauseNames_plain (clause : Option Clause) : clauseNames (clause.map Clause.plain) = clauseNames clause := by
  cases clause with
  | none => rfl
  | some clause =>
    have hnames : clause.plain.names = clause.names := by
      unfold Clause.names Clause.plain
      rw [List.map_map]
      rfl
    exact congrArg (List.map Written.Name.text) hnames

theorem baseName_plain (base : Option Base) :
    (base.map Base.plain).map (fun base => base.name.text) = base.map fun base => base.name.text := by
  cases base <;> rfl

section
variable (decl : Declaration)

/-- What a declaration declares does not depend on its comments. -/
theorem Declaration.heading_source_plain : decl.plain.source.heading = decl.source.heading := by
  cases decl with
  | ofInterface decl =>
    exact congrArg (fun bases => Script.Declaration.ofInterface { name := decl.name.text, bases := bases })
      (clauseNames_plain decl.bases)
  | ofClass decl =>
    exact congrArg₂ (fun base implements => Script.Declaration.ofClass
      { name := decl.name.text, base := base, implements := implements })
      (baseName_plain decl.base) (clauseNames_plain decl.implements)
  | ofEnum decl =>
    have hnames : ((decl.constants.map Constant.plain).map Constant.source).map
          (fun member : Source.EnumMember => { member with value := none }) =
        (decl.constants.map Constant.source).map fun member => { member with value := none } := by
      rw [List.map_map, List.map_map, List.map_map]
      rfl
    exact congrArg (fun members => Script.Declaration.ofEnum { name := decl.name.text, members := members }) hnames
  | ofAlias => rfl

/-- A declaration is found alike with and without its comments, up to the texts of types, if and only if none of
them makes a difference. -/
theorem Declaration.typed_source_plain_iff :
    decl.source.typed = decl.plain.source.typed ↔ decl.IsUnaffected := by
  cases decl with
  | ofInterface decl =>
    simp only [source, plain, Script.Declaration.typed, Source.Interface.typed, Interface.source, Interface.plain,
      clauseNames_plain, Script.Declaration.ofInterface.injEq, Source.Interface.mk.injEq, true_and, IsUnaffected,
      map_typed_filterMap_iff]
  | ofClass decl =>
    simp only [source, plain, Script.Declaration.typed, Source.Class.typed, Class.source, Class.plain,
      baseName_plain, clauseNames_plain, Script.Declaration.ofClass.injEq, Source.Class.mk.injEq, true_and,
      IsUnaffected, map_typed_filterMap_iff]
  | ofEnum decl =>
    simp only [source, plain, Script.Declaration.typed, Enum.source, Enum.plain,
      Script.Declaration.ofEnum.injEq, Source.Enum.mk.injEq, true_and, IsUnaffected, map_source_plain_iff]
  | ofAlias decl =>
    simp only [source, plain, Script.Declaration.typed, Source.Alias.typed, Alias.source, Alias.plain,
      Script.Declaration.ofAlias.injEq, Source.Alias.mk.injEq, true_and, and_true, IsUnaffected,
      Option.some.injEq, TypeForm.javaTypeText_collapse]

/-- Comments in other places make no difference to a declaration. -/
theorem Declaration.isUnaffected_of_seenGaps (h : ∀ gap ∈ decl.seenGaps, gap.comment? = none) :
    decl.IsUnaffected := by
  cases decl with
  | ofInterface decl | ofClass decl =>
    exact fun property hproperty => property.isUnaffected_of_seenGaps fun gap hgap =>
      h gap (List.mem_flatMap.2 ⟨property, hproperty, hgap⟩)
  | ofEnum decl =>
    intro constant hconstant value hvalue
    have hgaps : ∀ gap ∈ value.2.2.seenGaps, gap.comment? = none := fun gap hgap =>
      h gap (List.mem_flatMap.2 ⟨constant, hconstant, by rwa [Constant.seenGaps, hvalue]⟩)
    cases hform : value.2.2 with
    | natural | text => trivial
    | negative sign n =>
      rw [hform] at hgaps
      exact hgaps sign (List.mem_singleton_self _)
  | ofAlias decl =>
    exact congrArg (TypeForm.javaText true) (decl.target.plain_of_gaps h).symm

end

end Spaced

/-! ## Files -/

namespace Script

/-- The file of declarations, each kind on its own. -/
def fileOf (path : String) (decls : List Declaration) : Source.File where
  path := path
  interfaces := decls.filterMap Declaration.interface?
  classes := decls.filterMap Declaration.class?
  enums := decls.filterMap Declaration.enum?
  aliases := decls.filterMap Declaration.alias?

/-- The file of a script with comments. -/
theorem parse_spaced (path : String) (statements : List Spaced.Statement) :
    parse path (Spaced.script statements) = fileOf path (statements.map fun statement => statement.decl.source) := by
  have hdeclared := foldl_declared (statements.map fun statement => statement.decl.source) { path := path }
  rw [List.map_map] at hdeclared
  rw [parse, items_spaced]
  exact hdeclared

section
variable (path : String) (decls : List Declaration)

/-- Changed declarations are in the file as they are changed, if none changes its kind. -/
theorem fileOf_map {f : Declaration → Declaration} (onInterface : Source.Interface → Source.Interface)
    (onClass : Source.Class → Source.Class) (onEnum : Source.Enum → Source.Enum)
    (onAlias : Source.Alias → Source.Alias)
    (hinterface : ∀ decl, f (.ofInterface decl) = .ofInterface (onInterface decl))
    (hclass : ∀ decl, f (.ofClass decl) = .ofClass (onClass decl))
    (henum : ∀ decl, f (.ofEnum decl) = .ofEnum (onEnum decl))
    (halias : ∀ decl, f (.ofAlias decl) = .ofAlias (onAlias decl)) :
    fileOf path (decls.map f) =
      { path := path
        interfaces := (fileOf path decls).interfaces.map onInterface
        classes := (fileOf path decls).classes.map onClass
        enums := (fileOf path decls).enums.map onEnum
        aliases := (fileOf path decls).aliases.map onAlias } := by
  unfold fileOf
  dsimp only
  rw [List.filterMap_map, List.filterMap_map, List.filterMap_map, List.filterMap_map, List.map_filterMap,
    List.map_filterMap, List.map_filterMap, List.map_filterMap]
  congr 1
  all_goals
    refine List.filterMap_congr fun decl _ => ?_
    rw [Function.comp_apply]
    cases decl with
    | ofInterface decl => rw [hinterface]; rfl
    | ofClass decl => rw [hclass]; rfl
    | ofEnum decl => rw [henum]; rfl
    | ofAlias decl => rw [halias]; rfl

theorem typed_fileOf : (fileOf path decls).typed = fileOf path (decls.map Declaration.typed) := by
  have henums : (fileOf path decls).enums.map id = (fileOf path decls).enums := List.map_id _
  rw [fileOf_map path decls Source.Interface.typed Source.Class.typed id Source.Alias.typed (fun _ => rfl)
    (fun _ => rfl) (fun _ => rfl) fun _ => rfl, henums]
  rfl

theorem headings_fileOf : (fileOf path decls).headings = fileOf path (decls.map Declaration.heading) := by
  rw [fileOf_map path decls Source.Interface.heading Source.Class.heading Source.Enum.heading Source.Alias.heading
    (fun _ => rfl) (fun _ => rfl) (fun _ => rfl) fun _ => rfl]
  rfl

end

/-- Two declarations are of one kind. -/
inductive Declaration.SameKind : Declaration → Declaration → Prop
  | ofInterface (decl decl' : Source.Interface) : SameKind (.ofInterface decl) (.ofInterface decl')
  | ofClass (decl decl' : Source.Class) : SameKind (.ofClass decl) (.ofClass decl')
  | ofEnum (decl decl' : Source.Enum) : SameKind (.ofEnum decl) (.ofEnum decl')
  | ofAlias (decl decl' : Source.Alias) : SameKind (.ofAlias decl) (.ofAlias decl')

/-- Declarations of the same kinds make the same file if and only if they are the same. -/
theorem fileOf_eq_iff {α : Type} {f g : α → Declaration} (h : ∀ a, (f a).SameKind (g a)) (path : String)
    (entries : List α) :
    fileOf path (entries.map f) = fileOf path (entries.map g) ↔ ∀ a ∈ entries, f a = g a := by
  induction entries with
  | nil => simp
  | cons a entries ih =>
    have hkind := h a
    rw [List.forall_mem_cons, ← ih, List.map_cons, List.map_cons]
    generalize f a = decl at hkind ⊢
    generalize g a = decl' at hkind ⊢
    cases hkind <;>
      simp only [fileOf, List.filterMap_cons, Declaration.interface?, Declaration.class?, Declaration.enum?,
        Declaration.alias?, Source.File.mk.injEq, List.cons.injEq, Declaration.ofInterface.injEq,
        Declaration.ofClass.injEq, Declaration.ofEnum.injEq, Declaration.ofAlias.injEq, true_and] <;>
      tauto

/-- A script with comments is read like the script without them, up to the texts of types, if and only if none of
its comments makes a difference. -/
theorem typed_parse_spaced_iff (path : String) (statements : List Spaced.Statement) :
    (parse path (Spaced.script statements)).typed =
        (parse path (Spaced.script (statements.map Spaced.Statement.plain))).typed ↔
      ∀ statement ∈ statements, statement.decl.IsUnaffected := by
  have hkind : ∀ statement : Spaced.Statement,
      statement.decl.source.typed.SameKind statement.decl.plain.source.typed := by
    intro statement
    cases statement.decl <;> constructor
  have hdecl : ∀ statement : Spaced.Statement, statement.plain.decl = statement.decl.plain := fun _ => rfl
  rw [parse_spaced, parse_spaced, typed_fileOf, typed_fileOf]
  simp only [List.map_map, Function.comp_def, hdecl]
  rw [fileOf_eq_iff hkind]
  exact forall₂_congr fun statement _ => statement.decl.typed_source_plain_iff

/-- Comments in other places than those in which they are seen change nothing. -/
theorem typed_parse_of_seenGaps (path : String) {statements : List Spaced.Statement}
    (h : ∀ statement ∈ statements, ∀ gap ∈ statement.decl.seenGaps, gap.comment? = none) :
    (parse path (Spaced.script statements)).typed =
      (parse path (Spaced.script (statements.map Spaced.Statement.plain))).typed :=
  (typed_parse_spaced_iff path statements).2 fun statement hstatement =>
    statement.decl.isUnaffected_of_seenGaps (h statement hstatement)

/-- A script with comments declares the names that the script without them declares. -/
theorem headings_parse_spaced (path : String) (statements : List Spaced.Statement) :
    (parse path (Spaced.script (statements.map Spaced.Statement.plain))).headings =
      (parse path (Spaced.script statements)).headings := by
  have hdecl : ∀ statement : Spaced.Statement, statement.plain.decl = statement.decl.plain := fun _ => rfl
  rw [parse_spaced, parse_spaced, headings_fileOf, headings_fileOf]
  simp only [List.map_map, Function.comp_def, hdecl, Spaced.Declaration.heading_source_plain]

end Script

/-- The comment that holds a `c`. -/
def Spaced.shortComment : Spaced.Comment where
  chars := [' ', 'c', ' ']
  closed := fun h => absurd (h.subset List.mem_cons_self) (by decide)
  valid := by decide

theorem Written.string_mem_predefinedTypes : "string" ∈ predefinedTypes := by decide

/-- A property with a comment in front of its type. -/
def Spaced.commentedProperty : Spaced.Property where
  indent := [.space, .space]
  name := ⟨"x", by decide, by decide⟩
  front := [.space, .comment Spaced.shortComment, .space]
  type := .predefined "string" Written.string_mem_predefinedTypes

/-- An interface with this property. -/
def Spaced.commentedStatement : Spaced.Statement where
  decl := .ofInterface
    { name := ⟨"A", by decide, by decide⟩
      braces := { before := [.space] }
      properties := [Spaced.commentedProperty] }
  behind := ⟨[.space], List.mem_singleton_self _⟩

example :
    Spaced.script [Spaced.commentedStatement] = "interface A \x7b\n  x: /* c */ string;\n\x7d\n" := by
  decide

end BeanGen

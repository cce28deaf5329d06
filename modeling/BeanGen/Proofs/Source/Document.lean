import BeanGen.Source.Document

/-!
# Reading the document back

The document of the declarations is written so that an absent key is a missing value. The only values
that are left out though they are there are empty texts: of a member's visibility, its comment and its
hint. Members of an object type are written even if there are none, so that an object type without
members is still one when it is read (`Property.ofJson_toJson`). So a document is read as the
declarations it was written for, with the empty texts missing (`Files.ofJson_toJson`).
-/

namespace BeanGen.Source

/-! ## Empty texts -/

/-- A text, unless it is empty. -/
def nonEmpty (text : Option String) : Option String :=
  text.filter (· != "")

/-- A missing text counts as empty, and so does an empty one. -/
theorem getD_nonEmpty (text : Option String) : (nonEmpty text).getD "" = text.getD "" := by
  cases text with
  | none => rfl
  | some s =>
    unfold nonEmpty
    by_cases h : s = ""
    · rw [h]
      rfl
    · rw [Option.filter_some, if_pos (by simpa using h)]

/-- What takes an empty text for a missing one does not see that it is missing. -/
theorem bind_nonEmpty {α : Type} {f : String → Option α} (h : f "" = none) (text : Option String) :
    (nonEmpty text).bind f = text.bind f := by
  cases text with
  | none => rfl
  | some s =>
    unfold nonEmpty
    by_cases hempty : s = ""
    · rw [hempty, Option.bind_some, h]
      rfl
    · rw [Option.filter_some, if_pos (by simpa using hempty)]

/-- A member whose empty texts are missing, at any depth. -/
def Property.withoutEmpty (property : Property) : Property where
  name := property.name
  type := property.type
  optional := property.optional
  visibility := nonEmpty property.visibility
  comment := nonEmpty property.comment
  typeHint := nonEmpty property.typeHint
  members := match property with
    | ⟨_, _, _, _, _, _, some members⟩ => some (members.map Property.withoutEmpty)
    | ⟨_, _, _, _, _, _, none⟩ => none

/-- An interface in whose members empty texts are missing. -/
def Interface.withoutEmpty (decl : Interface) : Interface :=
  { decl with properties := decl.properties.map Property.withoutEmpty }

/-- A class in whose members empty texts are missing. -/
def Class.withoutEmpty (decl : Class) : Class :=
  { decl with properties := decl.properties.map Property.withoutEmpty }

/-- An alias in whose members empty texts are missing. -/
def Alias.withoutEmpty (decl : Alias) : Alias :=
  { decl with properties := decl.properties.map (List.map Property.withoutEmpty) }

/-- A file in whose members empty texts are missing. -/
def File.withoutEmpty (file : File) : File :=
  { file with
    interfaces := file.interfaces.map Interface.withoutEmpty
    classes := file.classes.map Class.withoutEmpty
    aliases := file.aliases.map Alias.withoutEmpty }

/-- Only the three texts of a member and its members change. -/
theorem Property.withoutEmpty_eq (property : Property) :
    property.withoutEmpty =
      { property with
        visibility := nonEmpty property.visibility
        comment := nonEmpty property.comment
        typeHint := nonEmpty property.typeHint
        members := property.members.map (List.map Property.withoutEmpty) } := by
  obtain ⟨name, type, optional, visibility, comment, typeHint, members⟩ := property
  cases members <;> rw [withoutEmpty] <;> rfl

@[simp] theorem Property.withoutEmpty_name (property : Property) :
    property.withoutEmpty.name = property.name := by
  rw [withoutEmpty_eq]

@[simp] theorem Property.withoutEmpty_type (property : Property) :
    property.withoutEmpty.type = property.type := by
  rw [withoutEmpty_eq]

@[simp] theorem Property.withoutEmpty_optional (property : Property) :
    property.withoutEmpty.optional = property.optional := by
  rw [withoutEmpty_eq]

@[simp] theorem Property.withoutEmpty_visibility (property : Property) :
    property.withoutEmpty.visibility = nonEmpty property.visibility := by
  rw [withoutEmpty_eq]

@[simp] theorem Property.withoutEmpty_typeHint (property : Property) :
    property.withoutEmpty.typeHint = nonEmpty property.typeHint := by
  rw [withoutEmpty_eq]

@[simp] theorem Property.withoutEmpty_members (property : Property) :
    property.withoutEmpty.members = property.members.map (List.map Property.withoutEmpty) := by
  rw [withoutEmpty_eq]

/-! ## Keys -/

section
variable {key name : String} {text : Option String} {rest : List (String × Json)}

/-- Under its own key an entry that may be left out is a text, unless this is empty. -/
theorem lookup_entryUnlessEmpty :
    (entryUnlessEmpty key text ++ rest).lookup key =
      ((nonEmpty text).map Json.str).or (rest.lookup key) := by
  cases text with
  | none => rfl
  | some s =>
    unfold entryUnlessEmpty nonEmpty
    by_cases h : s = ""
    · simp [h, Option.filter_some]
    · simp [h, Option.filter_some]

/-- Under another key it does not matter whether the entry is left out. -/
theorem lookup_entryUnlessEmpty_of_ne (h : name ≠ key) :
    (entryUnlessEmpty key text ++ rest).lookup name = rest.lookup name := by
  cases text with
  | none => rfl
  | some s =>
    unfold entryUnlessEmpty
    dsimp only
    split
    · rfl
    · rw [List.cons_append, List.nil_append, List.lookup_cons, beq_false_of_ne h]

end

@[simp] theorem str?_str (s : String) : (Json.str s).str? = some s := rfl

@[simp] theorem elements_arr (items : List Json) : (Json.arr items).elements = items := rfl

/-- Strings in an array are read as they were written. -/
@[simp] theorem filterMap_str?_map_str (items : List String) :
    (items.map Json.str).filterMap Json.str? = items := by
  rw [List.filterMap_map]
  exact List.filterMap_some

@[simp] theorem bind_str?_map_str (text : Option String) :
    (text.map Json.str).bind Json.str? = text := by
  cases text <;> rfl

@[simp] theorem str?_ofString? (text : Option String) : (Json.ofString? text).str? = text := by
  cases text <;> rfl

/-! ## Members -/

/-- The entry of the members, if there are any to write. -/
def Property.memberEntry (property : Property) : List (String × Json) :=
  (property.members.map fun members => ("members", Json.arr (members.map Property.toJson))).toList

/-- A member is written as an object of the keys that are always there, the texts that are not empty,
and the members of its type. -/
theorem Property.toJson_eq (property : Property) :
    property.toJson = .obj
      (("name", .str property.name) :: ("type", .str property.type) ::
        ("optional", .bool property.optional) ::
        (entryUnlessEmpty "visibility" property.visibility ++
          (entryUnlessEmpty "comment" property.comment ++
            (entryUnlessEmpty "typeHint" property.typeHint ++ property.memberEntry)))) := by
  obtain ⟨name, type, optional, visibility, comment, typeHint, members⟩ := property
  cases members with
  | none =>
    rw [toJson]
    simp [memberEntry]
  | some members =>
    rw [toJson]
    simp [memberEntry]

/-- Behind the texts stands the entry of the members and no other. -/
theorem Property.lookup_memberEntry (property : Property) (key : String) :
    property.memberEntry.lookup key =
      if key = "members" then
        property.members.map fun members => .arr (members.map Property.toJson)
      else none := by
  unfold memberEntry
  cases property.members with
  | none => simp
  | some members =>
    rw [Option.map_some, Option.toList_some, Option.map_some]
    by_cases h : key = "members"
    · simp [h]
    · simp [h, List.lookup_cons, beq_false_of_ne h]

/-- What is read from an object. -/
theorem Property.ofJson_obj (entries : List (String × Json)) :
    ofJson (.obj entries) =
      { name := ((Json.obj entries).string? "name").getD ""
        type := ((Json.obj entries).string? "type").getD ""
        optional := (((Json.obj entries).get? "optional").bind Json.bool?).getD false
        visibility := (Json.obj entries).string? "visibility"
        comment := (Json.obj entries).string? "comment"
        typeHint := (Json.obj entries).string? "typeHint"
        members := match (Json.obj entries).get? "members" with
          | some (.arr items) => some (items.map ofJson)
          | _ => none } := by
  rw [ofJson]
  congr 1
  split <;> rename_i h <;> simp [Json.get?, h]

/-- A member is read as it was written, with its empty texts missing. -/
theorem Property.ofJson_toJson (property : Property) :
    ofJson property.toJson = property.withoutEmpty := by
  have hmembers : ∀ members, property.members = some members →
      members.map (fun member => ofJson member.toJson) = members.map withoutEmpty :=
    fun members h => List.map_congr_left fun member hmember => ofJson_toJson member
  rw [toJson_eq, ofJson_obj, withoutEmpty_eq]
  simp only [Json.string?, Json.get?, List.lookup_cons, String.reduceBEq, lookup_entryUnlessEmpty,
    ne_eq, String.reduceEq, not_false_eq_true, lookup_entryUnlessEmpty_of_ne, lookup_memberEntry,
    reduceIte, Option.or_none, Option.bind_some, str?_str, Json.bool?, Option.getD_some,
    bind_str?_map_str]
  cases h : property.members with
  | none => rfl
  | some members =>
    simp only [Option.map_some, List.map_map, Function.comp_def, hmembers members h]
termination_by sizeOf property
decreasing_by
  have hlt := List.sizeOf_lt_of_mem hmember
  obtain ⟨name, type, optional, visibility, comment, typeHint, members'⟩ := property
  obtain rfl : members' = some members := h
  simp
  omega

/-- Members are read as they were written. -/
theorem Property.map_ofJson_toJson (properties : List Property) :
    (properties.map toJson).map ofJson = properties.map withoutEmpty := by
  rw [List.map_map]
  exact List.map_congr_left fun property _ => property.ofJson_toJson

/-! ## Declarations and files -/

/-- An interface is read as it was written. -/
theorem Interface.ofJson_toJson (decl : Interface) : ofJson decl.toJson = decl.withoutEmpty := by
  unfold ofJson toJson withoutEmpty
  simp [Json.string?, Json.strings, Json.array, Json.get?, Json.ofStrings, List.lookup_cons,
    ← Property.map_ofJson_toJson, Function.comp_def]

/-- A class is read as it was written. -/
theorem Class.ofJson_toJson (decl : Class) : ofJson decl.toJson = decl.withoutEmpty := by
  unfold ofJson toJson withoutEmpty
  simp [Json.string?, Json.strings, Json.array, Json.get?, Json.ofStrings, List.lookup_cons,
    ← Property.map_ofJson_toJson, Function.comp_def]

/-- An enum is read as it was written. -/
theorem Enum.ofJson_toJson (decl : Enum) : ofJson decl.toJson = decl := by
  unfold ofJson toJson
  simp [Json.string?, Json.array, Json.get?, List.lookup_cons, Function.comp_def]

/-- An alias is read as it was written. -/
theorem Alias.ofJson_toJson (decl : Alias) : ofJson decl.toJson = decl.withoutEmpty := by
  unfold ofJson toJson withoutEmpty
  cases decl.properties <;>
    simp [Json.string?, Json.get?, List.lookup_cons, ← Property.map_ofJson_toJson]

/-- A file is read as it was written. -/
theorem File.ofJson_toJson (file : File) : ofJson file.toJson = file.withoutEmpty := by
  unfold ofJson toJson withoutEmpty
  simp [Json.string?, Json.strings, Json.array, Json.get?, Json.ofStrings, List.lookup_cons,
    Function.comp_def, Interface.ofJson_toJson, Class.ofJson_toJson, Enum.ofJson_toJson,
    Alias.ofJson_toJson]

/-- A document is read as the declarations it was written for, with the empty texts missing. -/
theorem Files.ofJson_toJson (files : Files) :
    Files.ofJson files.toJson = files.map File.withoutEmpty := by
  unfold Files.ofJson Files.toJson
  simp [Json.array, Json.get?, File.ofJson_toJson]

end BeanGen.Source

import BeanGen.Json
import BeanGen.Source.Basic

/-!
# The document of the parsed declarations

`Files.toJson` writes the declarations as a JSON document and `Files.ofJson` reads them back. Keys
of a member that are empty or absent are not written; the members of an object type are written even
if there are none, because an object type without members is not the same as no object type.
-/

namespace BeanGen.Source

/-- An entry that is left out if the text is missing or empty. -/
def entryUnlessEmpty (key : String) (text : Option String) : List (String × Json) :=
  match text with
  | some s => if s = "" then [] else [(key, .str s)]
  | none => []

/-- A member as a JSON object. -/
def Property.toJson (property : Property) : Json :=
  .obj <|
    [("name", .str property.name), ("type", .str property.type),
     ("optional", .bool property.optional)] ++
    entryUnlessEmpty "visibility" property.visibility ++
    entryUnlessEmpty "comment" property.comment ++
    entryUnlessEmpty "typeHint" property.typeHint ++
    match property with
    | ⟨_, _, _, _, _, _, some members⟩ => [("members", .arr (members.map Property.toJson))]
    | ⟨_, _, _, _, _, _, none⟩ => []

/-- An interface as a JSON object. -/
def Interface.toJson (decl : Interface) : Json :=
  .obj [("name", .str decl.name), ("extends", .ofStrings decl.bases),
    ("properties", .arr (decl.properties.map Property.toJson))]

/-- A class as a JSON object. -/
def Class.toJson (decl : Class) : Json :=
  .obj [("name", .str decl.name), ("extends", .ofString? decl.base),
    ("implements", .ofStrings decl.implements),
    ("properties", .arr (decl.properties.map Property.toJson))]

/-- An enum as a JSON object. -/
def Enum.toJson (decl : Enum) : Json :=
  .obj [("name", .str decl.name),
    ("members", .arr (decl.members.map fun member =>
      .obj [("name", .str member.name), ("value", .ofString? member.value)]))]

/-- A type alias as a JSON object. -/
def Alias.toJson (decl : Alias) : Json :=
  .obj <| [("name", .str decl.name), ("target", .ofString? decl.target)] ++
    match decl.properties with
    | some properties => [("properties", .arr (properties.map Property.toJson))]
    | none => []

/-- A file as a JSON object. -/
def File.toJson (file : File) : Json :=
  .obj [("path", .str file.path), ("imports", .ofStrings file.imports),
    ("interfaces", .arr (file.interfaces.map Interface.toJson)),
    ("classes", .arr (file.classes.map Class.toJson)),
    ("enums", .arr (file.enums.map Enum.toJson)),
    ("typeAliases", .arr (file.aliases.map Alias.toJson))]

/-- All files as one JSON document. -/
def Files.toJson (files : Files) : Json :=
  .obj [("files", .arr (files.map File.toJson))]

/-- The text of the document. It ends with a line break. -/
def Files.document (files : Files) : String :=
  files.toJson.render ++ "\n"

/-- A value found in an object is smaller than the object. -/
theorem sizeOf_lt_of_lookup {entries : List (String × Json)} {key : String} {value : Json}
    (h : entries.lookup key = some value) : sizeOf value < sizeOf entries := by
  induction entries with
  | nil => simp at h
  | cons entry rest ih =>
    rcases entry with ⟨k, v⟩
    rw [List.lookup_cons] at h
    split at h
    · obtain rfl := Option.some.inj h
      simp
      omega
    · have := ih h
      simp
      omega

/-- Reads a member. An absent key is a missing value. -/
def Property.ofJson : Json → Property
  | .obj entries =>
    let json : Json := .obj entries
    { name := (json.string? "name").getD ""
      type := (json.string? "type").getD ""
      optional := ((json.get? "optional").bind Json.bool?).getD false
      visibility := json.string? "visibility"
      comment := json.string? "comment"
      typeHint := json.string? "typeHint"
      members := match _h : entries.lookup "members" with
        | some (.arr items) => some (items.attach.map fun item => Property.ofJson item.1)
        | _ => none }
  | _ => default
termination_by json => json
decreasing_by
  have h₁ := sizeOf_lt_of_lookup _h
  have h₂ := List.sizeOf_lt_of_mem item.2
  simp at h₁ ⊢
  omega

/-- Reads an interface. -/
def Interface.ofJson (json : Json) : Interface where
  name := (json.string? "name").getD ""
  bases := json.strings "extends"
  properties := (json.array "properties").map Property.ofJson

/-- Reads a class. -/
def Class.ofJson (json : Json) : Class where
  name := (json.string? "name").getD ""
  base := json.string? "extends"
  implements := json.strings "implements"
  properties := (json.array "properties").map Property.ofJson

/-- Reads an enum. -/
def Enum.ofJson (json : Json) : Enum where
  name := (json.string? "name").getD ""
  members := (json.array "members").map fun member =>
    { name := (member.string? "name").getD "", value := member.string? "value" }

/-- Reads a type alias. -/
def Alias.ofJson (json : Json) : Alias where
  name := (json.string? "name").getD ""
  target := json.string? "target"
  properties := match json.get? "properties" with
    | some (.arr items) => some (items.map Property.ofJson)
    | _ => none

/-- Reads a file. -/
def File.ofJson (json : Json) : File where
  path := (json.string? "path").getD ""
  imports := json.strings "imports"
  interfaces := (json.array "interfaces").map Interface.ofJson
  classes := (json.array "classes").map Class.ofJson
  enums := (json.array "enums").map Enum.ofJson
  aliases := (json.array "typeAliases").map Alias.ofJson

/-- Reads a document. -/
def Files.ofJson (json : Json) : Files :=
  (json.array "files").map File.ofJson

end BeanGen.Source

import BeanGen.Java.Unit

/-!
# What a source file declares

A file declares one type. A class brings along the classes nested in it, at any depth
(`ClassDecl.located`). The names that a file declares are those of its types and of what these contain
(`TypeDecl.declaredNames`).
-/

namespace BeanGen.Java

namespace ClassDecl

/-- The name of the class. -/
def name : ClassDecl → String
  | mk _ name _ _ _ _ => name

/-- The class it extends. -/
def base : ClassDecl → Option String
  | mk _ _ base _ _ _ => base

/-- The interfaces it implements. -/
def interfaces : ClassDecl → List String
  | mk _ _ _ interfaces _ _ => interfaces

/-- Its own fields. -/
def fields : ClassDecl → List FieldDecl
  | mk _ _ _ _ fields _ => fields

/-- The classes nested in it, with their labels. -/
def nested : ClassDecl → List (String × ClassDecl)
  | mk _ _ _ _ _ nested => nested

/-- The class and all classes inside it, each with the names of the classes around it and its own. -/
def located (around : List String) : ClassDecl → List (List String × ClassDecl)
  | mk annotations name base interfaces fields nested =>
    (around ++ [name], mk annotations name base interfaces fields nested) ::
      nested.flatMap fun entry => entry.2.located (around ++ [name])
termination_by decl => decl
decreasing_by
  have := List.sizeOf_lt_of_mem ‹entry ∈ nested›
  rcases entry with ⟨label, decl⟩
  simp at this ⊢
  omega

/-- A class stands in front of the classes inside it. -/
theorem located_eq (around : List String) (decl : ClassDecl) :
    decl.located around =
      (around ++ [decl.name], decl) ::
        decl.nested.flatMap fun entry => entry.2.located (around ++ [decl.name]) := by
  cases decl
  rw [located]
  rfl

/-- A class without nested ones is alone. -/
theorem located_of_nested_eq_nil {decl : ClassDecl} (around : List String) (h : decl.nested = []) :
    decl.located around = [(around ++ [decl.name], decl)] := by
  rw [located_eq, h]
  rfl

/-- The names that a class declares apart from nested classes: its own and those of its fields. -/
def ownNames (decl : ClassDecl) : List String :=
  decl.name :: decl.fields.map (·.name)

end ClassDecl

/-- The names that an interface declares: its own and those of its accessors. -/
def InterfaceDecl.ownNames (decl : InterfaceDecl) : List String :=
  decl.name :: decl.accessors.map (·.name)

/-- The names that an enum declares: its own and those of its constants. -/
def EnumDecl.ownNames (decl : EnumDecl) : List String :=
  decl.name :: decl.body.toList.flatMap fun body => body.entries.map (·.name)

namespace TypeDecl

/-- The classes of a file, each with the names of the classes around it and its own. -/
def classes : TypeDecl → List (List String × ClassDecl)
  | ofClass decl => decl.located []
  | ofInterface _ => []
  | ofEnum _ => []

/-- All names that a file declares. -/
def declaredNames : TypeDecl → List String
  | ofClass decl => (decl.located []).flatMap fun entry => entry.2.ownNames
  | ofInterface decl => decl.ownNames
  | ofEnum decl => decl.ownNames

end TypeDecl

end BeanGen.Java

import BeanGen.Script.Grammar
import BeanGen.Script.Salvage

/-!
# Scripts

A script is a row of statements. Imports and declarations at its top level are kept; what else there
is, such as functions, blocks and namespaces, is passed over. A statement that breaks the grammar does
not spoil the others.
-/

namespace BeanGen.Script

/-- The items of the statements. Each statement takes at least one character. -/
def itemsFrom (reader : Reader) : Nat → List Char → List Item
  | 0, _ => []
  | steps + 1, cs =>
    match skip cs with
    | [] => []
    | here =>
      let (item, rest) := (statement? reader here).getD (salvaged reader here)
      match item with
      | some item => item :: itemsFrom reader steps rest
      | none => itemsFrom reader steps rest

/-- The script without the line that says which program runs it. -/
def withoutHashbang (cs : List Char) : List Char :=
  if atMark "#!" (skip cs) then (skip cs).dropWhile (· != '\n') else cs

/-- The imports and declarations of a script. -/
def items (script : String) : List Item :=
  let cs := script.toList
  itemsFrom (readerFor cs.length) (cs.length + 1) (withoutHashbang cs)

/-- The file with one more item. -/
def addItem (file : Source.File) : Item → Source.File
  | .imported module => { file with imports := addImport file.imports module }
  | .declared (.ofInterface decl) => { file with interfaces := file.interfaces ++ [decl] }
  | .declared (.ofClass decl) => { file with classes := file.classes ++ [decl] }
  | .declared (.ofEnum decl) => { file with enums := file.enums ++ [decl] }
  | .declared (.ofAlias decl) => { file with aliases := file.aliases ++ [decl] }
where
  /-- Modules with one more at the end, unless it is there already. -/
  addImport (modules : List String) (module : String) : List String :=
    if modules.contains module then modules else modules ++ [module]

/-- Reads a script: the declarations of the file at `path`. -/
def parse (path script : String) : Source.File :=
  (items script).foldl addItem { path := path }

end BeanGen.Script

import BeanGen.Config.Table
import BeanGen.TypeText.Outline

/-!
# Substituting names in a type expression

A table may send simple names to qualified ones. `substitute?` replaces every undotted name of a type
expression that the table knows, inside type arguments and array elements too. It looks at the
names that stood there before: what it inserts is not looked up again.
-/

namespace BeanGen.TypeText

open Text Config

/-- The replacement of one name. Dotted names and blank values are left alone. -/
def replacement? (table : Table) (name : List Char) : Option (List Char) :=
  if name.isEmpty || name.contains '.' then none
  else ((table.get? (String.ofList name)).bind nonBlank?).map String.toList

/-- The type expression with its names replaced, or nothing if that changes nothing. -/
def substituteText? (table : Table) (type : List Char) : Option (List Char) :=
  if allBlank type || table.isEmpty then none
  else
    let result : Option (List Char) := match _h : outline (trim type) with
      | .applied name args =>
        let args := args.attach.map fun arg => (substituteText? table arg.1).getD arg.1
        some ((replacement? table name).getD name ++ '<' :: ", ".toList.intercalate args ++ ['>'])
      | .array element => some ((substituteText? table element).getD element ++ ['[', ']'])
      | .simple name => replacement? table name
    result.filter (· != type)
termination_by type.length
decreasing_by
  all_goals refine Nat.lt_of_lt_of_le (length_lt_of_mem_parts_outline ?_) (length_trim_le type)
  · rw [_h]
    exact arg.2
  · simp [_h, Outline.parts]

/-- `substituteText?` on strings; a missing type stays missing. -/
def substitute? (table : Table) (type : Option String) : Option String :=
  (type.bind fun s => substituteText? table s.toList).map String.ofList

end BeanGen.TypeText

/-!
# Java string literals

Constants of text-backed enums carry their text as a Java string literal.
-/

namespace BeanGen.Java

/-- How one character stands inside a literal: backslash, double quote and line feed are escaped. -/
def escapeChar (c : Char) : List Char :=
  if c = '\\' then ['\\', '\\']
  else if c = '"' then ['\\', '"']
  else if c = '\n' then ['\\', 'n']
  else [c]

/-- The body of the literal, between its quotes. -/
def escape (cs : List Char) : List Char :=
  cs.flatMap escapeChar

/-- The literal that denotes the text. -/
def stringLiteral (s : String) : String :=
  String.ofList ('"' :: escape s.toList ++ ['"'])

end BeanGen.Java

/-!
# Characters of a script

Which characters separate the words of a script, which ones end a line, and which ones a name is made
of. A name may have letters of any script in it: only white space and the marks cannot be in one.
-/

namespace BeanGen.Script

/-- White space between tokens, with the zero-width spaces and the byte order mark. -/
def isSpace (c : Char) : Bool :=
  let n := c.toNat
  (0x09 ≤ n && n ≤ 0x0d) || n == 0x20 || n == 0xa0 || n == 0x1680 || (0x2000 ≤ n && n ≤ 0x200b) ||
    n == 0x2028 || n == 0x2029 || n == 0x202f || n == 0x205f || n == 0x2060 || n == 0x3000 ||
    n == 0xfeff

/-- White space that a statement can end in. Spaces that keep words together and those without width
do not count. -/
def isParting (c : Char) : Bool :=
  let n := c.toNat
  isSpace c && !(n == 0xa0 || n == 0x2007 || n == 0x200b || n == 0x202f || n == 0x2060 || n == 0xfeff)

/-- A character that ends a line and with it a line comment. -/
def breaksLine (c : Char) : Bool :=
  c == '\n' || c == '\r' || c.toNat == 0x2028 || c.toNat == 0x2029

/-- Characters that cannot be in a name. -/
def nameBreakers : List Char :=
  ":;\"'@#.,|^&<=>+-*/\\%?!~()[]\x7b\x7d\x60".toList

/-- A decimal digit. -/
def isDigit (c : Char) : Bool :=
  '0' ≤ c && c ≤ '9'

/-- A digit of a number in base sixteen. -/
def isHexDigit (c : Char) : Bool :=
  isDigit c || ('a' ≤ c && c ≤ 'f') || ('A' ≤ c && c ≤ 'F')

/-- The marks around a gap, a part of a script that is left out because it breaks the grammar. They are
noncharacters, which no text has. -/
def gapStart : Char := '\uFDD0'

@[inherit_doc gapStart]
def gapEnd : Char := '\uFDD1'

/-- The name that stands where a name is missing. -/
def missingName : Char := '\uFDD2'

/-- A character of a name. -/
def isNamePart (c : Char) : Bool :=
  0x1f < c.toNat && !isSpace c && !nameBreakers.contains c && c != gapStart && c != gapEnd

end BeanGen.Script

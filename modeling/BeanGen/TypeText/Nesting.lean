/-!
# Nesting in type text

A type expression of the source language is read as text. `items` cuts it into single characters,
escaped pairs inside quotes, and arrows, and says of each whether it stands at the top level: outside
every bracket and every quotation. The lexemes of the items put together give the text back, so
splitting at the top level and joining again loses nothing.
-/

namespace BeanGen.TypeText

/-- Where a reader of type text stands: how many brackets are open, and in which quotation. -/
structure Nesting where
  depth : Nat
  quote : Option Char
  deriving DecidableEq, Repr

/-- Outside of all brackets and quotations. -/
def Nesting.top : Nesting := ⟨0, none⟩

/-- One lexeme of type text. -/
structure Item where
  text : List Char
  atTop : Bool
  deriving DecidableEq, Repr

/-- The three quotation marks. -/
def quotes : List Char := ['\'', '"', '\x60']

/-- The opening brackets. -/
def openers : List Char := ['<', '(', '[', '\x7b']

/-- The closing brackets. -/
def closers : List Char := ['>', ')', ']', '\x7d']

/-- Cuts text into items, starting inside `nesting`. An opening bracket counts as outside of itself
and so does its closing bracket; a closing bracket without a partner is passed over. -/
def items : Nesting → List Char → List Item
  | _, [] => []
  | ⟨depth, some q⟩, '\\' :: c :: cs => ⟨['\\', c], false⟩ :: items ⟨depth, some q⟩ cs
  | ⟨depth, some q⟩, c :: cs =>
    ⟨[c], false⟩ :: items ⟨depth, if c = q then none else some q⟩ cs
  | ⟨depth, none⟩, '=' :: '>' :: cs => ⟨['=', '>'], depth == 0⟩ :: items ⟨depth, none⟩ cs
  | ⟨depth, none⟩, c :: cs =>
    if quotes.contains c then ⟨[c], depth == 0⟩ :: items ⟨depth, some c⟩ cs
    else if openers.contains c then ⟨[c], depth == 0⟩ :: items ⟨depth + 1, none⟩ cs
    else if closers.contains c then ⟨[c], depth - 1 == 0⟩ :: items ⟨depth - 1, none⟩ cs
    else ⟨[c], depth == 0⟩ :: items ⟨depth, none⟩ cs

/-- Puts characters in front of the first piece. -/
def onFirst (front : List Char) : List (List Char) → List (List Char)
  | [] => [front]
  | piece :: pieces => (front ++ piece) :: pieces

/-- Splits items at the top-level occurrences of one item. Only the first character of a delimiter
separates; what else it has begins the next piece. -/
def splitItems (delimiter : List Char) : List Item → List (List Char)
  | [] => [[]]
  | item :: rest =>
    if item.atTop && item.text == delimiter then
      [] :: onFirst (item.text.drop 1) (splitItems delimiter rest)
    else onFirst item.text (splitItems delimiter rest)

/-- The pieces of the text between the delimiters that stand at the top level. A delimiter is a single
character or an arrow; any other text separates nothing. -/
def splitTopAt (delimiter : List Char) (cs : List Char) : List (List Char) :=
  splitItems delimiter (items .top cs)

/-- The pieces of the text between the top-level occurrences of one character. -/
def splitTop (delimiter : Char) (cs : List Char) : List (List Char) :=
  splitTopAt [delimiter] cs

/-- An arrow stands at the top level. -/
def hasTopArrow (cs : List Char) : Bool :=
  (items .top cs).any fun item => item.atTop && item.text == ['=', '>']

/-- A top-level closing bracket. -/
def Item.isTopCloser (item : Item) : Bool :=
  item.atTop && match item.text with
    | [c] => closers.contains c
    | _ => false

/-- The bracket that opens the text is closed by its last character. -/
def closesAtEnd (cs : List Char) : Bool :=
  (match cs with
    | c :: _ => openers.contains c
    | [] => false) &&
  match (items .top cs).dropWhile (!·.isTopCloser) with
  | [_] => true
  | _ => false

/-- Putting characters in front adds no other piece. -/
theorem length_le_of_mem_onFirst {front piece : List Char} {pieces : List (List Char)} {n : Nat}
    (hpieces : ∀ p ∈ pieces, p.length ≤ n) (h : piece ∈ onFirst front pieces) :
    piece.length ≤ front.length + n := by
  cases pieces with
  | nil => simp_all [onFirst]
  | cons first rest =>
    rcases List.mem_cons.1 h with rfl | h
    · simpa using hpieces first List.mem_cons_self
    · exact Nat.le_add_left_of_le (hpieces piece (List.mem_cons_of_mem _ h))

/-- The pieces keep within the length of the text. -/
theorem length_le_of_mem_splitItems {delimiter : List Char} {is : List Item} {piece : List Char}
    (h : piece ∈ splitItems delimiter is) : piece.length ≤ (is.flatMap (·.text)).length := by
  induction is generalizing piece with
  | nil => simp_all [splitItems]
  | cons item rest ih =>
    simp only [List.flatMap_cons, List.length_append]
    simp only [splitItems] at h
    split at h
    · rcases List.mem_cons.1 h with rfl | h
      · simp
      · have := length_le_of_mem_onFirst (fun p hp => ih hp) h
        simp only [List.length_drop] at this
        omega
    · exact length_le_of_mem_onFirst (fun p hp => ih hp) h

/-- The items spell the text. -/
theorem flatMap_items (nesting : Nesting) (cs : List Char) :
    (items nesting cs).flatMap (·.text) = cs := by
  fun_induction items nesting cs <;> simp_all

/-- No piece is longer than the text it was split from. -/
theorem length_le_of_mem_splitTop {delimiter : Char} {cs piece : List Char}
    (h : piece ∈ splitTop delimiter cs) : piece.length ≤ cs.length := by
  have : piece.length ≤ ((items .top cs).flatMap (·.text)).length := length_le_of_mem_splitItems h
  rwa [flatMap_items] at this

end BeanGen.TypeText

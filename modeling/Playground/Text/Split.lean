import Playground.Text.CharClass

/-!
# Cutting texts

Texts are cut as lists of characters.

* `strip` — a text without the white space at its ends.
* `words` — the pieces between runs of white space.
* `splitOn` — the pieces between occurrences of one character.
* `lines` — the lines of a text, whatever ends them.
* `unifyNewlines` — every line end read as a line feed.
-/

namespace Playground.Text

/-- The text without the white space at its start. -/
def stripLeft (cs : List Char) : List Char := cs.dropWhile isBlank

/-- The text without the white space at its end. -/
def stripRight (cs : List Char) : List Char := (cs.reverse.dropWhile isBlank).reverse

/-- The text without the white space at its ends. -/
def strip (cs : List Char) : List Char := stripRight (stripLeft cs)

/-- The string without the white space at its ends. -/
def trimmed (s : String) : String := String.ofList (strip s.toList)

/-- The pieces between occurrences of `sep`; there is always at least one. -/
def splitOn (sep : Char) : List Char → List (List Char)
  | [] => [[]]
  | c :: rest =>
    if c = sep then [] :: splitOn sep rest
    else
      match splitOn sep rest with
      | [] => [[c]]
      | first :: others => (c :: first) :: others

theorem splitOn_ne_nil (sep : Char) (cs : List Char) : splitOn sep cs ≠ [] := by
  cases cs with
  | nil => simp [splitOn]
  | cons c rest =>
    unfold splitOn
    split
    · simp
    · split <;> simp

/-- The pieces between runs of the characters that `isSep` accepts, empty pieces left out. -/
def piecesBy (isSep : Char → Bool) : List Char → List (List Char)
  | [] => []
  | c :: rest =>
    if isSep c then piecesBy isSep rest
    else
      match rest with
      | [] => [[c]]
      | d :: _ =>
        if isSep d then [c] :: piecesBy isSep rest
        else
          match piecesBy isSep rest with
          | [] => [[c]]
          | first :: others => (c :: first) :: others

/-- The pieces between runs of white space. -/
def words (cs : List Char) : List (List Char) := piecesBy isBlank cs

/-- Characters that end a line of their own: line feed, vertical tab, form feed, carriage return,
the separators U+001C to U+001E, next line and the line and paragraph separators. -/
def isLineEnd (c : Char) : Bool :=
  (10 ≤ c.toNat && c.toNat ≤ 13) || (28 ≤ c.toNat && c.toNat ≤ 30) || c.toNat = 0x85 ||
    c.toNat = 0x2028 || c.toNat = 0x2029

/-- The lines of a text without their ends; a carriage return and a line feed end one line
together, and an end that closes the text opens no further line. -/
def lines : List Char → List (List Char)
  | [] => []
  | '\r' :: '\n' :: rest => [] :: lines rest
  | c :: rest =>
    if isLineEnd c then [] :: lines rest
    else
      match rest with
      | [] => [[c]]
      | _ :: _ =>
        match lines rest with
        | [] => [[c]]
        | first :: others => (c :: first) :: others

/-- Carriage returns, alone or before a line feed, read as line feeds. -/
def unifyNewlines : List Char → List Char
  | [] => []
  | '\r' :: '\n' :: rest => '\n' :: unifyNewlines rest
  | '\r' :: rest => '\n' :: unifyNewlines rest
  | c :: rest => c :: unifyNewlines rest

/-- The pieces with `sep` between neighbours. -/
def joinWith (sep : List Char) : List (List Char) → List Char
  | [] => []
  | [piece] => piece
  | piece :: others => piece ++ sep ++ joinWith sep others

def joinStrings (sep : String) (parts : List String) : String := sep.intercalate parts

def dropStart? : List Char → List Char → Option (List Char)
  | [], cs => some cs
  | p :: ps, c :: cs => if p = c then dropStart? ps cs else none
  | _ :: _, [] => none

def startsWith (start cs : List Char) : Bool := (dropStart? start cs).isSome

def containsPart (part : List Char) : List Char → Bool
  | [] => part.isEmpty
  | c :: cs => startsWith part (c :: cs) || containsPart part cs

end Playground.Text

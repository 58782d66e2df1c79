import Playground.Text.Hex
import Playground.Yaml.Timestamp

/-!
# Tags

A tag says what a node of a document is. A plain scalar without one has the tag that its text
looks like.

* `Tag` — the tags.
* `Tag.name`, `Tag.ofName` — their names.
* `Tag.ofText` — the tag that a plain text looks like.
-/

namespace Playground.Yaml

/-- What a node is. -/
inductive Tag where
  | null
  | bool
  | int
  | float
  | binary
  | timestamp
  | str
  | seq
  | map
  | set
  | omap
  | pairs
  | merge
  | default
  | other (name : String)
  deriving DecidableEq, Repr, Inhabited

namespace Tag

/-- What the names of the known tags start with. -/
def home : String := "tag:yaml.org,2002:"

def known : List Tag :=
  [null, bool, int, float, binary, timestamp, str, seq, map, set, omap, pairs, merge, default]

def name : Tag → String
  | null => home ++ "null"
  | bool => home ++ "bool"
  | int => home ++ "int"
  | float => home ++ "float"
  | binary => home ++ "binary"
  | timestamp => home ++ "timestamp"
  | str => home ++ "str"
  | seq => home ++ "seq"
  | map => home ++ "map"
  | set => home ++ "set"
  | omap => home ++ "omap"
  | pairs => home ++ "pairs"
  | merge => home ++ "merge"
  | default => home ++ "value"
  | other name => name

def ofName (name : String) : Tag := (known.find? fun t => t.name = name).getD (other name)

def isCollection : Tag → Bool
  | seq | map | set | omap | pairs => true
  | _ => false

/-! ### What plain texts look like -/

def isDigit (c : Char) : Bool := '0' ≤ c && c ≤ '9'

def isDigitMark (c : Char) : Bool := isDigit c || c = '_'

/-- The text without the sign in front of it. -/
def unsigned : List Char → List Char
  | c :: rest => if c = '+' || c = '-' then rest else c :: rest
  | [] => []

/-- A word in lower case, with a capital, or in capitals. -/
def isSpelling (word text : List Char) : Bool :=
  let capital := match word with
    | c :: rest => c.toUpper :: rest
    | [] => []
  text = word || text = capital || text = word.map Char.toUpper

def truthWords : List (String × Bool) :=
  [("yes", true), ("no", false), ("true", true), ("false", false), ("on", true), ("off", false)]

def isBool (cs : List Char) : Bool := truthWords.any fun w => isSpelling w.1.toList cs

def isNull (cs : List Char) : Bool := cs.isEmpty || cs = ['~'] || isSpelling "null".toList cs

/-- One part of a number to base sixty: one digit, or two that stay below sixty. -/
def isSixtieth : List Char → Bool
  | [a] => isDigit a
  | [a, b] => '0' ≤ a && a ≤ '5' && isDigit b
  | _ => false

/-- A number to base sixty, its parts separated by colons. -/
def isSexagesimal (opens : Char → Bool) (cs : List Char) : Bool :=
  match Text.splitOn ':' cs with
  | (c :: head) :: part :: parts =>
    opens c && head.all isDigitMark && (part :: parts).all isSixtieth
  | _ => false

def isLeadingDigit (c : Char) : Bool := '1' ≤ c && c ≤ '9'

/-- An integer: binary, octal, hexadecimal, decimal or to base sixty; underscores may stand
between the digits. -/
def isInt (cs : List Char) : Bool :=
  match unsigned cs with
  | '0' :: 'b' :: d :: ds => (d :: ds).all fun c => c = '0' || c = '1' || c = '_'
  | '0' :: 'x' :: d :: ds => (d :: ds).all fun c => (Text.hexValue? c).isSome || c = '_'
  | '0' :: ds => ds.all fun c => ('0' ≤ c && c ≤ '7') || c = '_'
  | d :: ds =>
    isLeadingDigit d && (ds.all isDigitMark || isSexagesimal isLeadingDigit (d :: ds))
  | [] => false

def isExponent : List Char → Bool
  | [] => true
  | e :: sign :: d :: ds =>
    (e = 'e' || e = 'E') && (sign = '+' || sign = '-') && (d :: ds).all isDigit
  | _ => false

/-- The digits behind a point, and an exponent. -/
def isFraction (cs : List Char) : Bool := isExponent (cs.dropWhile isDigitMark)

/-- A number with a point, infinity or no number. -/
def isFloat (cs : List Char) : Bool :=
  let body := unsigned cs
  let (whole, rest) := body.span (· ≠ '.')
  match whole, rest with
  | [], '.' :: d :: ds =>
    (cs.head? = some '.' && isDigit d && isFraction ds) ||
      isSpelling "inf".toList (d :: ds) ||
      (cs.head? = some '.' && ["nan", "NaN", "NAN"].any fun w => w.toList = d :: ds)
  | c :: head, '.' :: ds =>
    (isDigit c && head.all isDigitMark && isFraction ds) ||
      (isSexagesimal isDigit (c :: head) && ds.all isDigitMark)
  | _, _ => false

/-- The tag that a plain text looks like; a line end behind something else is overlooked. -/
def ofText (text : List Char) : Tag :=
  let cs := Timestamp.withoutLineEnd text
  if isBool cs then bool
  else if isFloat cs then float
  else if isInt cs then int
  else if cs = "<<".toList then merge
  else if isNull cs && text ≠ ['\n'] then null
  else if Timestamp.isTimestamp text then timestamp
  else if cs = ['='] then default
  else if cs = ['!'] || cs = ['&'] || cs = ['*'] then other (home ++ "yaml")
  else str

end Tag

end Playground.Yaml

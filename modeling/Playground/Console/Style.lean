import Playground.Fault
import Playground.Text.Hex
import Playground.Text.LetterCase
import Playground.Text.Split

/-!
# Styles

A style is written as words: attributes, which may be denied, a colour, a colour behind the text and
a link. Texts that ask for the same style have one normal form.

* `colourName?` — the name of a colour.
* `Style.parse?` — the style that a text asks for.
* `normalStyle` — the normal form of a style, or of a text that is none.

A colour mixed of red, green and blue is the one thing that can go wrong: a part without digits is
no number.
-/

namespace Playground.Console

open Playground.Decimal Playground.Text

def colourNames : List String := [
   "black", "red", "green", "yellow", "blue", "magenta", "cyan", "white", "bright_black",
   "bright_red", "bright_green", "bright_yellow", "bright_blue", "bright_magenta", "bright_cyan",
   "bright_white", "grey0", "gray0", "navy_blue", "dark_blue", "blue3", "blue1", "dark_green",
   "deep_sky_blue4", "dodger_blue3", "dodger_blue2", "green4", "spring_green4", "turquoise4",
   "deep_sky_blue3", "dodger_blue1", "green3", "spring_green3", "dark_cyan", "light_sea_green",
   "deep_sky_blue2", "deep_sky_blue1", "spring_green2", "cyan3", "dark_turquoise", "turquoise2",
   "green1", "spring_green1", "medium_spring_green", "cyan2", "cyan1", "dark_red", "deep_pink4",
   "purple4", "purple3", "blue_violet", "orange4", "grey37", "gray37", "medium_purple4",
   "slate_blue3", "royal_blue1", "chartreuse4", "dark_sea_green4", "pale_turquoise4", "steel_blue",
   "steel_blue3", "cornflower_blue", "chartreuse3", "cadet_blue", "sky_blue3", "steel_blue1",
   "pale_green3", "sea_green3", "aquamarine3", "medium_turquoise", "chartreuse2", "sea_green2",
   "sea_green1", "aquamarine1", "dark_slate_gray2", "dark_magenta", "dark_violet", "purple",
   "light_pink4", "plum4", "medium_purple3", "slate_blue1", "yellow4", "wheat4", "grey53", "gray53",
   "light_slate_grey", "light_slate_gray", "medium_purple", "light_slate_blue", "dark_olive_green3",
   "dark_sea_green", "light_sky_blue3", "sky_blue2", "dark_sea_green3", "dark_slate_gray3",
   "sky_blue1", "chartreuse1", "light_green", "pale_green1", "dark_slate_gray1", "red3",
   "medium_violet_red", "magenta3", "dark_orange3", "indian_red", "hot_pink3", "medium_orchid3",
   "medium_orchid", "medium_purple2", "dark_goldenrod", "light_salmon3", "rosy_brown", "grey63",
   "gray63", "medium_purple1", "gold3", "dark_khaki", "navajo_white3", "grey69", "gray69",
   "light_steel_blue3", "light_steel_blue", "yellow3", "dark_sea_green2", "light_cyan3",
   "light_sky_blue1", "green_yellow", "dark_olive_green2", "dark_sea_green1", "pale_turquoise1",
   "deep_pink3", "magenta2", "hot_pink2", "orchid", "medium_orchid1", "orange3", "light_pink3",
   "pink3", "plum3", "violet", "light_goldenrod3", "tan", "misty_rose3", "thistle3", "plum2",
   "khaki3", "light_goldenrod2", "light_yellow3", "grey84", "gray84", "light_steel_blue1",
   "yellow2", "dark_olive_green1", "honeydew2", "light_cyan1", "red1", "deep_pink2", "deep_pink1",
   "magenta1", "orange_red1", "indian_red1", "hot_pink", "dark_orange", "salmon1", "light_coral",
   "pale_violet_red1", "orchid2", "orchid1", "orange1", "sandy_brown", "light_salmon1",
   "light_pink1", "pink1", "plum1", "gold1", "navajo_white1", "misty_rose1", "thistle1", "yellow1",
   "light_goldenrod1", "khaki1", "wheat1", "cornsilk1", "grey100", "gray100", "grey3", "gray3",
   "grey7", "gray7", "grey11", "gray11", "grey15", "gray15", "grey19", "gray19", "grey23", "gray23",
   "grey27", "gray27", "grey30", "gray30", "grey35", "gray35", "grey39", "gray39", "grey42",
   "gray42", "grey46", "gray46", "grey50", "gray50", "grey54", "gray54", "grey58", "gray58",
   "grey62", "gray62", "grey66", "gray66", "grey70", "gray70", "grey74", "gray74", "grey78",
   "gray78", "grey82", "gray82", "grey85", "gray85", "grey89", "gray89", "grey93", "gray93"]

def isPaletteColour (cs : List Char) : Bool :=
  match dropStart? "color(".toList cs with
  | some rest =>
    let ds := rest.takeWhile fun c => '0' ≤ c && c ≤ '9'
    !ds.isEmpty && ds.length ≤ 3 && rest.drop ds.length = [')'] && ofDigits ds ≤ 255
  | none => false

/-- Is it a hash and six hexadecimal digits? -/
def isHexColour (cs : List Char) : Bool :=
  match cs with
  | '#' :: ds => ds.length = 6 && ds.all fun c => (hexValue? c).isSome
  | _ => false

def colourPart (ds : List Char) : Except Fault Nat :=
  if ds.isEmpty then .error (.notAnInteger "")
  else if maxDigits < ds.length then .error (.tooManyDigits ds.length)
  else .ok (ofDigits ds)

/-- Is it the text of three parts of red, green and blue? -/
def isMixedColour (cs : List Char) : Except Fault Bool :=
  match dropStart? "rgb(".toList cs with
  | some rest =>
    let body := rest.dropLast
    let parts := splitOn ',' body
    if rest.getLast? = some ')' && body.all (fun c => isDecimalDigit c || c = ',') &&
        parts.length = 3 then do
      let parts ← parts.mapM colourPart
      pure (parts.all (· ≤ 255))
    else .ok false
  | none => .ok false

def colourName? (word : String) : Except Fault (Option String) := do
  let name := toLower word
  if name = "default" || colourNames.contains name || isHexColour name.toList ||
      isPaletteColour name.toList then pure (some name)
  else
    let mixed ← isMixedColour name.toList
    pure (if mixed then some name else none)

/-- The attributes, in the order in which they are written. -/
def attributeNames : List String :=
  ["bold", "dim", "italic", "underline", "blink", "blink2", "reverse", "conceal", "strike",
    "underline2", "frame", "encircle", "overline"]

def shortNames : List (String × String) :=
  [("d", "dim"), ("b", "bold"), ("i", "italic"), ("u", "underline"), ("r", "reverse"),
    ("c", "conceal"), ("s", "strike"), ("uu", "underline2"), ("o", "overline")]

def attribute? (word : String) : Option String :=
  if attributeNames.contains word then some word
  else (shortNames.find? fun e => e.1 = word).map (·.2)

/-- A style. -/
structure Style where
  /-- The attributes that are asked for or denied, latest first. -/
  attributes : List (String × Bool) := []
  colour : Option String := none
  behind : Option String := none
  link : Option String := none
  deriving DecidableEq, Repr, Inhabited

namespace Style

/-- The style that words ask for on top of a style. -/
def ofWords? (s : Style) : List String → Except Fault (Option Style)
  | [] => .ok (some s)
  | word :: rest =>
    match toLower word, rest with
    | "on", next :: rest => do
      match ← colourName? next with
      | some name => ofWords? { s with behind := some name } rest
      | none => pure none
    | "not", next :: rest =>
      match attribute? next with
      | some name => ofWords? { s with attributes := (name, false) :: s.attributes } rest
      | none => .ok none
    | "link", next :: rest => ofWords? { s with link := some next } rest
    | word, rest =>
      match attribute? word with
      | some name => ofWords? { s with attributes := (name, true) :: s.attributes } rest
      | none => do
        match ← colourName? word with
        | some name => ofWords? { s with colour := some name } rest
        | none => pure none

def parse? (text : String) : Except Fault (Option Style) :=
  if trimmed text = "none" then .ok (some {})
  else ofWords? {} ((words text.toList).map String.ofList)

/-- How an attribute is written, if the style speaks of it. -/
def attributeText (s : Style) (name : String) : List String :=
  match s.attributes.find? fun e => e.1 = name with
  | some (_, true) => [name]
  | some (_, false) => ["not " ++ name]
  | none => []

def text (s : Style) : String :=
  let words := attributeNames.flatMap s.attributeText ++ s.colour.toList ++
    (s.behind.map ("on " ++ ·)).toList ++ (s.link.map ("link " ++ ·)).toList
  if words.isEmpty then "none" else " ".intercalate words

end Style

/-- The normal form of a style; of a text that is none, small letters without white space around
them. -/
def normalStyle (text : String) : Except Fault String := do
  match ← Style.parse? text with
  | some s => pure s.text
  | none => pure (toLower (trimmed text))

end Playground.Console

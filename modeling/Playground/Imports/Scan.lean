import Playground.Text.Split

/-!
# Scanning for imports

The modules that a source text names in import statements, found line by line without reading the
rest of the language.

* `importedInLine` — the modules that one line imports.
* `importedModules` — the modules that a text imports, in order.
-/

namespace Playground.Imports

open Playground.Text

/-- The rest of the text after at least one space or tab. -/
def afterGap (cs : List Char) : Option (List Char) :=
  match cs with
  | c :: rest => if isSpaceOrTab c then some (rest.dropWhile isSpaceOrTab) else none
  | [] => none

def afterKeyword (keyword cs : List Char) : Option (List Char) :=
  (dropStart? keyword cs).bind afterGap

/-- Does the text open with a letter of the alphabet or an underscore? -/
def opensName : List Char → Bool
  | c :: _ => isNameStart c
  | [] => false

def opensWord (keyword cs : List Char) : Bool :=
  match dropStart? keyword cs with
  | some (c :: _) => !isWordChar c
  | some [] => true
  | none => false

/-- The first name of the path in the head of a from-import. -/
def fromImport (cs : List Char) : Option (List Char) := do
  let path ← afterKeyword "from".toList cs
  if opensName path then
    let rest ← afterGap (path.dropWhile fun c => isWordChar c || c = '.')
    if opensWord "import".toList rest then some (path.takeWhile isWordChar) else none
  else none

/-- A character that may stand in the list of a plain import. -/
def isImportListChar (c : Char) : Bool :=
  isWordChar c || c = '.' || c = ',' || isSpaceOrTab c

/-- The first names of the paths in a list that is separated by commas. -/
def listedModules (cs : List Char) : List String :=
  (splitOn ',' cs).filterMap fun part =>
    match words part with
    | [] => none
    | path :: _ => some (String.ofList (path.takeWhile (· ≠ '.')))

def plainImport (cs : List Char) : Option (List String) := do
  let list ← afterKeyword "import".toList cs
  if opensName list then some (listedModules (list.takeWhile isImportListChar)) else none

def importedInLine (line : List Char) : List String :=
  let body := line.dropWhile isSpaceOrTab
  match fromImport body with
  | some name => [String.ofList name]
  | none => (plainImport body).getD []

/-- The modules that a text imports, in order. -/
def importedModules (source : String) : List String :=
  (splitOn '\n' source.toList).flatMap importedInLine

end Playground.Imports

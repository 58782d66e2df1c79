import Playground.Imports.Standard
import Playground.Diagnostic.Layout

/-!
# Syntax trees

Of the syntax tree of a program only the import statements and the nesting of statements matter.

* `Node` — a statement.
* `walk` — the statements of a tree, level by level.
* `forbiddenImports` — the diagnostics for imports of the standard library, by position.
-/

namespace Playground.Bytecode

open Playground.Text

/-- A place in the source text. -/
structure Place where
  line : Int := 1
  column : Int := 0
  deriving DecidableEq, Repr, Inhabited

/-- A statement. -/
inductive Node where
  | plainImport (names : List String) (place : Place)
  /-- An import from a module, `level` packages up. -/
  | fromImport (module : Option String) (level : Int) (place : Place)
  | block (body orElse : List Node)
  | other
  deriving Repr, Inhabited

namespace Node

/-- The statements directly inside a statement. -/
def children : Node → List Node
  | block body orElse => body ++ orElse
  | _ => []

mutual

def height : Node → Nat
  | block body orElse => max (heights body) (heights orElse) + 1
  | _ => 1

/-- The greatest depth of nesting in a list of statements. -/
def heights : List Node → Nat
  | [] => 0
  | n :: ns => max n.height (heights ns)

end

end Node

/-- The statements of the first `depth` levels, level by level. -/
def walkLevels : Nat → List Node → List Node
  | 0, _ => []
  | depth + 1, nodes => nodes ++ walkLevels depth (nodes.flatMap Node.children)

def walk (nodes : List Node) : List Node := walkLevels (Node.heights nodes) nodes

def Node.importPlace? : Node → Option Place
  | .plainImport _ place => some place
  | .fromImport _ _ place => some place
  | _ => none

/-- The paths that an import statement names, relative imports left out. -/
def Node.importedPaths : Node → List String
  | .plainImport names _ => names
  | .fromImport (some m) level _ => if level = 0 && m ≠ "" then [m] else []
  | _ => []

/-- Does the first place come no later than the second? -/
def Place.le (a b : Place) : Bool :=
  a.line < b.line || (a.line = b.line && a.column ≤ b.column)

/-- The import statements with their places, by place; statements of one place keep their order. -/
def importsByPlace (nodes : List Node) : List (Place × Node) :=
  ((walk nodes).filterMap fun n => n.importPlace?.map fun p => (p, n)).mergeSort
    fun a b => a.1.le b.1

/-- The first component of a dotted path. -/
def firstComponent (path : String) : String :=
  String.ofList (path.toList.takeWhile (· ≠ '.'))

def missingModuleCode : String := "CP2307"

def missingModule (path : String) (place : Place) : String :=
  formatDiagnostic missingModuleCode
    ("Cannot find module '" ++ path ++ "'. Standard library is disabled.")
    (some place.line) (some (place.column + 1)) "ERROR"

/-- The diagnostics for the imports of the standard library in one statement. -/
def forbiddenIn (place : Place) (n : Node) : List String :=
  (n.importedPaths.filter fun path => Imports.isStandard (firstComponent path)).map
    fun path => missingModule path place

/-- The diagnostics for the imports of the standard library, by place. -/
def forbiddenImports (nodes : List Node) : List String :=
  (importsByPlace nodes).flatMap fun (place, n) => forbiddenIn place n

end Playground.Bytecode

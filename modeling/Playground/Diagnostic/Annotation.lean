import Playground.Diagnostic.Locator
import Playground.Text.LetterCase

/-!
# Annotations

A diagnostic with a usable locator marks a row of the editor.

* `AnnotationKind` — how grave a mark is.
* `diagnosticKind` — the kind that the leading tag of a diagnostic names.
* `toAnnotation` — the mark that a diagnostic makes, if it makes one.
-/

namespace Playground

open Playground.Text

/-- How grave an annotation is. -/
inductive AnnotationKind where
  | error
  | warning
  | info
  deriving DecidableEq, Repr

namespace AnnotationKind

def name : AnnotationKind → String
  | error => "error"
  | warning => "warning"
  | info => "info"

def all : List AnnotationKind := [error, warning, info]

def ofName (s : String) : Except Fault AnnotationKind :=
  match all.find? (fun k => k.name = s) with
  | some k => .ok k
  | none => .error (.notAMember (quote s) "AnnotationKind")

end AnnotationKind

/-- A mark on a row of the editor, rows counted from zero. -/
structure Annotation where
  row : Nat
  kind : AnnotationKind
  text : String
  deriving DecidableEq, Repr

namespace Diagnostic

/-- Does a character stand for a capital letter of a tag, letter case aside? The letter I also has
a dotted capital and a dotless small form. -/
def matchesLetter (letter c : Char) : Bool :=
  c.toUpper = letter || (letter = 'I' && (c = 'İ' || c = 'ı'))

/-- The characters that open the text and stand for the letters of a tag. -/
def readTag : List Char → List Char → Option (List Char × List Char)
  | [], cs => some ([], cs)
  | _ :: _, [] => none
  | letter :: letters, c :: cs =>
    if matchesLetter letter c then
      (readTag letters cs).map fun (read, rest) => (c :: read, rest)
    else none

def tags : List (List Char) := ["ERROR".toList, "WARNING".toList, "INFO".toList]

/-- The tag that opens the text after white space, as it is written there; it must end where its
word ends. -/
def leadingTag (cs : List Char) : Option (List Char) :=
  tags.findSome? fun tag =>
    match readTag tag (cs.dropWhile isBlank) with
    | some (read, []) => some read
    | some (read, c :: _) => if isWordChar c then none else some read
    | none => none

end Diagnostic

/-- The kind that the leading tag of a diagnostic names; a diagnostic without a tag is an error. -/
def diagnosticKind (text : String) : Except Fault AnnotationKind :=
  match Diagnostic.leadingTag text.toList with
  | none => .ok .error
  | some tag => AnnotationKind.ofName (toLower (String.ofList tag))

/-- The mark that a diagnostic makes on the row before its line, of the given kind or else of the
kind that its tag names; line zero and a missing locator make none. -/
def toAnnotation (text : String) (kind : Option AnnotationKind) :
    Except Fault (Option Annotation) := do
  match ← Diagnostic.findLocator text with
  | none => pure none
  | some (line, _) =>
    if line < 1 then pure none
    else
      let k ← match kind with
        | some k => pure k
        | none => diagnosticKind text
      pure (some ⟨line - 1, k, text⟩)

end Playground

import Playground.Value.Basic

/-!
# Problems with requests

* `Http.Problem` — what is wrong with the body, the query or the path of a request.
* `Http.Problem.toValue` — a problem as answers report it.
-/

namespace Playground.Http

/-- What is wrong with a request. -/
inductive Problem where
  /-- The body is no JSON text; it breaks off at a position. -/
  | notJson (position : Nat)
  | missingBody
  | notAnObject
  | missingField (field : String)
  | notText (field : String)
  | emptyText (field : String)
  | unknownMode
  | unknownOutput
  /-- The value might stand for a truth value, but does not. -/
  | unclearBool
  | notBool
  | notAnInteger
  /-- The path holds a number that is too long. -/
  | longInteger
  deriving DecidableEq, Repr, Inhabited

namespace Problem

def kind : Problem → String
  | notJson _ => "json_invalid"
  | missingBody | missingField _ => "missing"
  | notAnObject => "model_attributes_type"
  | notText _ => "string_type"
  | emptyText _ => "string_too_short"
  | unknownMode | unknownOutput => "enum"
  | unclearBool => "bool_parsing"
  | notBool => "bool_type"
  | notAnInteger => "int_parsing"
  | longInteger => "int_parsing_size"

def message : Problem → String
  | notJson _ => "JSON decode error"
  | missingBody | missingField _ => "Field required"
  | notAnObject => "Input should be a valid dictionary or object to extract fields from"
  | notText _ => "Input should be a valid string"
  | emptyText _ => "String should have at least 1 character"
  | unknownMode => "Input should be 'auto', 'manual' or 'decompile'"
  | unknownOutput => "Input should be 'text' or 'binary'"
  | unclearBool => "Input should be a valid boolean, unable to interpret input"
  | notBool => "Input should be a valid boolean"
  | notAnInteger => "Input should be a valid integer, unable to parse string as an integer"
  | longInteger => "Unable to parse input string as an integer, exceeded maximum size"

def place : Problem → List Value
  | notJson position => [.str "body", .int position]
  | missingBody | notAnObject => [.str "body"]
  | missingField field | notText field | emptyText field => [.str "body", .str field]
  | unknownMode => [.str "body", .str "mode"]
  | unclearBool | notBool => [.str "body", .str "value"]
  | unknownOutput => [.str "query", .str "type"]
  | notAnInteger | longInteger => [.str "path", .str "key"]

def toValue (p : Problem) : Value :=
  .record [("type", .str p.kind), ("loc", .list p.place), ("msg", .str p.message)]

end Problem

end Playground.Http

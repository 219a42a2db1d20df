import Mathlib.Data.List.Basic

/-!
# JSON values

What a standard parser makes of a document: names and texts decoded, a number by its text, and
the members of an object in their order. A name that stands twice means its last member
(`Json.get`).
-/

namespace Portus.Lib

inductive Json where
  | null
  | bool (b : Bool)
  | number (text : String)
  | string (text : String)
  | array (elements : List Json)
  | object (members : List (String × Json))

namespace Json

def asStr : Json → Option String
  | .string text => some text
  | _ => none

def texts : List Json → List String := List.filterMap asStr

def get (name : String) : Json → Option Json
  | .object members => (members.reverse.find? (·.1 == name)).map (·.2)
  | _ => none

end Json

end Portus.Lib

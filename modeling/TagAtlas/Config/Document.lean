import TagAtlas.Config.Value
import TagAtlas.Json.Basic

/-!
# Settings in JSON

A document is a value of a setting. Of equal names in an object the last counts. Here every part of
the document is read, so none may be one to pass over, and its nesting has a limit.
-/

namespace TagAtlas.ConfigValue

/-- Arrays and objects that may lie in one another. -/
def nestingLimit : Nat := 127

mutual
/-- The value that a document gives when it nests no deeper than some levels. -/
def ofJson? (levels : Nat) : Json → Option ConfigValue
  | .null => some .nothing
  | .skipped => none
  | .bool b => some (.flag b)
  | .number (.whole n) => some (.whole n)
  | .number (.real x) => some (.real x)
  | .string s => some (.text s)
  | .array items =>
    match levels with
    | 0 => none
    | levels + 1 => (ofItems? levels items).map .list
  | .object members =>
    match levels with
    | 0 => none
    | levels + 1 => (ofMembers? levels [] members).map .table

def ofItems? (levels : Nat) : List Json → Option (List ConfigValue)
  | [] => some []
  | v :: rest => do
    let v ← ofJson? levels v
    let rest ← ofItems? levels rest
    pure (v :: rest)

def ofMembers? (levels : Nat) (entries : List (String × ConfigValue)) :
    List (String × Json) → Option (List (String × ConfigValue))
  | [] => some entries
  | (name, v) :: rest => do
    let v ← ofJson? levels v
    ofMembers? levels (setEntry name v entries) rest
end

def tableOfJson? (v : Json) : Option (List (String × ConfigValue)) :=
  match ofJson? nestingLimit v with
  | some (.table entries) => some entries
  | _ => none

end TagAtlas.ConfigValue

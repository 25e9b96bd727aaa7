/-!
# JSON values

A value keeps the order of its object members and every repetition among them: what a repeated
name means is for the reader of a document to decide.
-/

namespace TagAtlas

/-- A number is whole when it is written without point and exponent and fits in 64 bits. -/
inductive Json.Number where
  | whole (value : Int)
  | real (value : Float)

inductive Json where
  | null
  /-- A value that can be passed over but not read: a number that is too large, a string with half
  of a pair of code units, an object with such a name. -/
  | skipped
  | bool (value : Bool)
  | number (value : Json.Number)
  | string (text : String)
  | array (items : List Json)
  | object (members : List (String × Json))

namespace Json

instance : Inhabited Json := ⟨.null⟩

def ofNat (n : Nat) : Json := .number (.whole n)

def ofFloat (x : Float) : Json := .number (.real x)

def ofStrings (texts : List String) : Json := .array (texts.map .string)

def Number.toFloat : Number → Float
  | .whole n => Float.ofInt n
  | .real x => x

end Json

end TagAtlas

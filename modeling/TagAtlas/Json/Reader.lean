import TagAtlas.Json.Token

/-!
# Reading JSON

Tokens are put together one by one on a stack of the arrays and objects that are still open. A
document is one value with nothing after it. How deep it nests does not matter: the records that are
read from documents nest only a few levels, and what they pass over may nest as it likes.
-/

namespace TagAtlas.Json

/-- An array or object that is still open; what it holds so far is listed last first. An object has
no members any more once a name in it spells no text. -/
inductive Open where
  | array (items : List Json)
  | object (members? : Option (List (String × Json))) (key : String)

inductive Wanted where
  | value
  /-- A value, or the end of the array just opened. -/
  | firstItem
  /-- A member name, or the end of the object just opened. -/
  | firstKey
  | key
  | colon
  | separator
  | nothing

structure Partial where
  wanted : Wanted
  stack : List Open
  result : Json

def Partial.finish (v : Json) : List Open → Partial
  | [] => ⟨.nothing, [], v⟩
  | .array items :: rest => ⟨.separator, .array (v :: items) :: rest, .null⟩
  | .object members? key :: rest =>
    ⟨.separator, .object (members?.map ((key, v) :: ·)) key :: rest, .null⟩

def Partial.step (p : Partial) (t : Token) : Option Partial :=
  match p.wanted, t, p.stack with
  | .value, .value v, stack | .firstItem, .value v, stack => some (.finish v stack)
  | .value, .brokenText, stack | .firstItem, .brokenText, stack => some (.finish .skipped stack)
  | .value, .openArray, stack | .firstItem, .openArray, stack =>
    some ⟨.firstItem, .array [] :: stack, .null⟩
  | .value, .openObject, stack | .firstItem, .openObject, stack =>
    some ⟨.firstKey, .object (some []) "" :: stack, .null⟩
  | .firstItem, .closeArray, .array items :: rest
  | .separator, .closeArray, .array items :: rest => some (.finish (.array items.reverse) rest)
  | .firstKey, .closeObject, .object members? _ :: rest
  | .separator, .closeObject, .object members? _ :: rest =>
    some (.finish ((members?.map fun members => .object members.reverse).getD .skipped) rest)
  | .separator, .comma, .array items :: rest => some ⟨.value, .array items :: rest, .null⟩
  | .separator, .comma, .object members? key :: rest =>
    some ⟨.key, .object members? key :: rest, .null⟩
  | .firstKey, .value (.string s), .object members? _ :: rest
  | .key, .value (.string s), .object members? _ :: rest =>
    some ⟨.colon, .object members? s :: rest, .null⟩
  | .firstKey, .brokenText, .object _ _ :: rest | .key, .brokenText, .object _ _ :: rest =>
    some ⟨.colon, .object none "" :: rest, .null⟩
  | .colon, .colon, stack => some ⟨.value, stack, .null⟩
  | _, _, _ => none

def ofTokens? (tokens : List Token) : Option Json :=
  match tokens.foldlM Partial.step ⟨.value, [], .null⟩ with
  | some ⟨.nothing, _, result⟩ => some result
  | _ => none

def parse? (text : String) : Option Json := (tokens? text.toList).bind ofTokens?

def parseBytes? (bytes : ByteArray) : Option Json := (String.fromUTF8? bytes).bind parse?

end TagAtlas.Json

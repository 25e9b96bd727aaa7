import TagAtlas.Decimal.Shortest
import TagAtlas.Json.Basic

/-!
# Writing JSON

Two layouts: compact without any space, and indented by two spaces a level with empty arrays and
objects closed at once. Object members come in the order they are listed.
-/

namespace TagAtlas.Json

/-- Where a real number changes to exponent form: it is written with a point when the power of
ten of its first digit lies from `least` up to but not including `limit`. -/
structure PointRange where
  least : Int
  limit : Int

/-- Real numbers in documents: positional from `0.00001` up to below `1e16`. -/
def pointRange : PointRange := ⟨-5, 16⟩

/-- The decimal `d * 10 ^ e` in positional form, with at least one digit after the point. -/
def positional (ds : List Char) (e : Int) : String :=
  let place : Int := ds.length + e
  if 0 ≤ e then String.ofList (ds ++ List.replicate e.toNat '0') ++ ".0"
  else if 0 < place then
    String.ofList (ds.take place.toNat) ++ "." ++ String.ofList (ds.drop place.toNat)
  else "0." ++ String.ofList (List.replicate (-place).toNat '0' ++ ds)

/-- The decimal `d * 10 ^ e` with one digit before the point and a signed exponent. -/
def scientific (ds : List Char) (e : Int) : String :=
  let power : Int := ds.length + e - 1
  let mark := if power < 0 then "e-" else "e+"
  let fraction := if ds.length ≤ 1 then "" else "." ++ String.ofList (ds.drop 1)
  String.ofList (ds.take 1) ++ fraction ++ mark ++ String.ofList (Decimal.digits power.natAbs)

/-- A real number as the shortest decimal that reads back; `null` when it is not finite. -/
def realText (x : Float) : String :=
  match Decimal.View.ofFloat x with
  | .finite negative m q =>
    let sign := if negative then "-" else ""
    if m = 0 then sign ++ "0.0"
    else
      let (d, e) := Decimal.shortest m q
      let ds := Decimal.digits d
      let power : Int := ds.length + e - 1
      if pointRange.least ≤ power && power < pointRange.limit then sign ++ positional ds e
      else sign ++ scientific ds e
  | _ => "null"

def Number.text : Number → String
  | .whole n => if n < 0 then "-" ++ Nat.repr n.natAbs else Nat.repr n.natAbs
  | .real x => realText x

/-- The hexadecimal digit of a value below 16, in lower case. -/
def hexDigit (n : Nat) : Char := Nat.digitChar n

/-- A character as it stands between the quotes of a string. -/
def escapeChar (c : Char) : List Char :=
  if c = '\x22' then ['\\', '\x22']
  else if c = '\\' then ['\\', '\\']
  else if c = '\n' then ['\\', 'n']
  else if c = '\r' then ['\\', 'r']
  else if c = '\t' then ['\\', 't']
  else if c.toNat = 8 then ['\\', 'b']
  else if c.toNat = 12 then ['\\', 'f']
  else if c.toNat < 32 then ['\\', 'u', '0', '0', hexDigit (c.toNat / 16), hexDigit (c.toNat % 16)]
  else [c]

/-- A text between quotes, with quotes, backslashes and control characters escaped. -/
def quoted (s : String) : String :=
  String.ofList ('\x22' :: s.toList.flatMap escapeChar ++ ['\x22'])

mutual
def compact : Json → String
  | .null | .skipped => "null"
  | .bool b => if b then "true" else "false"
  | .number n => n.text
  | .string s => quoted s
  | .array items => "[" ++ compactItems items ++ "]"
  | .object members => "\x7b" ++ compactMembers members ++ "\x7d"

def compactItems : List Json → String
  | [] => ""
  | [v] => compact v
  | v :: rest => compact v ++ "," ++ compactItems rest

def compactMembers : List (String × Json) → String
  | [] => ""
  | [(k, v)] => quoted k ++ ":" ++ compact v
  | (k, v) :: rest => quoted k ++ ":" ++ compact v ++ "," ++ compactMembers rest
end

def lineStart (level : Nat) : String :=
  String.ofList ('\n' :: List.replicate (2 * level) ' ')

mutual
/-- A document at a nesting level; its first line is not indented. -/
def indented (level : Nat) : Json → String
  | .null | .skipped => "null"
  | .bool b => if b then "true" else "false"
  | .number n => n.text
  | .string s => quoted s
  | .array [] => "[]"
  | .array (v :: rest) =>
    "[" ++ indentedItems (level + 1) (v :: rest) ++ lineStart level ++ "]"
  | .object [] => "\x7b\x7d"
  | .object (m :: rest) =>
    "\x7b" ++ indentedMembers (level + 1) (m :: rest) ++ lineStart level ++ "\x7d"

def indentedItems (level : Nat) : List Json → String
  | [] => ""
  | [v] => lineStart level ++ indented level v
  | v :: rest => lineStart level ++ indented level v ++ "," ++ indentedItems level rest

def indentedMembers (level : Nat) : List (String × Json) → String
  | [] => ""
  | [(k, v)] => lineStart level ++ quoted k ++ ": " ++ indented level v
  | (k, v) :: rest =>
    lineStart level ++ quoted k ++ ": " ++ indented level v ++ "," ++ indentedMembers level rest
end

def pretty (v : Json) : String := indented 0 v

end TagAtlas.Json

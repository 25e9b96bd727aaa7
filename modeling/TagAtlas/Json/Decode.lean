import TagAtlas.Dict
import TagAtlas.Json.Basic

/-!
# Taking values out of documents

Readers of plain values, and of records. A record is an object in which no field name is
repeated, or an array that lists the fields in their order; unknown names are ignored.
-/

namespace TagAtlas.Json

variable {α : Type}

def string? : Json → Option String
  | .string s => some s
  | _ => none

def bool? : Json → Option Bool
  | .bool b => some b
  | _ => none

def nat? (bound : Nat) : Json → Option Nat
  | .number (.whole n) => if 0 ≤ n && n < bound then some n.toNat else none
  | _ => none

def word32? : Json → Option Nat := nat? 0x100000000

def word64? : Json → Option Nat := nat? 0x10000000000000000

def float? : Json → Option Float
  | .number n => some n.toFloat
  | _ => none

def list? (read : Json → Option α) : Json → Option (List α)
  | .array items => items.mapM read
  | _ => none

/-- An object whose members are values of one kind; the last of equal names wins. -/
def dict? (read : Json → Option α) : Json → Option (Dict α)
  | .object members => (members.mapM fun m => (read m.2).map (m.1, ·)).map Dict.ofList
  | _ => none

/-- One of some named choices: its name, or an object with that name and `null`. -/
def choice? (choices : List (String × α)) : Json → Option α
  | .string s => choices.lookup s
  | .object [(s, .null)] => choices.lookup s
  | _ => none

structure Record where
  fields : List (String × Json)
  /-- Whether the fields were listed without names; then only the last ones may lack. -/
  listed : Bool

def record? (names : List String) : Json → Option Record
  | .object members =>
    if names.all fun n => (members.filter (·.1 = n)).length ≤ 1 then some ⟨members, false⟩
    else none
  | .array items =>
    if items.length ≤ names.length then some ⟨names.zip items, true⟩ else none
  | _ => none

namespace Record

def required (r : Record) (name : String) (read : Json → Option α) : Option α :=
  (r.fields.lookup name).bind read

/-- A field that takes a default when it is not there. -/
def defaulted (r : Record) (name : String) (default : α) (read : Json → Option α) : Option α :=
  match r.fields.lookup name with
  | none => some default
  | some v => read v

def optional (r : Record) (name : String) (read : Json → Option α) : Option (Option α) :=
  match r.fields.lookup name with
  | none => some none
  | some .null => some none
  | some v => (read v).map some

/-- A field that may be `null`, and absent unless the fields are listed without names. -/
def nullable (r : Record) (name : String) (read : Json → Option α) : Option (Option α) :=
  match r.fields.lookup name with
  | none => if r.listed then none else some none
  | some .null => some none
  | some v => (read v).map some

end Record

/-- A field of a document that is written only when there is a value. -/
def field? (name : String) (write : α → Json) : Option α → List (String × Json)
  | none => []
  | some v => [(name, write v)]

def ofDict (write : α → Json) (d : Dict α) : Json :=
  .object (d.entries.map fun e => (e.1, write e.2))

end TagAtlas.Json

import TagAtlas.Toml.Scalar
import TagAtlas.Toml.Token

/-!
# Documents in TOML

A document is read token by token. Keys are set in the table whose header came last; no key and no
table may be defined twice.
-/

namespace TagAtlas.Toml

inductive Origin where
  | implied
  | header
  | dotted
  deriving DecidableEq, Repr

/-- A part of a document that is being read. -/
inductive Node where
  | leaf (value : ConfigValue)
  | table (origin : Origin) (entries : List (String × Node))
  | tables (elements : List (List (String × Node)))

abbrev Entries := List (String × Node)

namespace Node

def setEntry (key : String) (n : Node) : Entries → Entries
  | [] => [(key, n)]
  | e :: rest => if e.1 = key then (key, n) :: rest else e :: setEntry key n rest

/-- Changes the table under a key, or the last of its tables. -/
def inside (key : String) (f : Entries → Option Entries) (es : Entries) : Option Entries :=
  match es.lookup key with
  | none => (f []).map fun sub => setEntry key (.table .implied sub) es
  | some (.table origin sub) => (f sub).map fun sub => setEntry key (.table origin sub) es
  | some (.tables (last :: others)) =>
    (f last).map fun last => setEntry key (.tables (last :: others)) es
  | _ => none

def openTable : List String → Entries → Option Entries
  | [], _ => none
  | [key], es =>
    match es.lookup key with
    | none => some (setEntry key (.table .header []) es)
    | some (.table .implied sub) => some (setEntry key (.table .header sub) es)
    | _ => none
  | key :: rest, es => inside key (openTable rest) es

def openElement : List String → Entries → Option Entries
  | [], _ => none
  | [key], es =>
    match es.lookup key with
    | none => some (setEntry key (.tables [[]]) es)
    | some (.tables elements) => some (setEntry key (.tables ([] :: elements)) es)
    | _ => none
  | key :: rest, es => inside key (openElement rest) es

def assign (v : ConfigValue) : List String → Entries → Option Entries
  | [], _ => none
  | [key], es => if (es.lookup key).isSome then none else some (setEntry key (.leaf v) es)
  | key :: rest, es =>
    match es.lookup key with
    | none => (assign v rest []).map fun sub => setEntry key (.table .dotted sub) es
    | some (.table .header _) => none
    | some (.table origin sub) =>
      (assign v rest sub).map fun sub => setEntry key (.table origin sub) es
    | _ => none

def within (f : Entries → Option Entries) : List String → Entries → Option Entries
  | [], es => f es
  | key :: rest, es => inside key (within f rest) es

mutual
def value : Node → ConfigValue
  | .leaf v => v
  | .table _ entries => .table (values entries)
  | .tables elements => .list (elementValues elements).reverse

def values : List (String × Node) → List (String × ConfigValue)
  | [] => []
  | (key, n) :: rest => (key, n.value) :: values rest

def elementValues : List (List (String × Node)) → List ConfigValue
  | [] => []
  | es :: rest => .table (values es) :: elementValues rest
end

end Node

inductive Wanted where
  | statement
  | header
  | headerKey (isElement : Bool)
  | headerMark (isElement : Bool)
  | headerClose
  | lineEnd
  | key
  | keyMark
  | firstKey
  | value
  | item
  | separator
  deriving DecidableEq, Repr

/-- An array or a table within a line that is still open. -/
inductive Open where
  | array (items : List ConfigValue)
  /-- What was set, and the key that waits for its value. -/
  | table (entries : Entries) (path : List String)

structure Reading where
  wanted : Wanted
  opens : List Open
  /-- Parts of a key that is being read, last one first. -/
  path : List String
  /-- Parts of the key of a line that waits for its value, last one first. -/
  pending : List String
  header : List String
  root : Entries

namespace Reading

def finish (r : Reading) (v : ConfigValue) : Option Reading :=
  match r.opens with
  | [] =>
    (Node.within (Node.assign v r.pending.reverse) r.header r.root).map fun root =>
      { r with wanted := .lineEnd, pending := [], root := root }
  | .array items :: rest => some { r with wanted := .separator, opens := .array (v :: items) :: rest }
  | .table entries path :: rest =>
    (Node.assign v path.reverse entries).map fun entries =>
      { r with wanted := .separator, opens := .table entries [] :: rest }

def finishHeader (r : Reading) (isElement : Bool) : Option Reading :=
  let header := r.path.reverse
  let root? := if isElement then Node.openElement header r.root else Node.openTable header r.root
  root?.map fun root =>
    { r with wanted := .lineEnd, path := [], header := header, root := root }

def openWith (r : Reading) (o : Open) (wanted : Wanted) : Reading :=
  { r with opens := o :: r.opens, wanted := wanted }

def close (r : Reading) (mark : Char) : Option Reading :=
  match r.opens with
  | .array items :: rest =>
    if mark = ']' then finish { r with opens := rest } (.list items.reverse) else none
  | .table entries _ :: rest =>
    if mark = '\x7d' then finish { r with opens := rest } (.table (Node.values entries)) else none
  | [] => none

def isKeyPart (c : Char) : Bool := c.isAlphanum || c = '_' || c = '-'

/-- A part of a key: a name, or the dot between two names. -/
inductive KeyPart where
  | name (text : String)
  | dot
  deriving DecidableEq, Repr

def keyParts (word : List Char) : List KeyPart :=
  let rec go (name : List Char) : List Char → List KeyPart
    | [] => flush name
    | '.' :: rest => flush name ++ .dot :: go [] rest
    | c :: rest => go (c :: name) rest
  go [] word
where
  flush (name : List Char) : List KeyPart :=
    if name.isEmpty then [] else [.name (String.ofList name.reverse)]

/-- The state after the names of a key, before a mark. -/
def afterName : Wanted → Wanted
  | .header => .headerMark false
  | .headerKey isElement => .headerMark isElement
  | _ => .keyMark

def afterDot : Wanted → Option Wanted
  | .headerMark isElement => some (.headerKey isElement)
  | .keyMark => some .key
  | _ => none

def wantsName : Wanted → Bool
  | .statement | .header | .headerKey _ | .key | .firstKey => true
  | _ => false

def name (r : Reading) (text : String) : Option Reading :=
  if wantsName r.wanted then
    some { r with wanted := afterName r.wanted, path := text :: r.path }
  else none

def keyPart (r : Reading) : KeyPart → Option Reading
  | .name text => if text.toList.all isKeyPart then r.name text else none
  | .dot => (afterDot r.wanted).map fun wanted => { r with wanted := wanted }

def wantsValue : Wanted → Bool
  | .value | .item => true
  | _ => false

def equals (r : Reading) : Option Reading :=
  match r.wanted, r.opens with
  | .keyMark, .table entries _ :: rest =>
    some { r with wanted := .value, opens := .table entries r.path :: rest, path := [] }
  | .keyMark, [] => some { r with wanted := .value, pending := r.path, path := [] }
  | _, _ => none

def comma (r : Reading) : Option Reading :=
  match r.wanted, r.opens with
  | .separator, .array _ :: _ => some { r with wanted := .item }
  | .separator, .table _ _ :: _ => some { r with wanted := .firstKey }
  | _, _ => none

def openBracket (r : Reading) : Option Reading :=
  match r.wanted with
  | .statement => some { r with wanted := .header }
  | .header => some { r with wanted := .headerKey true }
  | .value | .item => some (r.openWith (.array []) .item)
  | _ => none

def closeBracket (r : Reading) : Option Reading :=
  match r.wanted with
  | .headerMark false => r.finishHeader false
  | .headerMark true => some { r with wanted := .headerClose }
  | .headerClose => r.finishHeader true
  | .item | .separator => r.close ']'
  | _ => none

def mark (r : Reading) (c : Char) : Option Reading :=
  match c with
  | '=' => r.equals
  | ',' => r.comma
  | '[' => r.openBracket
  | ']' => r.closeBracket
  | '\x7b' => if wantsValue r.wanted then some (r.openWith (.table [] []) .firstKey) else none
  | _ =>
    match r.wanted with
    | .firstKey | .separator => r.close c
    | _ => none

def line (r : Reading) : Option Reading :=
  match r.wanted with
  | .statement | .lineEnd => some { r with wanted := .statement }
  | .item | .firstKey | .separator => some r
  | _ => none

def step (r : Reading) (t : Token) : Option Reading :=
  match t with
  | .gap =>
    match r.wanted with
    | .header => some { r with wanted := .headerKey false }
    | .headerClose => none
    | _ => some r
  | .line => r.line
  | .mark c => r.mark c
  | .word text =>
    if wantsValue r.wanted then (scalar? text).bind r.finish
    else (keyParts text.toList).foldlM keyPart r
  | .string text isSingle =>
    if wantsValue r.wanted then r.finish (.text text)
    else if isSingle then r.name text
    else none

/-- The document, when there are no more tokens. -/
def entries? (r : Reading) : Option (List (String × ConfigValue)) :=
  match r.wanted with
  | .statement | .lineEnd => some (Node.values r.root)
  | _ => none

end Reading

def ofText? (text : String) : Option (List (String × ConfigValue)) := do
  let tokens ← tokens? text
  let r ← tokens.foldlM Reading.step ⟨.statement, [], [], [], [], []⟩
  r.entries?

end TagAtlas.Toml

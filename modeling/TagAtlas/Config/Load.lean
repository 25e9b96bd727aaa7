import TagAtlas.Config.Coerce
import TagAtlas.Config.Document
import TagAtlas.Json.Reader
import TagAtlas.Path
import TagAtlas.Text.Search
import TagAtlas.Text.Utf8
import TagAtlas.Toml.Document
import TagAtlas.Tree.Disk

/-!
# Loading settings

Settings come in layers: the file in the folder of the project, a file that is named, and the
environment. A later layer counts more.
-/

namespace TagAtlas

abbrev Environment := List (String × String)

namespace Settings

def fileName : String := "kthulu.toml"

/-- What the names of variables with settings begin with, in any case. -/
def variableLead : String := "kthulu__"

def listKey : String := "analyzer.ignore_patterns"

/-- The keys of a path of keys with dots; a text that is none is a single key. -/
def keysOf (text : String) : List String :=
  let keys := Text.splitOn '.' text
  let isKey (k : String) : Bool := k ≠ "" && k.toList.all Toml.Reading.isKeyPart
  if keys.all isKey then keys else [text]

def addLayer (root : ConfigValue) (entries : List (String × ConfigValue)) : ConfigValue :=
  entries.foldl (fun root e => root.setAt e.2 (keysOf e.1)) root

/-- The settings file that a path leads to, or that it leads to with the extension of such a
file. -/
def fileAt? (d : Disk) (path : String) : Option (String × StoredFile) :=
  match d.file? path with
  | some f => some (path, f)
  | none => (d.file? (path ++ ".toml")).map fun f => (path ++ ".toml", f)

/-- The top table of a text in the format that an extension names. -/
def tableOf? (extension text : String) : Option (List (String × ConfigValue)) :=
  if extension = "toml" then Toml.ofText? text
  else if extension = "json" then (Json.parse? text).bind ConfigValue.tableOfJson?
  else none

/-- The layer that a file gives, if it is well formed. The mark of byte order at its front does not
count. -/
def layerOf? (path : String) (f : StoredFile) : Option (List (String × ConfigValue)) :=
  let text := (Text.Utf8.decode f.bytes.toList).toList
  let text := if text.head?.any (·.toNat = 0xFEFF) then text.drop 1 else text
  ((Path.lastName? (Path.components path)).bind Path.extension?).bind fun extension =>
    tableOf? extension (String.ofList text)

/-- The layer of the folder of a project. Without a file there is none. -/
def projectLayer? (d : Disk) (root : Option String) : Option (List (String × ConfigValue)) :=
  match root.bind fun r => fileAt? d (Disk.join r fileName) with
  | some (path, f) => layerOf? path f
  | none => some []

def namedLayer? (d : Disk) (named : Option String) : Option (List (String × ConfigValue)) :=
  match named with
  | some path => (fileAt? d path).bind fun f => layerOf? f.1 f.2
  | none => some []

/-- Two underscores in a row stand for a dot. -/
def dotted : List Char → List Char
  | '_' :: '_' :: rest => '.' :: dotted rest
  | c :: rest => c :: dotted rest
  | [] => []

def int64? (s : List Char) : Option Int :=
  let (isNegative, ds) := Toml.signed s
  if !ds.isEmpty && ds.all Char.isDigit then
    let n : Int := Decimal.ofDigits ds
    (some (if isNegative then -n else n)).filter Toml.isWord
  else none

/-- A floating-point number; digits may lack on one side of the point. -/
def float? (s : List Char) : Option Float :=
  let (isNegative, rest) := Toml.signed s
  let sign (x : Float) : Float := if isNegative then -x else x
  let word := rest.map Char.toLower
  if word = "inf".toList || word = "infinity".toList then some (sign (1.0 / 0.0))
  else if word = "nan".toList then some (0.0 / 0.0)
  else
    let (mantissa, power?) := Toml.cutAt ['e', 'E'] rest
    let (front, fraction?) := Toml.cutAt ['.'] mantissa
    let ds := front ++ fraction?.getD []
    let power := match power? with
      | none => some (0 : Int)
      | some p =>
        let (isNegative, p) := Toml.signed p
        if !p.isEmpty && p.all Char.isDigit then
          some (if isNegative then -(Decimal.ofDigits p : Int) else Decimal.ofDigits p)
        else none
    if !ds.isEmpty && ds.all Char.isDigit then
      power.map fun e => sign (Toml.nearest (Decimal.ofDigits ds) (e - (fraction?.getD []).length))
    else none

def valueOf (key text : String) : ConfigValue :=
  let lower := Text.lower text
  if lower = "true" then .flag true
  else if lower = "false" then .flag false
  else match int64? text.toList with
    | some n => .whole n
    | none =>
      match float? text.toList with
      | some x => .real x
      | none =>
        if key = listKey then .list ((Text.splitOn ',' text).map .text) else .text text

/-- The setting that a variable gives, if it gives one. -/
def setting? (v : String × String) : Option (String × ConfigValue) :=
  (Text.after? variableLead.toList (Text.lower v.1).toList).map fun rest =>
    let key := String.ofList (dotted rest)
    (key, valueOf key v.2)

def environmentLayer (env : Environment) : List (String × ConfigValue) := env.filterMap setting?

def layers? (d : Disk) (root named : Option String) (env : Environment) : Option ConfigValue := do
  let project ← projectLayer? d root
  let named ← namedLayer? d named
  pure (addLayer (addLayer (addLayer (.table []) project) named) (environmentLayer env))

/-- Loads the settings for a project and refuses those that make no sense. -/
def load (d : Disk) (root named : Option String) (env : Environment) : Except Failure Settings :=
  match named.filter fun path => (d.locate? path).isNone with
  | some path => .error (.notFound ("config file " ++ path))
  | none =>
    match layers? d root named env with
    | none => .error (.invalidInput "building configuration: malformed file")
    | some v =>
      match ofValue? v with
      | none => .error (.invalidInput "deserializing configuration: unfit value")
      | some s => s.validate.map fun _ => s

end Settings

end TagAtlas

import TagAtlas.Config.Basic
import TagAtlas.Config.Value
import TagAtlas.Decimal.Shortest
import TagAtlas.Decimal.View
import TagAtlas.Text.Case

/-!
# Settings out of values

The values of layers are made to fit the types of the settings: words and numbers stand for truth
values, truth values and texts for numbers, and numbers and truth values for texts.
-/

namespace TagAtlas

namespace ConfigValue

def word? (s : String) : Option Bool :=
  let lower := Text.lower s
  if ["true", "on", "yes"].contains lower then some true
  else if ["false", "off", "no"].contains lower then some false
  else none

def bool? : ConfigValue → Option Bool
  | .flag b => some b
  | .whole n => some (n ≠ 0)
  | .real x => some (x != 0.0)
  | .text s => if s = "1" then some true else if s = "0" then some false else word? s
  | _ => none

def wordLimit : Nat := 0xFFFFFFFFFFFFFFFF

/-- The nearest natural number of 64 bits; a half goes away from zero. -/
def roundedWord (x : Float) : Nat :=
  match Decimal.View.ofFloat x with
  | .notANumber | .infinite true | .finite true _ _ => 0
  | .infinite false => wordLimit
  | .finite false m q =>
    let den := Nat.pow 2 (-q).toNat
    min wordLimit ((2 * (m * Nat.pow 2 q.toNat) + den) / (2 * den))

def digitsWord? (s : List Char) : Option Nat :=
  let ds := if s.head? = some '+' then s.drop 1 else s
  if !ds.isEmpty && ds.all Char.isDigit then some (Decimal.ofDigits ds) else none

def word64? : ConfigValue → Option Nat
  | .flag b => some (if b then 1 else 0)
  | .whole n => if 0 ≤ n && n ≤ wordLimit then some n.toNat else none
  | .real x => some (roundedWord x)
  | .text s =>
    match word? s with
    | some b => some (if b then 1 else 0)
    | none => (digitsWord? s.toList).filter (· ≤ wordLimit)
  | _ => none

/-- The digits of `d * 10 ^ e`, with a point where one is needed. -/
def plainDigits (ds : List Char) (e : Int) : List Char :=
  let place : Int := ds.length + e
  if 0 ≤ e then ds ++ List.replicate e.toNat '0'
  else if 0 < place then ds.take place.toNat ++ '.' :: ds.drop place.toNat
  else '0' :: '.' :: List.replicate (-place).toNat '0' ++ ds

/-- A floating-point number as a text without exponent, in the fewest digits. -/
def realText (x : Float) : String :=
  match Decimal.View.ofFloat x with
  | .notANumber => "NaN"
  | .infinite isNegative => if isNegative then "-inf" else "inf"
  | .finite isNegative m q =>
    let sign := if isNegative then "-" else ""
    if m = 0 then sign ++ "0"
    else
      let (d, e) := Decimal.shortest m q
      sign ++ String.ofList (plainDigits (Decimal.digits d) e)

def string? : ConfigValue → Option String
  | .flag b => some (if b then "true" else "false")
  | .whole n => some (if n < 0 then "-" ++ Nat.repr n.natAbs else Nat.repr n.natAbs)
  | .real x => some (realText x)
  | .text s => some s
  | _ => none

def optionalString? : ConfigValue → Option (Option String)
  | .nothing => some none
  | v => v.string?.map some

def strings? : ConfigValue → Option (List String)
  | .list items => items.mapM string?
  | _ => none

/-- The fields of a record, by name or in their order. -/
def fields? (names : List String) : ConfigValue → Option (List (String × ConfigValue))
  | .table entries => some entries
  | .list items => some (names.zip items)
  | _ => none

/-- A field, or its default when it is not set. -/
def field {α : Type} (fields : List (String × ConfigValue)) (name : String) (default : α)
    (read : ConfigValue → Option α) : Option α :=
  match fields.lookup name with
  | none => some default
  | some v => read v

end ConfigValue

open ConfigValue

/-- The settings of surveys that a value gives; what it does not name is standard. -/
def SurveySettings.ofValue? (v : ConfigValue) : Option SurveySettings := do
  let fields ← v.fields? fieldNames
  let d := standard
  let cacheEnabled ← field fields "cache_enabled" d.cacheEnabled bool?
  let cacheSeconds ← field fields "cache_ttl_secs" d.cacheSeconds word64?
  let cacheEntries ← field fields "cache_max_entries" d.cacheEntries word64?
  let findCycles ← field fields "circular_detection" d.findCycles bool?
  let findPatterns ← field fields "semantic_analysis" d.findPatterns bool?
  let maxFileSize ← field fields "max_file_size" d.maxFileSize word64?
  let ignorePatterns ← field fields "ignore_patterns" d.ignorePatterns strings?
  let extension ← field fields "extension" d.extension string?
  let modulePath ← field fields "module_path" d.modulePath optionalString?
  let workers ← field fields "workers" d.workers word64?
  pure ⟨cacheEnabled, cacheSeconds, cacheEntries, findCycles, findPatterns, maxFileSize,
    ignorePatterns, extension, modulePath, workers⟩

/-- The settings of access control that a value gives; what it does not name is standard. -/
def AccessSettings.ofValue? (v : ConfigValue) : Option AccessSettings := do
  let fields ← v.fields? fieldNames
  let d := standard
  let cacheEnabled ← field fields "cache_enabled" d.cacheEnabled bool?
  let cacheSeconds ← field fields "cache_ttl_secs" d.cacheSeconds word64?
  let cacheEntries ← field fields "cache_max_entries" d.cacheEntries word64?
  let auditEnabled ← field fields "audit_enabled" d.auditEnabled bool?
  let strict ← field fields "strict_mode" d.strict bool?
  let defaultDeny ← field fields "default_deny" d.defaultDeny bool?
  let hierarchical ← field fields "hierarchical_roles" d.hierarchical bool?
  let contextual ← field fields "contextual_security" d.contextual bool?
  pure ⟨cacheEnabled, cacheSeconds, cacheEntries, auditEnabled, strict, defaultDeny, hierarchical,
    contextual⟩

/-- All settings that a value gives; what it does not name is standard. -/
def Settings.ofValue? (v : ConfigValue) : Option Settings := do
  let fields ← v.fields? ["analyzer", "authz"]
  let survey ← field fields "analyzer" .standard SurveySettings.ofValue?
  let access ← field fields "authz" .standard AccessSettings.ofValue?
  pure ⟨survey, access⟩

end TagAtlas

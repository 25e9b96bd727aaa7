import TagAtlas.Failure
import TagAtlas.Json.Decode
import TagAtlas.Text.Blank
import TagAtlas.Time.Basic

/-!
# Settings

What can be set for surveys and for access control, with the values that hold when nothing is set.
-/

namespace TagAtlas

structure SurveySettings where
  cacheEnabled : Bool
  cacheSeconds : Nat
  cacheEntries : Nat
  findCycles : Bool
  findPatterns : Bool
  maxFileSize : Nat
  /-- Patterns of base names, and parts of paths, that are passed over. -/
  ignorePatterns : List String
  extension : String
  /-- Import path of the project; otherwise that of `go.mod` counts. -/
  modulePath : Option String
  /-- Number of workers; 0 leaves it to the machine. -/
  workers : Nat
  deriving DecidableEq, Repr

structure AccessSettings where
  cacheEnabled : Bool
  cacheSeconds : Nat
  cacheEntries : Nat
  auditEnabled : Bool
  /-- Whether requests with blank fields are refused. -/
  strict : Bool
  /-- Whether a request is denied when no policy matches it. -/
  defaultDeny : Bool
  /-- Whether a role brings those it inherits from. -/
  hierarchical : Bool
  /-- Whether conditions on the context count. -/
  contextual : Bool
  deriving DecidableEq, Repr

structure Settings where
  survey : SurveySettings
  access : AccessSettings
  deriving DecidableEq, Repr

namespace SurveySettings

def standard : SurveySettings where
  cacheEnabled := true
  cacheSeconds := 300
  cacheEntries := 10000
  findCycles := true
  findPatterns := true
  maxFileSize := 1048576
  ignorePatterns := ["vendor", ".git", "testdata", "fixtures", "*_test.go", "node_modules"]
  extension := "go"
  modulePath := none
  workers := 0

def cacheLifetime (s : SurveySettings) : Nat := s.cacheSeconds * Time.second

/-- The extension without blanks and leading dots. -/
def bareExtension (s : SurveySettings) : String :=
  String.ofList ((Text.trim s.extension.toList).dropWhile (· = '.'))

def validate (s : SurveySettings) : Except Failure Unit :=
  if s.cacheEnabled && s.cacheSeconds = 0 then
    .error (.invalidInput "analyzer.cache_ttl_secs must be > 0 when the cache is enabled")
  else if s.cacheEnabled && s.cacheEntries = 0 then
    .error (.invalidInput "analyzer.cache_max_entries must be > 0 when the cache is enabled")
  else if s.maxFileSize = 0 then .error (.invalidInput "analyzer.max_file_size must be > 0")
  else if s.bareExtension = "" then .error (.invalidInput "analyzer.extension cannot be empty")
  else .ok ()

def fieldNames : List String :=
  ["cache_enabled", "cache_ttl_secs", "cache_max_entries", "circular_detection",
    "semantic_analysis", "max_file_size", "ignore_patterns", "extension", "module_path", "workers"]

def toJson (s : SurveySettings) : Json :=
  .object [("cache_enabled", .bool s.cacheEnabled), ("cache_ttl_secs", .ofNat s.cacheSeconds),
    ("cache_max_entries", .ofNat s.cacheEntries), ("circular_detection", .bool s.findCycles),
    ("semantic_analysis", .bool s.findPatterns), ("max_file_size", .ofNat s.maxFileSize),
    ("ignore_patterns", .ofStrings s.ignorePatterns), ("extension", .string s.extension),
    ("module_path", (s.modulePath.map Json.string).getD .null), ("workers", .ofNat s.workers)]

/-- The settings that a document gives; what it does not name is standard. -/
def ofJson? (v : Json) : Option SurveySettings := do
  let r ← v.record? fieldNames
  let d := standard
  let cacheEnabled ← r.defaulted "cache_enabled" d.cacheEnabled Json.bool?
  let cacheSeconds ← r.defaulted "cache_ttl_secs" d.cacheSeconds Json.word64?
  let cacheEntries ← r.defaulted "cache_max_entries" d.cacheEntries Json.word64?
  let findCycles ← r.defaulted "circular_detection" d.findCycles Json.bool?
  let findPatterns ← r.defaulted "semantic_analysis" d.findPatterns Json.bool?
  let maxFileSize ← r.defaulted "max_file_size" d.maxFileSize Json.word64?
  let ignorePatterns ← r.defaulted "ignore_patterns" d.ignorePatterns (Json.list? Json.string?)
  let extension ← r.defaulted "extension" d.extension Json.string?
  let modulePath ← r.optional "module_path" Json.string?
  let workers ← r.defaulted "workers" d.workers Json.word64?
  pure ⟨cacheEnabled, cacheSeconds, cacheEntries, findCycles, findPatterns, maxFileSize,
    ignorePatterns, extension, modulePath, workers⟩

end SurveySettings

namespace AccessSettings

def standard : AccessSettings where
  cacheEnabled := true
  cacheSeconds := 300
  cacheEntries := 10000
  auditEnabled := true
  strict := false
  defaultDeny := true
  hierarchical := true
  contextual := true

def cacheLifetime (s : AccessSettings) : Nat := s.cacheSeconds * Time.second

def validate (s : AccessSettings) : Except Failure Unit :=
  if s.cacheEnabled && (s.cacheSeconds = 0 || s.cacheEntries = 0) then
    .error (.invalidInput "authz cache needs a positive ttl and capacity")
  else .ok ()

def fieldNames : List String :=
  ["cache_enabled", "cache_ttl_secs", "cache_max_entries", "audit_enabled", "strict_mode",
    "default_deny", "hierarchical_roles", "contextual_security"]

def toJson (s : AccessSettings) : Json :=
  .object [("cache_enabled", .bool s.cacheEnabled), ("cache_ttl_secs", .ofNat s.cacheSeconds),
    ("cache_max_entries", .ofNat s.cacheEntries), ("audit_enabled", .bool s.auditEnabled),
    ("strict_mode", .bool s.strict), ("default_deny", .bool s.defaultDeny),
    ("hierarchical_roles", .bool s.hierarchical), ("contextual_security", .bool s.contextual)]

/-- The settings that a document gives; what it does not name is standard. -/
def ofJson? (v : Json) : Option AccessSettings := do
  let r ← v.record? fieldNames
  let d := standard
  let cacheEnabled ← r.defaulted "cache_enabled" d.cacheEnabled Json.bool?
  let cacheSeconds ← r.defaulted "cache_ttl_secs" d.cacheSeconds Json.word64?
  let cacheEntries ← r.defaulted "cache_max_entries" d.cacheEntries Json.word64?
  let auditEnabled ← r.defaulted "audit_enabled" d.auditEnabled Json.bool?
  let strict ← r.defaulted "strict_mode" d.strict Json.bool?
  let defaultDeny ← r.defaulted "default_deny" d.defaultDeny Json.bool?
  let hierarchical ← r.defaulted "hierarchical_roles" d.hierarchical Json.bool?
  let contextual ← r.defaulted "contextual_security" d.contextual Json.bool?
  pure ⟨cacheEnabled, cacheSeconds, cacheEntries, auditEnabled, strict, defaultDeny, hierarchical,
    contextual⟩

end AccessSettings

namespace Settings

def standard : Settings := ⟨.standard, .standard⟩

def validate (s : Settings) : Except Failure Unit := do
  s.survey.validate
  s.access.validate

def toJson (s : Settings) : Json :=
  .object [("analyzer", s.survey.toJson), ("authz", s.access.toJson)]

/-- The settings that a document gives; what it does not name is standard. -/
def ofJson? (v : Json) : Option Settings := do
  let r ← v.record? ["analyzer", "authz"]
  let survey ← r.defaulted "analyzer" .standard SurveySettings.ofJson?
  let access ← r.defaulted "authz" .standard AccessSettings.ofJson?
  pure ⟨survey, access⟩

end Settings

end TagAtlas

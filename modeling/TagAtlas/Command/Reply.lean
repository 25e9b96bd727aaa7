import TagAtlas.Access.Document
import TagAtlas.Access.Synthesis
import TagAtlas.Atlas.Basic
import TagAtlas.Command.Basic
import TagAtlas.Config.Git
import TagAtlas.Go.ChartParser
import TagAtlas.Graph.Document
import TagAtlas.Graph.Dot
import TagAtlas.Plan.Basic
import TagAtlas.Report.Basic
import TagAtlas.Survey.Project

/-!
# Replies to commands

A command is answered from the files and the environment that it finds: by a text and a code, 0
for success, 1 for a failure and 2 for a command line that names no command.
-/

namespace TagAtlas

structure Reply where
  code : Nat
  output : String
  errors : String
  deriving DecidableEq, Repr

structure Surroundings where
  disk : Disk
  environment : Environment
  now : Time

namespace Reply

def programName : String := "kthulu"

def version : String := "0.1.0"

def usageText : String :=
  "Usage: " ++ programName ++ " [OPTIONS] <COMMAND>\n\n" ++
    "Commands: analyze, overview, modules, tags, deps, guide, graph, semantics, resolve, " ++
    "policies, help\n"

def line (text : String) : String := text ++ "\n"

def lines (texts : List String) : String := String.join (texts.map line)

abbrev Outcome (α : Type) := Except String α

/-- The outcome of a step, which says what was being done when it fails. -/
def during {α : Type} (what : String) (r : Except Failure α) : Outcome α :=
  r.mapError fun f => what ++ ": " ++ f.message

def plainly {α : Type} (r : Except Failure α) : Outcome α := r.mapError Failure.message

/-- What was being done when a survey failed. -/
def surveying (root : String) : String := "Failed to analyse " ++ root

def settings (s : Surroundings) (named root : Option String) : Outcome Settings :=
  during "Failed to load configuration" (Settings.load s.disk root named s.environment)

def survey (s : Surroundings) (c : Settings) (root : String) : Except Failure Survey :=
  let surveyor := Surveyor.new c.survey (GitConfig.excludes? s.disk s.environment)
  (surveyor.survey s.disk root false s.now).1

def report (text : String) : String := lines ((Text.lines text.toList).map String.ofList)

def document (v : Json) : String := line v.pretty

def warningLine (w : Warning) : String := "  ! " ++ w.text

def summary (v : Survey) : String :=
  lines (["Project: " ++ v.root] ++ (v.modulePath.map ("  module path: " ++ ·)).toList ++
    ["  files:        " ++ Nat.repr v.files.length,
      "  modules:      " ++ Nat.repr v.modules.length,
      "  tags:         " ++ Nat.repr v.tags.length,
      "  dependencies: " ++ Nat.repr v.dependencies.length] ++
    (if v.warnings.isEmpty then []
    else ["", "Warnings (" ++ Nat.repr v.warnings.length ++ ")"] ++ v.warnings.map warningLine))

def titled (title : String) (items : List String) : List String :=
  title :: (if items.isEmpty then ["  " ++ Report.noneText] else items)

def hundredths (x : Float) : String := Decimal.fixed 2 x

def patternLine (p : Pattern) : String :=
  "  " ++ p.name ++ " (" ++ p.kind.name ++ ", " ++ Nat.repr p.occurrences ++
    " occurrences, confidence " ++ hundredths p.confidence ++ ")"

def adviceLines (a : Advice) : List String :=
  ("  " ++ a.text) :: a.suggestions.map ("    - " ++ ·)

def insights (i : Insights) : String :=
  let m := i.projectMetrics
  lines (["Metrics",
    "  modules " ++ Nat.repr m.moduleCount ++ "  files " ++ Nat.repr m.fileCount ++ "  tags " ++
      Nat.repr m.tagCount ++ "  cycles " ++ Nat.repr m.cycleCount ++ "  max depth " ++
      Nat.repr m.depth,
    "  coverage " ++ hundredths m.coverage ++ "  quality " ++ hundredths m.quality ++
      "  complexity " ++ hundredths m.complexity, ""] ++
    titled "Patterns" (i.patterns.map patternLine) ++ [""] ++
    titled "Recommendations" (i.advice.flatMap adviceLines))

def conflictLines (c : Conflict) : List String :=
  ("  x " ++ c.message) :: c.suggestions.map ("    - " ++ ·)

/-- Advice that says whether it may be followed without asking. -/
def planAdviceLine (a : Advice) : String :=
  "  " ++ a.text ++ (if a.autoApply then " (auto)" else "")

/-- Items under a title after an empty line, unless there are none. -/
def optionalSection (title : String) (items : List String) : List String :=
  if items.isEmpty then [] else "" :: title :: items

def plan (p : Plan) : String :=
  let numbered := p.order.zipIdx.map fun e => "  " ++ Nat.repr (e.2 + 1) ++ ". " ++ e.1
  let optional := if p.optional.isEmpty then [] else ["  " ++ ", ".intercalate p.optional]
  lines (["Install order"] ++ numbered ++ optionalSection "Optional modules" optional ++
    optionalSection "Conflicts" (p.conflicts.flatMap conflictLines) ++
    p.warnings.map ("warning: " ++ ·) ++
    optionalSection "Recommendations" (p.advice.map planAdviceLine))

def policyLines (p : Policy) : List String :=
  ["  " ++ p.id ++ " " ++ p.resource ++ " [" ++ ",".intercalate p.actions ++ "] roles: " ++
    ",".intercalate p.roles] ++
  (if p.permissions.isEmpty then [] else ["    permissions: " ++ ",".intercalate p.permissions]) ++
  (p.conditions.entries.map fun e => "    when " ++ e.1 ++ "=" ++ e.2) ++
  (p.source.map ("    from " ++ ·)).toList

def roleLine (r : Role) : String :=
  "  " ++ r.id ++ " (level " ++ Nat.repr r.level ++ ")" ++
    (if r.parents.isEmpty then "" else " inherits " ++ ",".intercalate r.parents)

/-- Whether a role comes before another or in its place: by level from the top, then by id. -/
def precedes (a b : Role) : Bool := if a.level = b.level then a.id ≤ b.id else b.level < a.level

def batch (b : Batch) : String :=
  lines (titled ("Policies (" ++ Nat.repr b.policies.length ++ ")")
      (b.policies.flatMap policyLines) ++
    ["", "Roles (" ++ Nat.repr b.roles.length ++ ")"] ++
    (b.roles.mergeSort precedes).map roleLine)

def rootReport (s : Surroundings) (c : Settings) (root : String) (write : Survey → String) :
    Outcome String :=
  (plainly (survey s c root)).map fun v => report (write v)

/-- The plan for some names, with the needs that the project at a root declares. -/
def planFor (s : Surroundings) (c : Settings) (names : List String) (root : Option String) :
    Outcome Plan := do
  let rules ← match root with
    | none => pure RuleTable.standard
    | some root => (during (surveying root) (survey s c root)).map RuleTable.standard.withSurvey
  plainly (Plan.resolve rules names)

/-- The batch that the tags of a project give, if access control takes it. -/
def batchFor (s : Surroundings) (c : Settings) (root : String) : Outcome Batch := do
  let v ← during (surveying root) (survey s c root)
  let b := Batch.ofSurvey v s.now
  let core ← plainly (AccessCore.new c.access s.now)
  let _ ← during "Synthesized policies were rejected" (core.apply b s.now).1
  pure b

def rootOf? : Command → Option String
  | .analyze root _ | .overview root _ | .modules root | .tags root | .dependencies root
  | .guide root | .graph root _ | .semantics root _ | .policies root _ => some root
  | .resolve _ root _ => root

def outputOf (s : Surroundings) (c : Settings) (command : Command) : Outcome String := do
  match command with
  | .analyze root asJson =>
    let v ← during (surveying root) (survey s c root)
    pure (if asJson then line v.toText else summary v)
  | .overview root withDependencies =>
    let v ← during (surveying root) (survey s c root)
    pure (report (Report.overview v withDependencies))
  | .modules root => rootReport s c root Report.modules
  | .tags root => rootReport s c root Report.tags
  | .dependencies root => rootReport s c root Report.dependencies
  | .guide root => rootReport s c root Report.guide
  | .graph root asJson =>
    let g := c.survey.graphOf (← during (surveying root) (survey s c root))
    pure (if asJson then line g.toText else g.toDot)
  | .semantics root asJson =>
    let a := Atlas.ofSurvey c.survey (← plainly (survey s c root))
    pure (if asJson then document a.insights.toJson else insights a.insights)
  | .resolve names root asJson =>
    let p ← planFor s c names root
    pure (if asJson then document p.toJson else plan p)
  | .policies root asJson =>
    let b ← batchFor s c root
    pure (if asJson then line b.toText else batch b)

def ofStop : Command.Stop → Reply
  | .misuse => ⟨2, "", usageText⟩
  | .help => ⟨0, usageText, ""⟩
  | .version => ⟨0, line (programName ++ " " ++ version), ""⟩

def ofInvocation (s : Surroundings) (i : Command.Invocation) : Reply :=
  let outcome := do
    let c ← settings s i.config (rootOf? i.command)
    outputOf s c i.command
  match outcome with
  | .ok text => ⟨0, text, ""⟩
  | .error text => ⟨1, "", line ("Error: " ++ text)⟩

def ofArguments (s : Surroundings) (args : List String) : Reply :=
  match Command.ofArguments args (s.environment.lookup Command.configVariable) with
  | .ok i => ofInvocation s i
  | .error stop => ofStop stop

end Reply

end TagAtlas

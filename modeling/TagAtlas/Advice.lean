import TagAtlas.Dict
import TagAtlas.Json.Decode

/-!
# Advice

What an analysis recommends to the owner of a project.
-/

namespace TagAtlas

inductive Severity where
  | info
  | warning
  | error
  deriving DecidableEq, Repr

def Severity.name : Severity → String
  | .info => "info"
  | .warning => "warning"
  | .error => "error"

structure Advice where
  kind : String
  severity : Severity
  message : String
  suggestions : List String
  metadata : Dict String
  /-- Whether it may be followed without asking. -/
  autoApply : Bool
  deriving DecidableEq

namespace Advice

def text (a : Advice) : String := "[" ++ a.severity.name ++ "] " ++ a.kind ++ ": " ++ a.message

def toJson (a : Advice) : Json :=
  .object [("kind", .string a.kind), ("severity", .string a.severity.name),
    ("message", .string a.message), ("suggestions", .ofStrings a.suggestions),
    ("metadata", Json.ofDict .string a.metadata), ("auto_apply", .bool a.autoApply)]

/-- Whether a recommendation comes before another or in its place: by kind, then by message. -/
def precedes (a b : Advice) : Bool := if a.kind ≠ b.kind then a.kind < b.kind else a.message ≤ b.message

end Advice

end TagAtlas

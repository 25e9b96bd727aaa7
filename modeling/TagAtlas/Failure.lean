/-!
# Failures

What an operation reports when it gives no result, each with its one wording.
-/

namespace TagAtlas

inductive Failure where
  | io (reason : String)
  | malformedDocument (reason : String)
  | invalidInput (reason : String)
  | invalidRoot (reason : String)
  | notFound (what : String)
  | malformedSource (file : String) (line : Nat) (reason : String)
  | circularDependency (modules : List String)
  | conflict (reason : String)
  | timeout (what : String)
  | cancelled
  | internal (reason : String)
  deriving DecidableEq, Repr

namespace Failure

def message : Failure → String
  | .io reason => "IO error: " ++ reason
  | .malformedDocument reason => "Serialization error: " ++ reason
  | .invalidInput reason => "Invalid input: " ++ reason
  | .invalidRoot reason => "Invalid root: " ++ reason
  | .notFound what => "Not found: " ++ what
  | .malformedSource file line reason =>
    "Parse error in " ++ file ++ " at line " ++ Nat.repr line ++ ": " ++ reason
  | .circularDependency modules =>
    "Circular dependency detected among: " ++ ", ".intercalate modules
  | .conflict reason => "Conflict: " ++ reason
  | .timeout what => "Operation timed out: " ++ what
  | .cancelled => "Operation cancelled"
  | .internal reason => "Internal error: " ++ reason

/-- Whether a scan goes on after the failure of one file. -/
def isRecoverable : Failure → Bool
  | .malformedSource .. | .io _ => true
  | _ => false

end Failure

end TagAtlas

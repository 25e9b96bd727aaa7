import TagAtlas.Text.Blank
import TagAtlas.Text.Search

/-!
# Import paths

The module directive of a `go.mod` text gives the import path of a project. An import leads to a
module of the project when it lies under that path and ends in `modules/<name>`.
-/

namespace TagAtlas.ModulePath

/-- The path that a line names when it is a module directive. -/
def ofLine? (line : List Char) : Option String :=
  match Text.after? "module".toList (Text.trim line) with
  | some (c :: rest) =>
    if Text.isBlank c then
      let isQuote (c : Char) : Bool := c = '\x22'
      let path := ((Text.trim (c :: rest)).dropWhile isQuote).reverse.dropWhile isQuote
      if path.isEmpty then none else some (String.ofList path.reverse)
    else none
  | _ => none

/-- The path that the first module directive of a text names. -/
def ofText? (text : String) : Option String := (Text.lines text.toList).findSome? ofLine?

/-- The module that the last two segments of an import name. -/
def target? (segments : List String) : Option String :=
  match segments.reverse with
  | last :: parent :: _ => if parent = "modules" && last ≠ "" then some last else none
  | _ => none

/-- The module of the project that an import leads to. Without a module path, imports of any
project count. -/
def importTarget? (path : String) (modulePath : Option String) : Option String :=
  let segments := Text.splitOn '/' path
  match modulePath with
  | none => target? segments
  | some root =>
    match Text.after? root.toList path.toList with
    | some ('/' :: _) => target? segments
    | _ => none

end TagAtlas.ModulePath

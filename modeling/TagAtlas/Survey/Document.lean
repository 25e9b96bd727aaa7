import TagAtlas.Failure
import TagAtlas.Json.Printer
import TagAtlas.Json.Reader
import TagAtlas.Survey.Basic
import TagAtlas.Tag.Document

/-!
# Surveys in documents

Writers and readers of surveys and their parts. A field without value is left out; the list of
warnings may lack in a document that is read.
-/

namespace TagAtlas

namespace Symbol

def toJson (s : Symbol) : Json :=
  .object [("name", .string s.name), ("kind", .string s.kind.name), ("line", .ofNat s.line)]

def ofJson? (v : Json) : Option Symbol := do
  let r ← v.record? ["name", "kind", "line"]
  let name ← r.required "name" Json.string?
  let kind ← r.required "kind" (Json.choice? SymbolKind.named)
  let line ← r.required "line" Json.word32?
  pure ⟨name, kind, line⟩

end Symbol

namespace FileSummary

def toJson (f : FileSummary) : Json :=
  .object <| [("path", .string f.path), ("package_name", .string f.packageName)] ++
    Json.field? "module" .string f.moduleName ++
    [("imports", .ofStrings f.imports), ("tags", .array (f.tags.map Tag.toJson)),
      ("symbols", .array (f.symbols.map Symbol.toJson)), ("line_count", .ofNat f.lineCount),
      ("size", .ofNat f.size)]

def fieldNames : List String :=
  ["path", "package_name", "module", "imports", "tags", "symbols", "line_count", "size"]

def ofJson? (v : Json) : Option FileSummary := do
  let r ← v.record? fieldNames
  let path ← r.required "path" Json.string?
  let packageName ← r.required "package_name" Json.string?
  let moduleName ← r.optional "module" Json.string?
  let imports ← r.required "imports" (Json.list? Json.string?)
  let tags ← r.required "tags" (Json.list? Tag.ofJson?)
  let symbols ← r.required "symbols" (Json.list? Symbol.ofJson?)
  let lineCount ← r.required "line_count" Json.word64?
  let size ← r.required "size" Json.word64?
  pure ⟨path, packageName, moduleName, imports, tags, symbols, lineCount, size⟩

end FileSummary

namespace Module

def toJson (m : Module) : Json :=
  .object [("name", .string m.name), ("package_name", .string m.packageName),
    ("files", .ofStrings m.files), ("dependencies", .ofStrings m.dependencies),
    ("tags", .array (m.tags.map Tag.toJson))]

def ofJson? (v : Json) : Option Module := do
  let r ← v.record? ["name", "package_name", "files", "dependencies", "tags"]
  let name ← r.required "name" Json.string?
  let packageName ← r.required "package_name" Json.string?
  let files ← r.required "files" (Json.list? Json.string?)
  let dependencies ← r.required "dependencies" (Json.list? Json.string?)
  let tags ← r.required "tags" (Json.list? Tag.ofJson?)
  pure ⟨name, packageName, files, dependencies, tags⟩

end Module

namespace Dependency

def toJson (d : Dependency) : Json :=
  .object <| [("from", .string d.source), ("to", .string d.target),
    ("kind", .string d.kind.name)] ++ Json.field? "line" .ofNat d.line

def ofJson? (v : Json) : Option Dependency := do
  let r ← v.record? ["from", "to", "kind", "line"]
  let source ← r.required "from" Json.string?
  let target ← r.required "to" Json.string?
  let kind ← r.required "kind" (Json.choice? DependencyKind.named)
  let line ← r.optional "line" Json.word32?
  pure ⟨source, target, kind, line⟩

end Dependency

namespace Warning

def toJson (w : Warning) : Json :=
  .object <| Json.field? "path" .string w.path ++ [("message", .string w.message)]

def ofJson? (v : Json) : Option Warning := do
  let r ← v.record? ["path", "message"]
  let path ← r.optional "path" Json.string?
  let message ← r.required "message" Json.string?
  pure ⟨path, message⟩

end Warning

namespace Stamp

def toJson (s : Stamp) : Json := .string s.text

def ofJson? (v : Json) : Option Stamp := v.string?.bind ofText?

end Stamp

namespace Survey

def toJson (s : Survey) : Json :=
  .object <| [("root", .string s.root)] ++ Json.field? "module_path" .string s.modulePath ++
    [("modules", .array (s.modules.map Module.toJson)),
      ("dependencies", .array (s.dependencies.map Dependency.toJson)),
      ("tags", .array (s.tags.map Tag.toJson)),
      ("files", .array (s.files.map FileSummary.toJson)),
      ("warnings", .array (s.warnings.map Warning.toJson)),
      ("scanned_at", s.takenAt.toJson)]

def fieldNames : List String :=
  ["root", "module_path", "modules", "dependencies", "tags", "files", "warnings", "scanned_at"]

def ofJson? (v : Json) : Option Survey := do
  let r ← v.record? fieldNames
  let root ← r.required "root" Json.string?
  let modulePath ← r.optional "module_path" Json.string?
  let modules ← r.required "modules" (Json.list? Module.ofJson?)
  let dependencies ← r.required "dependencies" (Json.list? Dependency.ofJson?)
  let tags ← r.required "tags" (Json.list? Tag.ofJson?)
  let files ← r.required "files" (Json.list? FileSummary.ofJson?)
  let warnings ← r.defaulted "warnings" [] (Json.list? Warning.ofJson?)
  let takenAt ← r.required "scanned_at" Stamp.ofJson?
  pure ⟨root, modulePath, modules, dependencies, tags, files, warnings, takenAt⟩

def toText (s : Survey) : String := s.toJson.pretty

def ofText (text : String) : Except Failure Survey :=
  match (Json.parse? text).bind ofJson? with
  | some s => .ok s
  | none => .error (.malformedDocument "not a survey")

end Survey

end TagAtlas

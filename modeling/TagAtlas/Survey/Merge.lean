import TagAtlas.Survey.Basic
import TagAtlas.Survey.ModulePath

/-!
# Merging files into a survey

Files are merged one after another. A file contributes its tags, is listed by each module that it
names, and declares dependencies of its own module: by tags of two types, and by its imports of
other modules of the project.
-/

namespace TagAtlas.Survey

/-- The warning that a module is declared with a second package name. -/
def packageConflict (m : Module) (f : FileSummary) : Warning where
  path := some f.path
  message := "module " ++ m.name ++ " already uses package " ++ m.packageName ++
    ", ignoring package " ++ f.packageName

/-- Puts a file into the module that a module tag names. The first file of a module gives its
package. -/
def joinModule (s : Survey) (f : FileSummary) (name : String) : Survey :=
  let s := if s.hasModule name then s
    else { s with modules := s.modules ++ [Module.new name f.packageName] }
  let warnings := match s.module? name with
    | some m => if m.packageName = f.packageName then [] else [packageConflict m f]
    | none => []
  let s := s.updateModule name fun m =>
    match m.addFile? f.path with
    | some joined => { joined with tags := joined.tags ++ f.tags }
    | none => m
  { s with warnings := s.warnings ++ warnings }

def declareDependency (s : Survey) (source : String) (kind : DependencyKind) (t : Tag) : Survey :=
  let target := t.valueText
  if target = "" || target = source then s
  else
    (s.addDependency ⟨source, target, kind, some t.line⟩).updateModule source fun m =>
      (m.addDependency? target).getD m

def declareImport (s : Survey) (source path : String) : Survey :=
  match ModulePath.importTarget? path s.modulePath with
  | some target => if target = source then s else s.addDependency ⟨source, target, .import, none⟩
  | none => s

def mergeFile (s : Survey) (f : FileSummary) : Survey :=
  let s := { s with tags := s.tags ++ f.tags }
  let names := (f.tagsOf .module).filterMap fun t => t.valueOf? .module
  let s := names.foldl (fun s name => s.joinModule f name) s
  let s := (f.tagsOf .dependency).foldl (fun s t => s.declareDependency f.owner .module t) s
  let s := (f.tagsOf .requires).foldl (fun s t => s.declareDependency f.owner .requires t) s
  match f.moduleName with
  | some name => f.imports.foldl (fun s path => s.declareImport name path) s
  | none => s

/-- The survey of some files, in their order. -/
def ofFiles (start : Survey) (files : List FileSummary) : Survey :=
  { files.foldl mergeFile start with files := files }

end TagAtlas.Survey

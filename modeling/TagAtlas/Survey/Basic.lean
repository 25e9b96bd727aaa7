import TagAtlas.Dict
import TagAtlas.Go.Declaration
import TagAtlas.Tag.Basic
import TagAtlas.Text.Case
import TagAtlas.Time.Stamp

/-!
# Surveys of projects

A survey holds what was found in the files of a project: the files themselves, the modules that
their tags name, the dependencies between modules, all tags, and the faults of single files.
-/

namespace TagAtlas

namespace SymbolKind

def name : SymbolKind → String
  | .function => "function"
  | .type => "type"
  | .variable => "variable"
  | .constant => "constant"

def named : List (String × SymbolKind) :=
  [SymbolKind.function, .type, .variable, .constant].map fun k => (k.name, k)

end SymbolKind

structure FileSummary where
  path : String
  packageName : String
  /-- Value of the first module tag that has one. -/
  moduleName : Option String
  imports : List String
  tags : List Tag
  symbols : List Symbol
  lineCount : Nat
  size : Nat
  deriving DecidableEq

namespace FileSummary

def hasTags (f : FileSummary) : Bool := !f.tags.isEmpty

def tagsOf (f : FileSummary) (type : TagType) : List Tag := f.tags.filter (·.type = type)

def owner (f : FileSummary) : String := f.moduleName.getD f.packageName

end FileSummary

/-- Files that carry the same module tag. -/
structure Module where
  name : String
  packageName : String
  files : List String
  dependencies : List String
  tags : List Tag
  deriving DecidableEq

namespace Module

def new (name packageName : String) : Module := ⟨name, packageName, [], [], []⟩

def addFile? (m : Module) (path : String) : Option Module :=
  if m.files.contains path then none else some { m with files := m.files ++ [path] }

/-- Lists a dependency, unless it is there or the module itself. -/
def addDependency? (m : Module) (name : String) : Option Module :=
  if name = m.name || m.dependencies.contains name then none
  else some { m with dependencies := m.dependencies ++ [name] }

end Module

inductive DependencyKind where
  | module
  | import
  | requires
  deriving DecidableEq, Repr

namespace DependencyKind

def name : DependencyKind → String
  | .module => "module"
  | .import => "import"
  | .requires => "requires"

def rank : DependencyKind → Nat
  | .module => 0
  | .import => 1
  | .requires => 2

def named : List (String × DependencyKind) :=
  [DependencyKind.module, .import, .requires].map fun k => (k.name, k)

/-- The kind that a word names in letters of any case, or the word in lower case. -/
def ofText (word : String) : Except String DependencyKind :=
  let lower := Text.lower word
  match named.lookup lower with
  | some k => .ok k
  | none => .error ("unknown dependency kind: " ++ lower)

end DependencyKind

structure Dependency where
  source : String
  target : String
  kind : DependencyKind
  line : Option Nat
  deriving DecidableEq, Repr

def Dependency.key (d : Dependency) : String × String × DependencyKind := (d.source, d.target, d.kind)

structure Warning where
  path : Option String
  message : String
  deriving DecidableEq, Repr

def Warning.text (w : Warning) : String :=
  match w.path with
  | some path => path ++ ": " ++ w.message
  | none => w.message

structure Survey where
  root : String
  modulePath : Option String
  /-- In the order in which files first name them. -/
  modules : List Module
  dependencies : List Dependency
  tags : List Tag
  files : List FileSummary
  warnings : List Warning
  takenAt : Stamp
  deriving DecidableEq

namespace Survey

def new (root : String) (takenAt : Stamp) : Survey := ⟨root, none, [], [], [], [], [], takenAt⟩

def module? (s : Survey) (name : String) : Option Module := s.modules.find? (·.name = name)

def hasModule (s : Survey) (name : String) : Bool := (s.module? name).isSome

def file? (s : Survey) (path : String) : Option FileSummary := s.files.find? (·.path = path)

def updateModule (s : Survey) (name : String) (f : Module → Module) : Survey :=
  let rec go : List Module → List Module
    | [] => []
    | m :: rest => if m.name = name then f m :: rest else m :: go rest
  { s with modules := go s.modules }

def hasDependency (s : Survey) (d : Dependency) : Bool := s.dependencies.any (·.key = d.key)

/-- Adds a dependency, unless one with the same key is there. -/
def addDependency (s : Survey) (d : Dependency) : Survey :=
  if s.hasDependency d then s else { s with dependencies := s.dependencies ++ [d] }

def tagCounts (s : Survey) : Dict Nat :=
  s.tags.foldl (fun counts t => counts.update t.type.name 0 (· + 1)) .empty

def isEmpty (s : Survey) : Bool := s.modules.isEmpty && s.dependencies.isEmpty && s.tags.isEmpty

end Survey

end TagAtlas

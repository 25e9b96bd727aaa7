import TagAtlas.Report.Hint

/-!
# Reports of surveys

Texts for readers. Everything that is listed is sorted, and an empty list is written as `<none>`.
-/

namespace TagAtlas.Report

def line (text : String) : String := text ++ "\n"

def noneText : String := "<none>"

def lines {α : Type} (indent : String) (items : List α) (write : α → String) : String :=
  if items.isEmpty then line (indent ++ noneText)
  else String.join (items.map fun i => line (indent ++ write i))

def sortedModules (s : Survey) : List Module := s.modules.mergeSort fun a b => a.name ≤ b.name

/-- Whether a dependency comes before another or in its place: by its ends, then by its kind. -/
def precedes (a b : Dependency) : Bool :=
  if a.source ≠ b.source then a.source < b.source
  else if a.target ≠ b.target then a.target < b.target
  else a.kind.rank ≤ b.kind.rank

def dependencies (s : Survey) : String :=
  line "Dependencies:" ++
    lines "  " (s.dependencies.mergeSort precedes) fun d =>
      d.source ++ " -> " ++ d.target ++ " (" ++ d.kind.name ++ ")"

def overview (s : Survey) (withDependencies : Bool) : String :=
  line ("Project: " ++ s.root) ++
  line ("Modules: " ++ Nat.repr s.modules.length) ++
  line ("Dependencies: " ++ Nat.repr s.dependencies.length) ++
  line ("Tags: " ++ Nat.repr s.tags.length) ++
  line "" ++
  line "Module list:" ++
  lines "  " (sortedModules s) (fun m =>
    m.name ++ " (package " ++ m.packageName ++ ", " ++ Nat.repr m.files.length ++ " files)") ++
  (if withDependencies then line "" ++ dependencies s else "")

def nameList (title : String) (names : List String) : String :=
  line ("  " ++ title ++ ": " ++ Nat.repr names.length) ++
    lines "    " (names.mergeSort fun a b => a ≤ b) fun n => "- " ++ n

def module (m : Module) : String :=
  line ("Module: " ++ m.name) ++ line ("  Package: " ++ m.packageName) ++
    nameList "Files" m.files ++ nameList "Dependencies" m.dependencies

def modules (s : Survey) : String :=
  if s.modules.isEmpty then line "Modules:" ++ line ("  " ++ noneText)
  else "\n".intercalate ((sortedModules s).map module)

def tags (s : Survey) : String :=
  line "Tags by type:" ++
    lines "  " s.tagCounts.entries fun e => e.1 ++ ": " ++ Nat.repr e.2

def hintLine (hint : String × String) : String :=
  line ("  " ++ hint.1 ++ ": // " ++ Tag.marker ++ hint.2 ++ ":" ++ hint.1)

/-- Whether a hint comes before another or in its place. -/
def hintPrecedes (a b : String × String) : Bool :=
  if a.1 ≠ b.1 then a.1 < b.1 else a.2 ≤ b.2

def hints (f : FileSummary) : List (String × String) :=
  let found := f.symbols.filterMap fun s => (s.kind.hint? s.name).map fun t => (s.name, t.name)
  found.eraseDups.mergeSort hintPrecedes

/-- The suggestions for a file without tags. -/
def fileGuide (s : Survey) (f : FileSummary) : String :=
  line "" ++ line f.path ++ line ("  // " ++ Tag.marker ++ "module:" ++ s.guessModule f) ++
    String.join ((hints f).map hintLine)

/-- The suggestions for all files without tags. -/
def guide (s : Survey) : String :=
  let untagged := (s.files.filter fun f => !f.hasTags).mergeSort fun a b => a.path ≤ b.path
  line "Annotation guide" ++ line ("Untagged files: " ++ Nat.repr untagged.length) ++
    (if untagged.isEmpty then line ("  " ++ noneText) else String.join (untagged.map (fileGuide s)))

end TagAtlas.Report

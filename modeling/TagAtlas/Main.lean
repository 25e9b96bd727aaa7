import TagAtlas.Command.Reply

/-!
# The program

Reads from the machine what a command line asks about, and prints the reply to it.
-/

namespace TagAtlas.Program

def timeOf (t : IO.FS.SystemTime) : Time := t.sec * Time.second + t.nsec.toNat

def namesOf (path : String) : List String := (Text.splitOn '/' path).filter (· ≠ "")

/-- The path of a row of names from the top. -/
def pathOf (names : List String) : String := "/" ++ "/".intercalate names

/-- What lies at a path, with all that lies below it. What cannot be read is left out. -/
partial def readTree? (path : String) : IO (Option Tree) := do
  try
    let place ← IO.FS.realPath path
    if ← place.isDir then
      let entries ← (← place.readDir).toList.filterMapM fun e => do
        return (← readTree? (Disk.join path e.fileName)).map (e.fileName, ·)
      return some (.folder entries)
    else
      let data ← IO.FS.readBinFile place
      return some (.file ⟨data, timeOf (← place.metadata).modified⟩)
  catch _ => return none

/-- The names from the top of what lies at a path. -/
def placeOf? (path : String) : IO (Option (List String)) := do
  try return some (namesOf (← IO.FS.realPath path).toString)
  catch _ => return none

def addPath (d : Disk) (path : String) : IO Disk := do
  match ← placeOf? path, ← readTree? path with
  | some names, some t => return { d with top := d.top.put names t }
  | _, _ => return d

def addFolder (d : Disk) (path : String) : IO Disk := do
  try
    let place ← IO.FS.realPath path
    if ← place.isDir then return { d with top := d.top.makeFolder (namesOf place.toString) }
    else return d
  catch _ => return d

def addWay (d : Disk) (path : String) : IO Disk :=
  let names := Text.splitOn '/' path
  let ways := (List.range names.length).map fun n => "/".intercalate (names.take (n + 1))
  (ways.filter (· ≠ "")).foldlM addFolder d

def rulesAbove (names : List String) : List String :=
  (List.range names.length).flatMap fun n =>
    [".ignore", ".gitignore", ".git/HEAD", ".git/info/exclude"].map
      (Disk.join (pathOf (names.take n)))

/-- A disk with the folder of a project and what is said about it above. -/
def addProject (d : Disk) (root : String) : IO Disk := do
  let d ← addPath (← addWay d root) root
  (rulesAbove ((← placeOf? root).getD [])).foldlM addPath d

/-- A disk with the configuration of Git and its rules for all repositories. -/
def addGit (d : Disk) (env : Environment) : IO Disk := do
  let d ← (GitConfig.files env).foldlM addPath d
  match GitConfig.excludes? d env with
  | some path => addPath d path
  | none => return d

def diskFor (i : Command.Invocation) (env : Environment) : IO Disk := do
  let here := namesOf (← IO.currentDir).toString
  let d : Disk := ⟨(Tree.folder []).makeFolder here, here⟩
  let d ← match Reply.rootOf? i.command with
    | some root => addProject (← addGit d env) root
    | none => pure d
  match i.config with
  | some path => addPath (← addPath (← addWay d path) path) (path ++ ".toml")
  | none => return d

def environment : IO Environment := do
  let bytes ← IO.FS.readBinFile "/proc/self/environ"
  let text := Text.Utf8.decode bytes.toList
  return (Text.splitOn '\x00' text).filterMap fun entry =>
    (Text.cut? (· = '=') entry.toList).map fun e => (String.ofList e.1, String.ofList e.2)

def startTime : IO Time := do
  let process ← IO.FS.realPath "/proc/self/environ"
  return timeOf (← process.metadata).modified

def reply (args : List String) : IO Reply := do
  let env ← environment
  let nothing : Disk := ⟨.folder [], []⟩
  let disk ← match Command.ofArguments args (env.lookup Command.configVariable) with
    | .ok i => diskFor i env
    | .error _ => pure nothing
  return Reply.ofArguments ⟨disk, env, ← startTime⟩ args

end TagAtlas.Program

def main (args : List String) : IO UInt32 := do
  let r ← TagAtlas.Program.reply args
  IO.print r.output
  IO.eprint r.errors
  return r.code.toUInt32

import TagAtlas.Config.Load
import TagAtlas.Text.Utf8

/-!
# The configuration of Git

It tells where the rules are that count in all repositories. Unless it names a file, they are at
their usual place.
-/

namespace TagAtlas.GitConfig

def folder? (env : Environment) : Option String :=
  ((env.lookup "XDG_CONFIG_HOME").filter (· ≠ "")).or
    ((env.lookup "HOME").map (Disk.join · ".config"))

/-- The files of the configuration; the first that names the rules counts. -/
def files (env : Environment) : List String :=
  ((env.lookup "HOME").map (Disk.join · ".gitconfig")).toList ++
    ((folder? env).map (Disk.join · "git/config")).toList

/-- A text without a quote in front and the blanks around it. -/
def unquoted (s : List Char) : List Char :=
  match Text.trimStart s with
  | '\x22' :: rest => Text.trimStart rest
  | rest => rest

def excludesOfLine? (line : List Char) : Option (List Char) :=
  let key := "excludesfile".toList
  let line := Text.trimStart line
  if (line.take key.length).map Char.toLower ≠ key then none
  else match Text.trimStart (line.drop key.length) with
    | '=' :: value =>
      let path := (unquoted (unquoted value).reverse).reverse
      if path.isEmpty || path.any Text.isBlank then none else some path
    | _ => none

/-- The path of the rules, if a file names it. A tilde stands for the home of the user. -/
def excludesOfFile? (env : Environment) (f : StoredFile) : Option String :=
  let lines := Text.lines (Text.Utf8.decode f.bytes.toList).toList
  let home := ((env.lookup "HOME").getD "~").toList
  (lines.findSome? excludesOfLine?).map fun path =>
    String.ofList (Text.replaceChar path '~' home)

/-- Where the rules are that count in all repositories. -/
def excludes? (d : Disk) (env : Environment) : Option String :=
  ((files env).findSome? fun path => (d.file? path).bind (excludesOfFile? env)).or
    ((folder? env).map (Disk.join · "git/ignore"))

end TagAtlas.GitConfig

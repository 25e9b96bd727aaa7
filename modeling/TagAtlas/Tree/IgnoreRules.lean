import TagAtlas.Glob.Match
import TagAtlas.Text.Blank
import TagAtlas.Text.Search
import TagAtlas.Tree.Basic

/-!
# Rules of ignore files

A line of an ignore file is a rule about the paths below the folder of the file. The last rule that
applies to a path decides; a rule that begins with `!` keeps what it applies to. Files nearer to a
path come first, and the rules for Git count only within a repository. Git has rules for all
repositories, too; they count last.
-/

namespace TagAtlas

structure IgnoreRule where
  glob : Glob
  keeps : Bool
  foldersOnly : Bool

namespace IgnoreRule

structure Pattern where
  keeps : Bool
  /-- Whether it is about paths from the folder of its file on. -/
  anchored : Bool
  text : List Char

def Pattern.ofLine (line : List Char) : Pattern :=
  match line with
  | '\\' :: '!' :: rest => ⟨false, false, '!' :: rest⟩
  | '\\' :: '#' :: rest => ⟨false, false, '#' :: rest⟩
  | '!' :: '/' :: rest => ⟨true, true, rest⟩
  | '!' :: rest => ⟨true, false, rest⟩
  | '/' :: rest => ⟨false, true, rest⟩
  | line => ⟨false, false, line⟩

/-- A pattern without the slash at its end, when it has one. -/
def beforeSlash? (text : List Char) : Option (List Char) :=
  match text.reverse with
  | '/' :: '\\' :: rest => some rest.reverse
  | '/' :: rest => some rest.reverse
  | _ => none

/-- The text of the glob of a pattern. A pattern of one name is about all folders below, and two
stars at the end are about what lies in a folder but not about the folder. -/
def globText (anchored : Bool) (text : List Char) : List Char :=
  let stars := ['*', '*']
  let isSpread := text = stars || (Text.after? ['*', '*', '/'] text).isSome
  let text := if anchored || text.contains '/' || isSpread then text else '*' :: '*' :: '/' :: text
  if (Text.before? ['/', '*', '*'] text).isSome then text ++ ['/', '*'] else text

def ofLine? (line : List Char) : Option IgnoreRule :=
  if line.head? = some '#' then none
  else
    let line := if (Text.before? ['\\', ' '] line).isSome then line else Text.trimEnd line
    if line.isEmpty then none
    else
      let p := Pattern.ofLine line
      let folder? := beforeSlash? p.text
      match Glob.ofPath (String.ofList (globText p.anchored (folder?.getD p.text))) with
      | .ok glob => some ⟨glob, p.keeps, folder?.isSome⟩
      | .error _ => none

def applies (r : IgnoreRule) (path : String) (isFolder : Bool) : Bool :=
  (!r.foldersOnly || isFolder) && r.glob.holds path

/-- Whether some rules have a path ignored or kept, if they are about it. -/
def verdict? (rules : List IgnoreRule) (path : String) (isFolder : Bool) : Option Bool :=
  (rules.reverse.find? fun r => r.applies path isFolder).map fun r => !r.keeps

def byteLines : List UInt8 → List (List UInt8)
  | [] => [[]]
  | b :: rest =>
    if b = 10 then [] :: byteLines rest
    else match byteLines rest with
      | [] => [[b]]
      | line :: more => (b :: line) :: more

/-- The lines that bytes spell in UTF-8, up to the first that is none. -/
def linesOf (bytes : List UInt8) : List (List Char) :=
  let texts := (byteLines bytes).map fun line => String.fromUTF8? ⟨line.toArray⟩
  (texts.takeWhile Option.isSome).map fun text => Text.dropReturn (text.getD "").toList

/-- The rules of an ignore file, without the mark of byte order at its front. -/
def ofFile (f : StoredFile) : List IgnoreRule :=
  match linesOf f.bytes.toList with
  | first :: rest => ((first.dropWhile (·.toNat = 0xFEFF)) :: rest).filterMap ofLine?
  | [] => []

end IgnoreRule

/-- The rules of Git for all repositories. -/
structure GlobalRules where
  /-- The folder where one is; names from the top. -/
  here : List String
  rules : List IgnoreRule

namespace GlobalRules

/-- A path as the rules see it: what follows the folder where one is, or all of it when it begins
otherwise. -/
def seen (g : GlobalRules) (path : List String) : String :=
  let whole := '/' :: ("/".intercalate path).toList
  match Text.after? ('/' :: ("/".intercalate g.here).toList) whole with
  | some ('/' :: rest) | some rest => String.ofList rest
  | none => String.ofList whole

def verdict? (g : GlobalRules) (path : List String) (isFolder : Bool) : Option Bool :=
  IgnoreRule.verdict? g.rules (g.seen path) isFolder

end GlobalRules

/-- The rules that a folder gives for what lies in it. -/
structure IgnoreScope where
  folder : List String
  general : List IgnoreRule
  tracked : List IgnoreRule
  excluded : List IgnoreRule
  isRepository : Bool

namespace IgnoreScope

def rulesAt (t : Tree) (name : String) : List IgnoreRule :=
  ((t.childFile? name).map IgnoreRule.ofFile).getD []

def ofFolder (path : List String) (t : Tree) : IgnoreScope where
  folder := path
  general := rulesAt t ".ignore"
  tracked := rulesAt t ".gitignore"
  excluded := (((t.child? ".git").bind fun g => g.child? "info").map
    fun info => rulesAt info "exclude").getD []
  isRepository := (t.child? ".git").isSome

/-- Whether some rules of a scope have a path ignored or kept, if they are about it. -/
def verdict? (s : IgnoreScope) (rules : List IgnoreRule) (path : List String) (isFolder : Bool) :
    Option Bool :=
  IgnoreRule.verdict? rules ("/".intercalate (path.drop s.folder.length)) isFolder

/-- The scopes up to that of the repository, nearest first. -/
def untilRepository : List IgnoreScope → List IgnoreScope
  | [] => []
  | s :: rest => if s.isRepository then [s] else s :: untilRepository rest

/-- Whether a path is ignored under some scopes, nearest first. -/
def ignores (g : GlobalRules) (scopes : List IgnoreScope) (path : List String) (isFolder : Bool) :
    Bool :=
  let isTracked := scopes.any isRepository
  let within := if isTracked then untilRepository scopes else []
  let general := scopes.findSome? fun s => s.verdict? s.general path isFolder
  let tracked := within.findSome? fun s => s.verdict? s.tracked path isFolder
  let excluded := within.findSome? fun s => s.verdict? s.excluded path isFolder
  let everywhere := if isTracked then g.verdict? path isFolder else none
  (general.or (tracked.or (excluded.or everywhere))).getD false

/-- The scopes of the folders above the end of a row of names, nearest first. -/
def above (t : Tree) (path : List String) (scopes : List IgnoreScope) :
    List String → List IgnoreScope
  | [] => scopes
  | name :: rest =>
    let scopes := ofFolder path t :: scopes
    match t.child? name with
    | some c => above c (path ++ [name]) scopes rest
    | none => scopes

end IgnoreScope

end TagAtlas

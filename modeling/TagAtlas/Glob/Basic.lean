/-!
# Globs

A glob is a row of pieces. A question mark stands for one byte, a star for any number of them; two
stars between slashes stand for any folders. Brackets list bytes, and braces list globs to choose
from.
-/

namespace TagAtlas.Glob

inductive Piece where
  | literal (c : Char)
  | anyByte
  | run
  | leadingFolders
  | allBelow
  | folders
  | byteClass (negated : Bool) (ranges : List (Char × Char))
  | choice (branches : List (List Piece))

inductive Fault where
  | unclosedClass
  | invertedRange (first last : Char)
  | unopenedChoice
  | unclosedChoice
  | danglingEscape
  deriving DecidableEq, Repr

def Fault.message : Fault → String
  | .unclosedClass => "unclosed character class; missing ']'"
  | .invertedRange first last =>
    "invalid range; '" ++ first.toString ++ "' > '" ++ last.toString ++ "'"
  | .unopenedChoice =>
    "unopened alternate group; missing '\x7b' (maybe escape '\x7d' with '[\x7d]'?)"
  | .unclosedChoice =>
    "unclosed alternate group; missing '\x7d' (maybe escape '\x7b' with '[\x7b]'?)"
  | .danglingEscape => "dangling '\\'"

/-- A class of bytes that is being read. -/
structure OpenClass where
  negated : Bool
  ranges : List (Char × Char)
  /-- Whether the last range waits for its end. -/
  inRange : Bool
  deriving DecidableEq, Repr

inductive Mode where
  | plain
  | escaped
  /-- Between two stars; the character before the first. -/
  | stars (before : Option Char)
  /-- At a slash that belongs to the stars before it. -/
  | slash
  | classStart
  | classNegated
  | inClass (opened : OpenClass)
  deriving DecidableEq, Repr

structure Branches where
  closed : List (List Piece)
  current : List Piece

structure Partial where
  mode : Mode
  branches : Branches
  /-- The choices around this one, innermost first. -/
  outer : List Branches
  previous : Option Char

namespace Partial

def empty : Partial := ⟨.plain, ⟨[], []⟩, [], none⟩

def push (p : Partial) (piece : Piece) : Partial :=
  { p with mode := .plain, branches.current := piece :: p.branches.current }

def openChoice (p : Partial) : Partial :=
  { p with branches := ⟨[], []⟩, outer := p.branches :: p.outer }

def nextBranch (p : Partial) : Partial :=
  { p with branches := ⟨p.branches.current.reverse :: p.branches.closed, []⟩ }

def closeChoice (p : Partial) : Except Fault Partial :=
  match p.outer with
  | [] => .error .unopenedChoice
  | around :: outer =>
    let all := (p.branches.current.reverse :: p.branches.closed).reverse
    .ok { p with branches := ⟨around.closed, .choice all :: around.current⟩, outer := outer }

/-- Adds two stars that stand between other characters. -/
def pushStars (p : Partial) : Partial := (p.push .run).push .run

/-- Adds two stars that follow a slash. They take the place of the slash, unless folders stand
there already. -/
def pushFolders (p : Partial) (piece : Piece) (mode : Mode) : Partial :=
  match p.branches.current with
  | .leadingFolders :: _ | .allBelow :: _ => { p with mode := mode }
  | _ :: rest => { p with mode := mode, branches.current := piece :: rest }
  | [] => { p with mode := mode, branches.current := [piece] }

/-- Reads the second of two stars; `before` stands in front of them and `next` after them. -/
def secondStar (p : Partial) (before next : Option Char) : Partial :=
  let isNested := !p.outer.isEmpty
  if p.branches.current.isEmpty then
    match next with
    | none => p.push .leadingFolders
    | some '/' => { p.push .leadingFolders with mode := .slash }
    | _ => p.pushStars
  else if before ≠ some '/' then p.pushStars
  else match next with
    | none => p.pushFolders .allBelow .plain
    | some '/' => p.pushFolders .folders .slash
    | some c => if isNested && (c = ',' || c = '\x7d') then p.pushFolders .allBelow .plain
      else p.pushStars

def classChar (p : Partial) (opened : OpenClass) (isFirst : Bool) (c : Char) :
    Except Fault Partial :=
  let keep (opened : OpenClass) : Except Fault Partial := .ok { p with mode := .inClass opened }
  if c = ']' && !isFirst then
    let ranges := if opened.inRange then ('-', '-') :: opened.ranges else opened.ranges
    .ok (p.push (.byteClass opened.negated ranges.reverse))
  else if c = '-' && !isFirst && !opened.inRange then keep { opened with inRange := true }
  else match opened.inRange, opened.ranges with
    | true, (first, _) :: rest =>
      if c < first then .error (.invertedRange first c)
      else keep { opened with ranges := (first, c) :: rest, inRange := false }
    | _, ranges => keep { opened with ranges := (c, c) :: ranges, inRange := false }

/-- Whether a class whose bracket was just read is closed in the rest of a text. -/
def classCloses (rest : List Char) : Bool :=
  match rest with
  | '!' :: _ :: rest | '^' :: _ :: rest | _ :: rest => rest.contains ']'
  | [] => false

/-- Reads a character, with the rest of the text in sight. In a lenient text an opening bracket that
is never closed stands for itself. -/
def step (isLenient : Bool) (p : Partial) (c : Char) (rest : List Char) : Except Fault Partial :=
  match p.mode with
  | .escaped => .ok (p.push (.literal c))
  | .slash => .ok { p with mode := .plain }
  | .stars before => .ok (p.secondStar before rest.head?)
  | .classStart =>
    if c = '!' || c = '^' then .ok { p with mode := .classNegated }
    else p.classChar ⟨false, [], false⟩ true c
  | .classNegated => p.classChar ⟨true, [], false⟩ true c
  | .inClass opened => p.classChar opened false c
  | .plain =>
    match c with
    | '?' => .ok (p.push .anyByte)
    | '*' =>
      if rest.head? = some '*' then .ok { p with mode := .stars p.previous } else .ok (p.push .run)
    | '[' =>
      if isLenient && !classCloses rest then .ok (p.push (.literal '['))
      else .ok { p with mode := .classStart }
    | '\x7b' => .ok p.openChoice
    | '\x7d' => p.closeChoice
    | ',' => .ok (if p.outer.isEmpty then p.push (.literal ',') else p.nextBranch)
    | '\\' => .ok { p with mode := .escaped }
    | c => .ok (p.push (.literal c))

/-- The pieces, when the text is at its end. -/
def finish (p : Partial) : Except Fault (List Piece) :=
  match p.mode with
  | .escaped => .error .danglingEscape
  | .classStart | .classNegated | .inClass _ => .error .unclosedClass
  | _ => if p.outer.isEmpty then .ok p.branches.current.reverse else .error .unclosedChoice

def read (isLenient : Bool) (p : Partial) : List Char → Except Fault (List Piece)
  | [] => p.finish
  | c :: rest =>
    match step isLenient p c rest with
    | .ok p => read isLenient { p with previous := some c } rest
    | .error fault => .error fault

end Partial

end Glob

structure Glob where
  pieces : List Glob.Piece
  /-- Whether stars and question marks stand for slashes too. -/
  crossesSlash : Bool

namespace Glob

def ofName (text : String) : Except Fault Glob :=
  (Partial.read false .empty text.toList).map fun pieces => ⟨pieces, true⟩

/-- The glob that a pattern of paths spells; an opening bracket that is never closed stands for
itself. -/
def ofPath (text : String) : Except Fault Glob :=
  (Partial.read true .empty text.toList).map fun pieces => ⟨pieces, false⟩

end Glob

end TagAtlas

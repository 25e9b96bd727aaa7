import TagAtlas.Glob.Basic

/-!
# Matching globs

A glob is matched byte by byte against the UTF-8 form of a whole path. Each piece takes a piece of
the path off its front; what may be left over is a list of rests.
-/

namespace TagAtlas.Glob

def slash : UInt8 := 47

def dot : UInt8 := 46

def charBytes (c : Char) : List UInt8 := c.toString.toUTF8.toList

def afterSlash? : List UInt8 → Option (List UInt8)
  | b :: rest => if b = slash then some rest else none
  | [] => none

def ends : List UInt8 → List (List UInt8)
  | [] => [[]]
  | b :: rest => (b :: rest) :: ends rest

/-- The ends of a list up to its first slash. -/
def endsInFolder : List UInt8 → List (List UInt8)
  | [] => [[]]
  | b :: rest => if b = slash then [b :: rest] else (b :: rest) :: endsInFolder rest

def afterSlashes : List UInt8 → List (List UInt8)
  | [] => []
  | b :: rest => if b = slash then rest :: afterSlashes rest else afterSlashes rest

/-- The bytes that a range of a class lists: the single bytes around, and the span from the last
byte of its first character to the first byte of its last one. -/
def rangeHolds (first last : Char) (b : UInt8) : Bool :=
  if first = last then (charBytes first).contains b
  else
    let low := charBytes first
    let high := charBytes last
    (low.dropLast ++ high.drop 1).contains b ||
      (low.getLast?.any (· ≤ b) && high.head?.any (b ≤ ·))

def classHolds (negated : Bool) (ranges : List (Char × Char)) (b : UInt8) : Bool :=
  (ranges.any fun r => rangeHolds r.1 r.2 b) != negated

/-- What is left after some bytes at the front. -/
def afterBytes? : List UInt8 → List UInt8 → Option (List UInt8)
  | [], s => some s
  | _ :: _, [] => none
  | a :: expected, b :: s => if a = b then afterBytes? expected s else none

mutual
def Piece.isVoid : Piece → Bool
  | .choice branches => branchesVoid branches
  | _ => false

/-- Whether all branches of a choice say nothing. -/
def branchesVoid : List (List Piece) → Bool
  | [] => true
  | branch :: rest => piecesVoid branch && branchesVoid rest

/-- Whether all pieces of a row say nothing. -/
def piecesVoid : List Piece → Bool
  | [] => true
  | p :: rest => p.isVoid && piecesVoid rest
end

mutual
/-- What a piece may leave of a path. A branch that says nothing is no choice, unless all are so. -/
def Piece.rests (crossesSlash : Bool) : Piece → List UInt8 → List (List UInt8)
  | .literal c, s => (afterBytes? (charBytes c) s).toList
  | .anyByte, s =>
    match s with
    | [] => []
    | b :: rest => if b = slash && !crossesSlash then [] else [rest]
  | .run, s => if crossesSlash then ends s else endsInFolder s
  | .leadingFolders, s => s :: afterSlashes s
  | .allBelow, s => ((afterSlash? s).map ends).getD []
  | .folders, s => ((afterSlash? s).map fun rest => rest :: afterSlashes rest).getD []
  | .byteClass negated ranges, s =>
    match s with
    | [] => []
    | b :: rest => if classHolds negated ranges b then [rest] else []
  | .choice branches, s =>
    if branchesVoid branches then [s] else restsOfBranches crossesSlash branches s

def restsOfBranches (crossesSlash : Bool) : List (List Piece) → List UInt8 → List (List UInt8)
  | [], _ => []
  | branch :: rest, s =>
    (if piecesVoid branch then [] else restsOfPieces crossesSlash branch [s]) ++
      restsOfBranches crossesSlash rest s

/-- What a row of pieces may leave of one of some paths. -/
def restsOfPieces (crossesSlash : Bool) : List Piece → List (List UInt8) → List (List UInt8)
  | [], lefts => lefts
  | p :: rest, lefts =>
    restsOfPieces crossesSlash rest (lefts.flatMap fun s => p.rests crossesSlash s).eraseDups
end

def Piece.isLiteral : Piece → Bool
  | .literal _ => true
  | _ => false

def Piece.is (c : Char) : Piece → Bool
  | .literal d => c = d
  | _ => false

/-- Whether the glob is words at the end of a path, perhaps after a star, and not just the last
name in it or its extension. -/
def isEnding (g : Glob) : Bool :=
  match g.pieces with
  | .leadingFolders :: .run :: rest | .run :: rest =>
    g.crossesSlash && rest.all Piece.isLiteral && 1 < rest.length
  | .leadingFolders :: rest => rest.all Piece.isLiteral && rest.any (Piece.is '/')
  | pieces => pieces.all Piece.isLiteral

/-- Whether the glob asks for the last name of a path, or its extension, to end in a dot. -/
def asksForDot (g : Glob) : Bool := g.pieces.getLast?.any (Piece.is '.') && !g.isEnding

def isAll (g : Glob) : Bool :=
  match g.pieces with
  | [.leadingFolders] => true
  | _ => false

/-- Whether the glob matches a whole path. What ends in a dot counts as having no last name and no
extension. -/
def holds (g : Glob) (path : String) : Bool :=
  let s := path.toUTF8.toList
  g.isAll || (!(g.asksForDot && s.getLast? = some dot) &&
    (restsOfPieces g.crossesSlash g.pieces [s]).contains [])

end TagAtlas.Glob

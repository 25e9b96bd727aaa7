/-!
# Searching and splitting texts

Cutting at separators, at line ends and at a leading word, and looking for a text in another.
-/

namespace TagAtlas.Text

/-- What follows a leading text, if the text begins so. -/
def after? : List Char → List Char → Option (List Char)
  | [], s => some s
  | _ :: _, [] => none
  | l :: lead, c :: s => if l = c then after? lead s else none

theorem after?_eq_some_iff {lead s rest : List Char} :
    after? lead s = some rest ↔ s = lead ++ rest := by
  induction lead generalizing s with
  | nil => simp [after?, eq_comm]
  | cons l lead ih =>
    cases s with
    | nil => simp [after?]
    | cons c s =>
      by_cases h : l = c
      · simp [after?, h, ih]
      · simp [after?, h, Ne.symm h]

/-- What precedes a closing text, if the text ends so. -/
def before? (close s : List Char) : Option (List Char) :=
  (after? close.reverse s.reverse).map List.reverse

/-- Whether a text occurs in another, as consecutive characters. -/
def occursIn (part : List Char) : List Char → Bool
  | [] => part.isEmpty
  | c :: s => part.isPrefixOf (c :: s) || occursIn part s

def startsWith (s lead : String) : Bool := (after? lead.toList s.toList).isSome

def endsWith (s close : String) : Bool := (before? close.toList s.toList).isSome

/-- Whether the first text contains the second. -/
def hasPart (s part : String) : Bool := occursIn part.toList s.toList

/-- The pieces between the characters that satisfy a test; there is one piece more than there
are such characters. -/
def splitBy (sep : Char → Bool) : List Char → List (List Char)
  | [] => [[]]
  | c :: s =>
    if sep c then [] :: splitBy sep s
    else match splitBy sep s with
      | [] => [[c]]
      | piece :: more => (c :: piece) :: more

def splitOn (sep : Char) (s : String) : List String :=
  (splitBy (· = sep) s.toList).map String.ofList

def dropReturn (line : List Char) : List Char :=
  match line.reverse with
  | '\r' :: r => r.reverse
  | _ => line

/-- The lines of a text: each ends with a line feed, or a carriage return and a line feed; the
last one may lack its end. -/
def lines (s : List Char) : List (List Char) :=
  let pieces := splitBy (· = '\n') s
  let full := pieces.dropLast.map dropReturn
  match pieces.getLast? with
  | some [] => full
  | some last => full ++ [last]
  | none => full

/-- A text cut at the first character that satisfies a test; the character is dropped. -/
def cut? (test : Char → Bool) : List Char → Option (List Char × List Char)
  | [] => none
  | c :: s => if test c then some ([], s) else (cut? test s).map fun p => (c :: p.1, p.2)

def replaceChar (s : List Char) (old : Char) (new : List Char) : List Char :=
  s.flatMap fun c => if c = old then new else [c]

end TagAtlas.Text

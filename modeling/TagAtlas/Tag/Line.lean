import TagAtlas.Tag.Attributes
import TagAtlas.Tag.Basic

/-!
# Tags of comments

A tag fills a comment line: the marker, a type, after a colon an optional value, and after spaces
or tabs the attributes. Any other line holds no tag.
-/

namespace TagAtlas.Tag

def isTypeStart (c : Char) : Bool := c.isAlpha || c = '_'

def isTypePart (c : Char) : Bool := c.isAlphanum || c = '_'

def isValuePart (c : Char) : Bool := c.isAlphanum || c = '_' || c = '-'

def isGap (c : Char) : Bool := c = ' ' || c = '\t'

/-- The type, value and attribute text of an annotation. -/
structure Parts where
  type : List Char
  value : Option (List Char)
  rest : Option (List Char)
  deriving DecidableEq, Repr

/-- The attribute text after type and value: nothing, or a gap and the rest of the line. -/
def restAfter? : List Char → Option (Option (List Char))
  | [] => some none
  | c :: s =>
    if isGap c && !s.contains '\n' then some (some (s.dropWhile isGap)) else none

/-- Splits an annotation without blanks around it. -/
def parts? (s : List Char) : Option Parts := do
  let body ← Text.after? marker.toList s
  let type := body.takeWhile isTypePart
  let tail := body.dropWhile isTypePart
  if type.head?.any isTypeStart then
    match tail with
    | ':' :: more =>
      let rest ← restAfter? (more.dropWhile isValuePart)
      pure ⟨type, some (more.takeWhile isValuePart), rest⟩
    | _ =>
      let rest ← restAfter? tail
      pure ⟨type, none, rest⟩
  else none

/-- The tag that a comment line holds. An empty value is no value. -/
def ofLine? (s : String) (line : Nat) : Option Tag :=
  let body := Text.trim s.toList
  (parts? body).map fun p => {
    type := ⟨String.ofList p.type⟩
    value := (p.value.filter fun v => !v.isEmpty).map String.ofList
    attributes := (p.rest.map Attributes.read).getD .empty
    line := line
    content := String.ofList body
    symbol := none
    file := none }

/-- A line of a block comment without its leading star. -/
def blockLine (s : List Char) : List Char :=
  match Text.trim s with
  | '*' :: rest => Text.trim rest
  | rest => rest

/-- The lines of a comment without its delimiters. -/
def commentLines (raw : String) : List String :=
  match Text.trim raw.toList with
  | '/' :: '/' :: rest => [String.ofList (Text.trim rest)]
  | '/' :: '*' :: rest =>
    let body := (Text.before? ['*', '/'] rest).getD rest
    (Text.splitBy (· = '\n') body).map fun l => String.ofList (blockLine l)
  | s => [String.ofList s]

/-- The tags of the lines of a comment, the first of which is at `line`. -/
def ofLines (line : Nat) : List String → List Tag
  | [] => []
  | s :: rest => (ofLine? s line).toList ++ ofLines (line + 1) rest

def ofComment (raw : String) (line : Nat) : List Tag := ofLines line (commentLines raw)

end TagAtlas.Tag

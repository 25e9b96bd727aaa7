import TagAtlas.Decimal.View
import TagAtlas.Json.Basic

/-!
# Tokens of a JSON text

A text is cut into punctuation, words, numbers and strings; space, tab and line ends between
them are dropped. Each reader gives the rest of the text with a proof that it is no longer.
-/

namespace TagAtlas.Json

inductive Token where
  | openArray
  | closeArray
  | openObject
  | closeObject
  | comma
  | colon
  | value (v : Json)
  | brokenText

/-- What is left of a text after something was read from it. -/
abbrev Rest (s : List Char) := { r : List Char // r.length ≤ s.length }

def Rest.after (c : Char) {s : List Char} (r : Rest s) : Rest (c :: s) :=
  ⟨r.1, Nat.le_succ_of_le r.2⟩

def hexValue? (c : Char) : Option Nat :=
  if '0' ≤ c && c ≤ '9' then some (c.toNat - 48)
  else if 'a' ≤ c && c ≤ 'f' then some (c.toNat - 87)
  else if 'A' ≤ c && c ≤ 'F' then some (c.toNat - 55)
  else none

def hexQuad? (a b c d : Char) : Option Nat := do
  let a ← hexValue? a
  let b ← hexValue? b
  let c ← hexValue? c
  let d ← hexValue? d
  pure (((a * 16 + b) * 16 + c) * 16 + d)

/-- The character that stands for a single escape letter. -/
def escapeLetter? : Char → Option Char
  | '\x22' => some '\x22'
  | '\\' => some '\\'
  | '/' => some '/'
  | 'b' => some '\x08'
  | 'f' => some '\x0c'
  | 'n' => some '\n'
  | 'r' => some '\r'
  | 't' => some '\t'
  | _ => none

def isHighHalf (n : Nat) : Bool := 0xD800 ≤ n && n < 0xDC00

def isLowHalf (n : Nat) : Bool := 0xDC00 ≤ n && n < 0xE000

/-- A piece of a string: a character, or a code unit given by its number. -/
inductive Piece where
  | char (c : Char)
  | unit (n : Nat)

/-- The rest of a string after its opening quote: its pieces, and what follows the closing quote.
A control character and an unknown escape are refused. -/
def readString? : (s : List Char) → Option (List Piece × Rest s)
  | [] => none
  | '\x22' :: s => some ([], ⟨s, Nat.le_succ _⟩)
  | '\\' :: 'u' :: a :: b :: c :: d :: s =>
    match hexQuad? a b c d with
    | none => none
    | some n => (readString? s).map fun p =>
        (.unit n :: p.1, ⟨p.2.1, by have := p.2.2; simp; omega⟩)
  | '\\' :: c :: s =>
    match escapeLetter? c with
    | none => none
    | some e => (readString? s).map fun p =>
        (.char e :: p.1, ⟨p.2.1, by have := p.2.2; simp; omega⟩)
  | c :: s =>
    if c.toNat < 32 || c = '\\' then none
    else (readString? s).map fun p => (.char c :: p.1, p.2.after c)

/-- The text that pieces spell. Two halves of a pair of code units spell one character; half of a
pair by itself spells none. -/
def spelledBy? : List Piece → Option (List Char)
  | [] => some []
  | .char c :: rest => (spelledBy? rest).map (c :: ·)
  | .unit n :: rest =>
    if isLowHalf n then none
    else if isHighHalf n then
      match rest with
      | .unit m :: rest =>
        if isLowHalf m then
          let code := 0x10000 + (n - 0xD800) * 0x400 + (m - 0xDC00)
          (spelledBy? rest).map (Char.ofNat code :: ·)
        else none
      | _ => none
    else (spelledBy? rest).map (Char.ofNat n :: ·)

def Token.ofPieces (pieces : List Piece) : Token :=
  match spelledBy? pieces with
  | some text => .value (.string (String.ofList text))
  | none => .brokenText

def takeDigits : (s : List Char) → List Char × Rest s
  | [] => ([], ⟨[], Nat.le_refl _⟩)
  | c :: s =>
    if c.isDigit then
      let p := takeDigits s
      (c :: p.1, p.2.after c)
    else ([], ⟨c :: s, Nat.le_refl _⟩)

/-- A fraction after a number: a point and at least one digit, or nothing. -/
def takeFraction? : (s : List Char) → Option (Option (List Char) × Rest s)
  | '.' :: s =>
    let p := takeDigits s
    if p.1.isEmpty then none else some (some p.1, p.2.after '.')
  | s => some (none, ⟨s, Nat.le_refl _⟩)

def takePower? : (s : List Char) → Option (Int × Rest s)
  | '+' :: s =>
    let p := takeDigits s
    if p.1.isEmpty then none else some (Decimal.ofDigits p.1, p.2.after '+')
  | '-' :: s =>
    let p := takeDigits s
    if p.1.isEmpty then none else some (-(Decimal.ofDigits p.1 : Int), p.2.after '-')
  | s =>
    let p := takeDigits s
    if p.1.isEmpty then none else some (Decimal.ofDigits p.1, p.2)

def takeExponent? : (s : List Char) → Option (Option Int × Rest s)
  | 'e' :: s => (takePower? s).map fun p => (some p.1, p.2.after 'e')
  | 'E' :: s => (takePower? s).map fun p => (some p.1, p.2.after 'E')
  | s => some (none, ⟨s, Nat.le_refl _⟩)

/-- The number nearest to `significand * 10 ^ power`; nothing when it is beyond all finite ones. -/
def nearest? (significand : Nat) (power : Int) : Option Float :=
  if significand = 0 then some 0.0
  else
    let size : Int := (Decimal.digits significand).length + power
    if size > 310 then none
    else if size < -400 then some 0.0
    else
      let x := if power < 0 then Float.ofScientific significand true power.natAbs
        else Float.ofScientific significand false power.natAbs
      if x.isInf then none else some x

/-- The number that a sign, digits, a fraction and an exponent denote. It is whole when it has
neither fraction nor exponent and fits in 64 bits; a negative zero is real. -/
def number? (negative : Bool) (whole : List Char) (fraction : Option (List Char))
    (power : Option Int) : Option Number :=
  let n := Decimal.ofDigits whole
  let signed (x : Float) : Float := if negative then -x else x
  match fraction, power with
  | none, none =>
    if negative then
      if 0 < n && n ≤ 0x8000000000000000 then some (.whole (-(n : Int)))
      else (nearest? n 0).map fun x => .real (signed x)
    else if n < 0x10000000000000000 then some (.whole n)
    else (nearest? n 0).map .real
  | _, _ =>
    let places := fraction.getD []
    let digits := Decimal.ofDigits (whole ++ places)
    (nearest? digits (power.getD 0 - places.length)).map fun x => .real (signed x)

/-- A number without its sign, from its first digit on. A leading zero stands alone. -/
def readNumber? (negative : Bool) (first : Char) (s : List Char) : Option (Json × Rest s) :=
  let w := takeDigits s
  if first = '0' && !w.1.isEmpty then none
  else match takeFraction? w.2.1 with
    | none => none
    | some f =>
      match takeExponent? f.2.1 with
      | none => none
      | some e =>
        some (((number? negative (first :: w.1) f.1 e.1).map .number).getD .skipped,
          ⟨e.2.1, Nat.le_trans e.2.2 (Nat.le_trans f.2.2 w.2.2)⟩)

/-- The tokens of a text, or nothing when some part of it is no token. -/
def tokens? : List Char → Option (List Token)
  | [] => some []
  | ' ' :: s | '\t' :: s | '\n' :: s | '\r' :: s => tokens? s
  | '[' :: s => (tokens? s).map (.openArray :: ·)
  | ']' :: s => (tokens? s).map (.closeArray :: ·)
  | '\x7b' :: s => (tokens? s).map (.openObject :: ·)
  | '\x7d' :: s => (tokens? s).map (.closeObject :: ·)
  | ',' :: s => (tokens? s).map (.comma :: ·)
  | ':' :: s => (tokens? s).map (.colon :: ·)
  | 'n' :: 'u' :: 'l' :: 'l' :: s => (tokens? s).map (.value .null :: ·)
  | 't' :: 'r' :: 'u' :: 'e' :: s => (tokens? s).map (.value (.bool true) :: ·)
  | 'f' :: 'a' :: 'l' :: 's' :: 'e' :: s => (tokens? s).map (.value (.bool false) :: ·)
  | '\x22' :: s =>
    match readString? s with
    | none => none
    | some p => (tokens? p.2.1).map (.ofPieces p.1 :: ·)
  | '-' :: c :: s =>
    if c.isDigit then
      match readNumber? true c s with
      | none => none
      | some p => (tokens? p.2.1).map (.value p.1 :: ·)
    else none
  | c :: s =>
    if c.isDigit then
      match readNumber? false c s with
      | none => none
      | some p => (tokens? p.2.1).map (.value p.1 :: ·)
    else none
  termination_by s => s.length
  decreasing_by
    all_goals simp_wf
    all_goals first
      | omega
      | (have h := p.2.2; omega)

end TagAtlas.Json

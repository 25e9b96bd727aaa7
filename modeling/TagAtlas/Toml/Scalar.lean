import TagAtlas.Config.Value
import TagAtlas.Decimal.View
import TagAtlas.Time.Stamp

/-!
# Words that are values

A word of a TOML text is a truth value, a whole number, a floating-point number, or a date or time,
which is kept as a text.
-/

namespace TagAtlas.Toml

/-- Digits without the underscores that stand between two of them. -/
def digits? (isDigit : Char → Bool) : List Char → Option (List Char)
  | [] => none
  | [c] => if isDigit c then some [c] else none
  | c :: '_' :: rest => if isDigit c then (digits? isDigit rest).map (c :: ·) else none
  | c :: rest => if isDigit c then (digits? isDigit rest).map (c :: ·) else none

def digitValue (c : Char) : Nat :=
  if c.isDigit then c.toNat - '0'.toNat else c.toLower.toNat - 'a'.toNat + 10

def ofBase (base : Nat) (ds : List Char) : Nat := ds.foldl (fun n c => n * base + digitValue c) 0

def based? (base : Nat) (s : List Char) : Option Int :=
  let isDigit (c : Char) : Bool :=
    (c.isDigit || ('a' ≤ c.toLower && c.toLower ≤ 'f')) && digitValue c < base
  (digits? isDigit s).map fun ds => ofBase base ds

/-- Decimal digits, of which the first is no zero unless it is alone. -/
def decimal? (s : List Char) : Option (List Char) :=
  (digits? Char.isDigit s).filter fun ds => ds.length = 1 || ds.head? ≠ some '0'

def signed (s : List Char) : Bool × List Char :=
  match s with
  | '-' :: rest => (true, rest)
  | '+' :: rest => (false, rest)
  | s => (false, s)

def isWord (n : Int) : Bool := -0x8000000000000000 ≤ n && n < 0x8000000000000000

def whole? (s : List Char) : Option Int :=
  let value := match s with
    | '0' :: 'x' :: rest => based? 16 rest
    | '0' :: 'o' :: rest => based? 8 rest
    | '0' :: 'b' :: rest => based? 2 rest
    | s =>
      let (isNegative, rest) := signed s
      (decimal? rest).map fun ds => if isNegative then -(ofBase 10 ds : Int) else ofBase 10 ds
  value.filter isWord

/-- The floating-point number nearest to a decimal; one that is too large is infinite. -/
def nearest (significand : Nat) (power : Int) : Float :=
  if significand = 0 then 0.0
  else
    let size : Int := (Decimal.digits significand).length + power
    if 310 < size then 1.0 / 0.0
    else if size < -400 then 0.0
    else Float.ofScientific significand (power < 0) power.natAbs

/-- A text cut at the first of some characters; the character is dropped. -/
def cutAt (marks : List Char) (s : List Char) : List Char × Option (List Char) :=
  match s.span fun c => !marks.contains c with
  | (before, _ :: after) => (before, some after)
  | (before, []) => (before, none)

def real? (s : List Char) : Option Float := do
  let (isNegative, rest) := signed s
  let sign (x : Float) : Float := if isNegative then -x else x
  if rest = ['i', 'n', 'f'] then pure (sign (1.0 / 0.0))
  else if rest = ['n', 'a', 'n'] then pure (0.0 / 0.0)
  else
    let (mantissa, power?) := cutAt ['e', 'E'] rest
    let (front, fraction?) := cutAt ['.'] mantissa
    if power?.isNone && fraction?.isNone then none
    else
      let front ← decimal? front
      let fraction ← match fraction? with
        | none => some []
        | some f => digits? Char.isDigit f
      let power ← match power? with
        | none => some (0 : Int)
        | some p =>
          let (isNegative, p) := signed p
          (digits? Char.isDigit p).map fun ds =>
            if isNegative then -(ofBase 10 ds : Int) else ofBase 10 ds
      pure (sign (nearest (ofBase 10 (front ++ fraction)) (power - fraction.length)))

def pair? (bound : Nat) : List Char → Option (List Char)
  | [a, b] =>
    if a.isDigit && b.isDigit && ofBase 10 [a, b] < bound then some [a, b] else none
  | _ => none

def date? (s : List Char) : Option (List Char) :=
  match s with
  | [a, b, c, d, '-', e, f, '-', g, h] =>
    if [a, b, c, d, e, f, g, h].all Char.isDigit then
      let year := ofBase 10 [a, b, c, d]
      let month := ofBase 10 [e, f]
      let day := ofBase 10 [g, h]
      if 1 ≤ month && month ≤ 12 && 1 ≤ day && day ≤ Stamp.daysIn year month then some s else none
    else none
  | _ => none

/-- The fraction of a second as it is written: nine digits at most, without zeros at the end. -/
def fractionText (ds : List Char) : List Char :=
  let kept := ((ds.take 9).reverse.dropWhile (· = '0')).reverse
  if kept.isEmpty then [] else '.' :: kept

def time? (s : List Char) : Option (List Char) :=
  match s with
  | a :: b :: ':' :: c :: d :: rest => do
    let hour ← pair? 24 [a, b]
    let minute ← pair? 60 [c, d]
    let front := hour ++ ':' :: minute ++ [':']
    match rest with
    | [] => pure (front ++ ['0', '0'])
    | [':', e, f] => (pair? 61 [e, f]).map fun second => front ++ second
    | ':' :: e :: f :: '.' :: fraction => do
      let second ← pair? 61 [e, f]
      if !fraction.isEmpty && fraction.all Char.isDigit then
        pure (front ++ second ++ fractionText fraction)
      else none
    | _ => none
  | _ => none

def offset? (s : List Char) : Option (List Char) :=
  match s with
  | ['Z'] | ['z'] => some ['Z']
  | [sign, a, b, ':', c, d] =>
    if sign = '+' || sign = '-' then do
      let hour ← pair? 24 [a, b]
      let minute ← pair? 60 [c, d]
      pure (sign :: hour ++ ':' :: minute)
    else none
  | _ => none

/-- A time of day, perhaps with its distance from universal time. -/
def fullTime? (s : List Char) : Option (List Char) :=
  match s.span fun c => c ≠ 'Z' && c ≠ 'z' && c ≠ '+' && c ≠ '-' with
  | (time, []) => time? time
  | (time, offset) => do pure ((← time? time) ++ (← offset? offset))

def moment? (s : List Char) : Option (List Char) :=
  match s.drop 10 with
  | [] => (date? s).or (time? s)
  | mark :: rest =>
    if mark = 'T' || mark = 't' then do pure ((← date? (s.take 10)) ++ 'T' :: (← fullTime? rest))
    else time? s

def scalar? (word : String) : Option ConfigValue :=
  let s := word.toList
  if word = "true" then some (.flag true)
  else if word = "false" then some (.flag false)
  else match whole? s with
    | some n => some (.whole n)
    | none =>
      match real? s with
      | some x => some (.real x)
      | none => (moment? s).map fun text => .text (String.ofList text)

end TagAtlas.Toml

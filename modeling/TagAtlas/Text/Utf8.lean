/-!
# Reading UTF-8 with mistakes

Bytes that are no UTF-8 are read as well as they can be: the longest piece that could begin a
character, but does not go on as one, is read as the replacement character.
-/

namespace TagAtlas.Text.Utf8

def replacement : Char := Char.ofNat 0xFFFD

structure Begun where
  value : Nat
  left : Nat
  low : Nat
  high : Nat
  deriving DecidableEq, Repr

/-- The character that a byte above ASCII begins, if it can begin one. -/
def begin? (b : Nat) : Option Begun :=
  if 0xC2 ≤ b && b ≤ 0xDF then some ⟨b - 0xC0, 1, 0x80, 0xBF⟩
  else if b = 0xE0 then some ⟨0, 2, 0xA0, 0xBF⟩
  else if b = 0xED then some ⟨0xD, 2, 0x80, 0x9F⟩
  else if 0xE1 ≤ b && b ≤ 0xEF then some ⟨b - 0xE0, 2, 0x80, 0xBF⟩
  else if b = 0xF0 then some ⟨0, 3, 0x90, 0xBF⟩
  else if b = 0xF4 then some ⟨4, 3, 0x80, 0x8F⟩
  else if 0xF1 ≤ b && b ≤ 0xF3 then some ⟨b - 0xF0, 3, 0x80, 0xBF⟩
  else none

/-- What a byte says at the start of a character: characters that are complete, and one that has
begun. -/
def start (b : Nat) : List Char × Option Begun :=
  if b < 0x80 then ([Char.ofNat b], none)
  else match begin? b with
    | some begun => ([], some begun)
    | none => ([replacement], none)

def next (begun : Option Begun) (b : Nat) : List Char × Option Begun :=
  match begun with
  | none => start b
  | some p =>
    if p.low ≤ b && b ≤ p.high then
      let value := p.value * 64 + b % 64
      if p.left = 1 then ([Char.ofNat value], none) else ([], some ⟨value, p.left - 1, 0x80, 0xBF⟩)
    else
      let (chars, begun) := start b
      (replacement :: chars, begun)

/-- The characters of bytes after a character that has begun. -/
def decodeFrom (begun : Option Begun) : List UInt8 → List Char
  | [] => if begun.isSome then [replacement] else []
  | b :: rest =>
    let (chars, begun) := next begun b.toNat
    chars ++ decodeFrom begun rest

def decode (bytes : List UInt8) : String := String.ofList (decodeFrom none bytes)

end TagAtlas.Text.Utf8

import TagAtlas.Text.CaseTable

/-!
# Letter case

Upper-case tests and the full Unicode lower-case mapping. Two rules of the mapping are not
character by character: a dotted capital I gives two characters, and a capital sigma at the end
of a word gives the final form.
-/

namespace TagAtlas.Text

def isUppercase (c : Char) : Bool :=
  if c.toNat < 0x80 then c.isUpper else inSpans CaseTable.upperSpans c.toNat

def isCased (c : Char) : Bool :=
  if c.toNat < 0x80 then c.isAlpha else inSpans CaseTable.casedSpans c.toNat

def isCaseIgnorable (c : Char) : Bool :=
  if c.toNat < 0x80 then
    c = '\x27' || c = '.' || c = ':' || c = '^' || c = '\x60'
  else inSpans CaseTable.ignorableSpans c.toNat

def lowerChar (c : Char) : List Char :=
  if c.toNat < 0x80 then [c.toLower]
  else if c.toNat = 0x130 then ['i', Char.ofNat 0x307]
  else match CaseTable.lowerShifts.find? (fun e => e.1.holds c.toNat) with
    | some e => [Char.ofNat (Int.toNat (c.toNat + e.2))]
    | none => [c]

/-- Whether the first character that case does not ignore is a cased one. -/
def leadsToCased (s : List Char) : Bool :=
  match s.dropWhile isCaseIgnorable with
  | [] => false
  | c :: _ => isCased c

/-- Lower case of a text of which the part in `before` (nearest character first) is done. -/
def lowerFrom (before : List Char) : List Char → List Char
  | [] => []
  | c :: rest =>
    let here :=
      if c.toNat = 0x3A3 then
        if leadsToCased before && !leadsToCased rest then [Char.ofNat 0x3C2] else [Char.ofNat 0x3C3]
      else lowerChar c
    here ++ lowerFrom (c :: before) rest

def lower (s : String) : String := String.ofList (lowerFrom [] s.toList)

end TagAtlas.Text

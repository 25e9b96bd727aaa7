/-!
# Binary floating-point numbers as exact values

A finite number is a sign and an exact value `significand * 2 ^ exponent`; all decimal texts are
computed from it with natural numbers only.
-/

namespace TagAtlas.Decimal

inductive View where
  | notANumber
  | infinite (negative : Bool)
  | finite (negative : Bool) (significand : Nat) (exponent : Int)
  deriving Repr, DecidableEq

/-- The bit in front of the fraction of a normal number, `2 ^ 52`. -/
def leadingBit : Nat := 0x10000000000000

/-- Reads the 64 bits of the binary interchange format. -/
def View.ofBits (bits : Nat) : View :=
  let negative := bits / 0x8000000000000000 % 2 = 1
  let biased : Nat := bits / leadingBit % 2048
  let fraction := bits % leadingBit
  if biased = 2047 then
    if fraction = 0 then .infinite negative else .notANumber
  else if biased = 0 then .finite negative fraction (-1074)
  else .finite negative (leadingBit + fraction) ((biased : Int) - 1075)

def View.ofFloat (x : Float) : View := .ofBits x.toBits.toNat

def digits (n : Nat) : List Char := Nat.toDigits 10 n

def ofDigits (ds : List Char) : Nat := ds.foldl (fun n c => 10 * n + (c.toNat - 48)) 0

end TagAtlas.Decimal

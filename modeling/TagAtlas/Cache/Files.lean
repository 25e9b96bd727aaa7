import TagAtlas.Cache.Stats
import TagAtlas.Cache.Store
import TagAtlas.Hash.Sha256

/-!
# Caches of file summaries

A cache keeps bytes under fingerprints. A fingerprint changes with the path and with the
modification time of a file. Look-ups are not noted as uses, so the bytes stored longest ago are
driven out first.
-/

namespace TagAtlas

namespace Fingerprint

/-- The bytes of a number, so many of them, the lowest first. -/
def littleEndian : Nat → Nat → List UInt8
  | 0, _ => []
  | count + 1, n => UInt8.ofNat n :: littleEndian count (n / 256)

def textBytes (s : String) : List UInt8 := s.toUTF8.toList

/-- What the fingerprint of a file is the digest of: the path, a zero, and the modification time in
sixteen bytes. Times before 1970 count as its start. -/
def preimage (path : String) (modified : Time) : List UInt8 :=
  textBytes path ++ 0 :: littleEndian 16 modified.toNat

def ofFile (path : String) (modified : Time) : String :=
  Sha256.hex (Sha256.digest (preimage path modified))

end Fingerprint

inductive FileCache where
  | none (misses : Nat)
  | memory (store : Store String (List UInt8)) (hits misses : Nat)
  deriving DecidableEq, Repr

namespace FileCache

def disabled : FileCache := .none 0

/-- A cache that keeps so many values, each for so many nanoseconds. -/
def bounded (capacity lifetime : Nat) : FileCache := .memory (Store.new capacity (some lifetime)) 0 0

def get? (c : FileCache) (key : String) (now : Time) : Option (List UInt8) × FileCache :=
  match c with
  | .none misses => (Option.none, .none (misses + 1))
  | .memory store hits misses =>
    match store.peek? key now with
    | some bytes => (some bytes, .memory store (hits + 1) misses)
    | Option.none => (Option.none, .memory store hits (misses + 1))

def set (c : FileCache) (key : String) (bytes : List UInt8) (now : Time) : FileCache :=
  match c with
  | .none misses => .none misses
  | .memory store hits misses => .memory (store.insert key bytes now) hits misses

/-- Takes a fingerprint out. Tells whether there was one. -/
def delete (c : FileCache) (key : String) : Bool × FileCache :=
  match c with
  | .none misses => (false, .none misses)
  | .memory store hits misses =>
    let (old, store) := store.remove key
    (old.isSome, .memory store hits misses)

def clear : FileCache → FileCache
  | .none misses => .none misses
  | .memory store hits misses => .memory store.clear hits misses

def size : FileCache → Nat
  | .none _ => 0
  | .memory store _ _ => store.size

def stats : FileCache → CacheStats
  | .none misses => ⟨0, misses, 0, 0, 0⟩
  | .memory store hits misses => ⟨hits, misses, store.evictions, store.size, store.capacity⟩

end FileCache

end TagAtlas

import TagAtlas.Time.Basic

/-!
# Bounded stores with expiry

A store holds a bounded number of values under distinct keys. A value expires when its lifetime is
over. A new key that finds the store full drives out all expired values, or else the value that has
gone unused longest.
-/

namespace TagAtlas

/-- A stored value and when it was stored and used. -/
structure Entry (α : Type) where
  value : α
  createdAt : Time
  lastUsed : Time
  uses : Nat
  lifetime : Option Nat
  deriving DecidableEq, Repr

namespace Entry

variable {α : Type}

/-- A value stored at a time; storing counts as a use. -/
def new (value : α) (lifetime : Option Nat) (now : Time) : Entry α := ⟨value, now, now, 1, lifetime⟩

def isExpired (e : Entry α) (now : Time) : Bool :=
  match e.lifetime with
  | some span => span ≤ e.createdAt.elapsed now
  | none => false

def touch (e : Entry α) (now : Time) : Entry α := { e with lastUsed := now, uses := e.uses + 1 }

end Entry

/-- Values under distinct keys, at most `capacity` of them. -/
structure Store (κ α : Type) where
  entries : List (κ × Entry α)
  capacity : Nat
  /-- Lifetime of values that are stored without one of their own. -/
  lifetime : Option Nat
  /-- Number of values that were driven out or purged. -/
  evictions : Nat
  deriving DecidableEq, Repr

namespace Store

variable {κ α : Type} [DecidableEq κ]

/-- An empty store. It has room for one value at least. -/
def new (capacity : Nat) (lifetime : Option Nat) : Store κ α := ⟨[], max capacity 1, lifetime, 0⟩

def size (s : Store κ α) : Nat := s.entries.length

def entry? (s : Store κ α) (key : κ) : Option (Entry α) := s.entries.lookup key

def erase (s : Store κ α) (key : κ) : Store κ α :=
  { s with entries := s.entries.filter fun e => e.1 ≠ key }

/-- The value under a key, if it has not expired; nothing is noted. -/
def peek? (s : Store κ α) (key : κ) (now : Time) : Option α :=
  match s.entry? key with
  | some e => if e.isExpired now then none else some e.value
  | none => none

/-- The value under a key; the use is noted, and an expired value is taken out. -/
def get? (s : Store κ α) (key : κ) (now : Time) : Option α × Store κ α :=
  match s.entry? key with
  | none => (none, s)
  | some e =>
    if e.isExpired now then (none, s.erase key)
    else
      let touched := s.entries.map fun p => if p.1 = key then (p.1, p.2.touch now) else p
      (some e.value, { s with entries := touched })

/-- Takes all expired values out and counts them. -/
def purge (s : Store κ α) (now : Time) : Nat × Store κ α :=
  let kept := s.entries.filter fun e => !e.2.isExpired now
  let count := s.entries.length - kept.length
  (count, { s with entries := kept, evictions := s.evictions + count })

def oldest? : List (κ × Entry α) → Option (κ × Time)
  | [] => none
  | (k, e) :: rest =>
    match oldest? rest with
    | some (k', t) => if t < e.lastUsed then some (k', t) else some (k, e.lastUsed)
    | none => some (k, e.lastUsed)

/-- Makes room: drives out the expired values, or else the one that has gone unused longest. -/
def makeRoom (s : Store κ α) (now : Time) : Store κ α :=
  let (count, purged) := s.purge now
  if 0 < count then purged
  else match oldest? s.entries with
    | some (key, _) => { s.erase key with evictions := s.evictions + 1 }
    | none => s

def insertFor (s : Store κ α) (key : κ) (value : α) (lifetime : Option Nat) (now : Time) :
    Store κ α :=
  let s := if (s.entry? key).isNone && s.capacity ≤ s.size then s.makeRoom now else s
  { s.erase key with entries := (s.erase key).entries ++ [(key, Entry.new value lifetime now)] }

def insert (s : Store κ α) (key : κ) (value : α) (now : Time) : Store κ α :=
  s.insertFor key value s.lifetime now

/-- Takes a key out and gives its value, expired or not. -/
def remove (s : Store κ α) (key : κ) : Option α × Store κ α :=
  ((s.entry? key).map Entry.value, s.erase key)

/-- Takes out the values that satisfy a test and counts them. -/
def removeWhere (s : Store κ α) (test : κ → α → Bool) : Nat × Store κ α :=
  let kept := s.entries.filter fun e => !test e.1 e.2.value
  (s.entries.length - kept.length, { s with entries := kept })

def clear (s : Store κ α) : Store κ α := { s with entries := [] }

end Store

end TagAtlas

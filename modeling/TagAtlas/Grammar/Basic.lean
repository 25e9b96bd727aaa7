/-!
# Grammars

A grammar is a list of rules over nonterminals `N` and terminals `T`; no rule has an empty body.
For a recogniser the rules are laid out in one row of cells: a position in the row says which
rule is being read and how much of it has been read.
-/

namespace TagAtlas.Grammar

variable {N T : Type}

inductive Symbol (N T : Type) where
  | nonterminal (n : N)
  | terminal (t : T)
  deriving DecidableEq, Repr

/-- A part of a rule as it is written: a symbol, or one that may be left out. -/
inductive Part (N T : Type) where
  | one (s : Symbol N T)
  | maybe (s : Symbol N T)

/-- The bodies that a row of parts stands for. -/
def Part.expand : List (Part N T) → List (List (Symbol N T))
  | [] => [[]]
  | .one s :: rest => (expand rest).map (s :: ·)
  | .maybe s :: rest => (expand rest).map (s :: ·) ++ expand rest

structure Rule (N T : Type) where
  head : N
  body : List (Symbol N T)
  deriving DecidableEq

def rules (head : N) (bodies : List (List (Part N T))) : List (Rule N T) :=
  bodies.flatMap fun parts => (Part.expand parts).map (Rule.mk head)

/-- Whether a nonterminal derives a row of terminals. -/
inductive Derives (grammar : List (Rule N T)) : List (Symbol N T) → List T → Prop where
  | nil : Derives grammar [] []
  | terminal (t : T) {rest : List (Symbol N T)} {ts : List T} (tail : Derives grammar rest ts) :
      Derives grammar (.terminal t :: rest) (t :: ts)
  | nonterminal {r : Rule N T} {rest : List (Symbol N T)} {ts us : List T} (mem : r ∈ grammar)
      (body : Derives grammar r.body ts) (tail : Derives grammar rest us) :
      Derives grammar (.nonterminal r.head :: rest) (ts ++ us)

/-- A cell of the row: the symbol that comes next, or the head of the rule that is complete. -/
inductive Cell (N T : Type) where
  | next (s : Symbol N T)
  | complete (head : N)

def Rule.cells (r : Rule N T) : List (Cell N T) := r.body.map .next ++ [.complete r.head]

/-- All rules in one row, and where those of each nonterminal begin. -/
structure Layout (N T : Type) where
  cells : Array (Cell N T)
  starts : N → List Nat

def startsFrom [DecidableEq N] (position : Nat) : List (Rule N T) → List (N × Nat)
  | [] => []
  | r :: rest => (r.head, position) :: startsFrom (position + r.body.length + 1) rest

def layout [DecidableEq N] (grammar : List (Rule N T)) (heads : List N) : Layout N T :=
  let starts := startsFrom 0 grammar
  let table := heads.map fun n => (n, (starts.filter (·.1 = n)).map Prod.snd)
  ⟨(grammar.flatMap Rule.cells).toArray, fun n => (table.lookup n).getD []⟩

end TagAtlas.Grammar

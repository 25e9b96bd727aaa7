import Std.Data.HashSet
import TagAtlas.Grammar.Basic

/-!
# Chart recogniser

An item says that a rule has been read up to a cell, beginning at some position of the input. The
items of a position are those that reading the last terminal gives, closed under starting the
rules of the nonterminal that comes next and under moving past a nonterminal that is complete. A
row is accepted when a rule of the start symbol is complete at its end. Optional terminals count
only where some item waits for them, and are dropped elsewhere.
-/

namespace TagAtlas.Grammar

variable {N T α : Type} [DecidableEq N] [DecidableEq T]

/-- A rule read up to a cell, from a position of the input on. -/
structure Item where
  cell : Nat
  origin : Nat
  deriving DecidableEq, Hashable

/-- The items of the positions so far, last position first, are kept by position. -/
abbrev Chart := Array (List Item)

/-- The items of a position while it is being closed. -/
structure Closing where
  items : List Item
  seen : Std.HashSet Item

/-- Adds an item, and lists it as work unless it was there. -/
def Closing.add (c : Closing) (work : List Item) (i : Item) : Closing × List Item :=
  if c.seen.contains i then (c, work) else (⟨i :: c.items, c.seen.insert i⟩, i :: work)

def Closing.addAll (c : Closing) (work : List Item) (is : List Item) : Closing × List Item :=
  is.foldl (fun p i => p.1.add p.2 i) (c, work)

/-- Whether the symbol after an item is a given nonterminal. -/
def awaits (g : Layout N T) (n : N) (i : Item) : Bool :=
  match g.cells[i.cell]? with
  | some (.next (.nonterminal m)) => m = n
  | _ => false

/-- The items that an item of the present position gives at the same position. A complete rule
began at an earlier one, because no body is empty. -/
def consequences (g : Layout N T) (chart : Chart) (i : Item) : List Item :=
  match g.cells[i.cell]? with
  | some (.next (.nonterminal n)) => (g.starts n).map fun s => ⟨s, chart.size⟩
  | some (.complete n) =>
    ((chart.getD i.origin []).filter (awaits g n)).map fun j => ⟨j.cell + 1, j.origin⟩
  | _ => []

/-- Closes the items of a position. Each step takes one item from the work list, and an item
enters it once; `limit` is a bound on their number. -/
def close (g : Layout N T) (chart : Chart) : Nat → Closing → List Item → List Item
  | 0, c, _ => c.items
  | _, c, [] => c.items
  | limit + 1, c, i :: work =>
    let (c, work) := c.addAll work (consequences g chart i)
    close g chart limit c work

/-- All items of a position, from those that the last terminal gave. -/
def closure (g : Layout N T) (chart : Chart) (first : List Item) : List Item :=
  let (c, work) := Closing.addAll ⟨[], {}⟩ [] first
  close g chart (g.cells.size * (chart.size + 1)) c work

/-- The item after reading a terminal, if the rule goes on with it. -/
def Item.advance? (g : Layout N T) (t : T) (i : Item) : Option Item :=
  match g.cells[i.cell]? with
  | some (.next (.terminal u)) => if u = t then some ⟨i.cell + 1, i.origin⟩ else none
  | _ => none

/-- Reads what the grammar sees of a row, and drops what is optional where it cannot follow. Gives
what is left of the row and the items at its end, or what cannot follow. -/
def run (g : Layout N T) (view : α → Option T) (isOptional : T → Bool) (chart : Chart)
    (items : List Item) : List α → Except α (List α × List Item)
  | [] => .ok ([], items)
  | a :: rest =>
    match view a with
    | none => (run g view isOptional chart items rest).map fun p => (a :: p.1, p.2)
    | some t =>
      let longer := chart.push items
      match closure g longer (items.filterMap (Item.advance? g t)) with
      | [] => if isOptional t then run g view isOptional chart items rest else .error a
      | next => (run g view isOptional longer next rest).map fun p => (a :: p.1, p.2)

/-- Whether a rule of the nonterminal is complete that began at the first position. -/
def accepts (g : Layout N T) (start : N) (items : List Item) : Bool :=
  items.any fun i => match g.cells[i.cell]? with
    | some (.complete n) => i.origin = 0 && n = start
    | _ => false

/-- Reads a row as a nonterminal and gives what is left of it. What cannot follow is the error; it
is none when the row ends too early. -/
def read (g : Layout N T) (start : N) (view : α → Option T) (isOptional : T → Bool) (row : List α) :
    Except (Option α) (List α) :=
  let first := closure g #[] ((g.starts start).map fun s => ⟨s, 0⟩)
  match run g view isOptional #[] first row with
  | .error a => .error (some a)
  | .ok (left, items) => if accepts g start items then .ok left else .error none

end TagAtlas.Grammar

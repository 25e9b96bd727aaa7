import TagAtlas.Graph.Adjacency
import TagAtlas.Graph.Reachable

/-!
# Install order

Modules are installed in layers: a module comes as soon as all it needs is installed, and the
modules of a layer come by name. For each module that is not installed, a counter says how many of
its needs are not installed.
-/

namespace TagAtlas.InstallOrder

/-- The modules that some modules need, directly or not, and these modules themselves. -/
def closure (needs : Adjacency) (requested : List String) : List String :=
  Dict.sortedSet (Reachable.walk needs (Dict.sortedSet (needs.nodes ++ requested)) requested)

/-- The distinct modules that a module waits for: those it needs, other than itself. -/
def awaited (needs : Adjacency) (required : List String) (name : String) : List String :=
  Dict.sortedSet ((needs.successors name).filter fun d => required.contains d && d ≠ name)

/-- For each module that is not installed, the number of modules it waits for. -/
abbrev Counters := Dict Int

/-- The counters before anything is installed. -/
def counters (needs : Adjacency) (required : List String) : Counters :=
  Dict.ofList (required.map fun name => (name, ((awaited needs required name).length : Int)))

def waiting (needs : Adjacency) (required : List String) (name : String) : List String :=
  required.filter fun other => (awaited needs required other).contains name

/-- What the installation of modules does to the counters. -/
inductive Change where
  /-- An installed module has no counter any more. -/
  | remove (name : String)
  | lower (name : String)
  deriving DecidableEq, Repr

/-- The counters after a change. A module without a counter has none to lower. -/
def Change.apply (c : Counters) : Change → Counters
  | .remove name => c.erase name
  | .lower name =>
    match c.find? name with
    | some n => c.insert name (n - 1)
    | none => c

def changesOf (needs : Adjacency) (required : List String) (name : String) : List Change :=
  .remove name :: (waiting needs required name).map .lower

def ready (c : Counters) : List String := (c.filter fun _ n => n = 0).keys

/-- The counters after the modules that wait for nothing are installed, one after another. -/
def afterLayer (needs : Adjacency) (required : List String) (c : Counters) : Counters :=
  ((ready c).flatMap (changesOf needs required)).foldl Change.apply c

theorem size_erase_le (c : Counters) (name : String) : (c.erase name).size ≤ c.size :=
  List.length_filter_le _ _

theorem size_erase_lt {c : Counters} {name : String} (h : name ∈ c.keys) :
    (c.erase name).size < c.size := by
  obtain ⟨e, he, rfl⟩ := List.mem_map.mp h
  exact List.length_filter_lt_length_iff_exists.mpr ⟨e, he, by simp⟩

theorem size_apply_le (c : Counters) (change : Change) : (change.apply c).size ≤ c.size := by
  cases change with
  | remove name => exact size_erase_le c name
  | lower name =>
    cases h : c.find? name with
    | none => simp [Change.apply, h]
    | some n =>
      have hsize := c.size_insert_of_contains (n - 1) (by simp [Dict.contains, h] : c.contains name)
      simp [Change.apply, h, hsize]

theorem size_foldl_apply_le (changes : List Change) (c : Counters) :
    (changes.foldl Change.apply c).size ≤ c.size := by
  induction changes generalizing c with
  | nil => exact Nat.le_refl _
  | cons change rest ih => exact Nat.le_trans (ih _) (size_apply_le c change)

theorem mem_keys_of_mem_ready {c : Counters} {name : String} (h : name ∈ ready c) :
    name ∈ c.keys := by
  obtain ⟨e, he, rfl⟩ := List.mem_map.mp h
  exact List.mem_map.mpr ⟨e, (List.mem_filter.mp he).1, rfl⟩

theorem size_afterLayer_lt (needs : Adjacency) (required : List String) {c : Counters}
    (h : (ready c).isEmpty = false) : (afterLayer needs required c).size < c.size := by
  unfold afterLayer
  cases hr : ready c with
  | nil => simp [hr] at h
  | cons name rest =>
    have hmem : name ∈ c.keys := mem_keys_of_mem_ready (hr ▸ List.mem_cons_self)
    rw [List.flatMap_cons, changesOf, List.cons_append, List.foldl_cons]
    exact Nat.lt_of_le_of_lt (size_foldl_apply_le _ _) (size_erase_lt hmem)

/-- Installs layer after layer while some module waits for nothing. Gives the layers, and the
counters of the modules that are never ready. -/
def layers (needs : Adjacency) (required : List String) (c : Counters) :
    List (List String) × Counters :=
  if (ready c).isEmpty then ([], c)
  else
    let later := layers needs required (afterLayer needs required c)
    (ready c :: later.1, later.2)
  termination_by c.size
  decreasing_by
    rename_i h
    exact size_afterLayer_lt needs required (by simpa using h)

end TagAtlas.InstallOrder

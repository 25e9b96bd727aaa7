/-!
# Values of settings

What a layer of settings says before it is known which types its settings have.
-/

namespace TagAtlas

/-- A value of a setting, or a table of them. -/
inductive ConfigValue where
  | nothing
  | flag (value : Bool)
  | whole (value : Int)
  | real (value : Float)
  | text (value : String)
  | list (items : List ConfigValue)
  | table (entries : List (String × ConfigValue))

namespace ConfigValue

instance : Inhabited ConfigValue := ⟨.table []⟩

def setEntry (key : String) (v : ConfigValue) :
    List (String × ConfigValue) → List (String × ConfigValue)
  | [] => [(key, v)]
  | e :: rest => if e.1 = key then (key, v) :: rest else e :: setEntry key v rest

/-- The entries of a table; anything else has none. -/
def entries : ConfigValue → List (String × ConfigValue)
  | .table es => es
  | _ => []

mutual
/-- Sets a key of a table. Tables are merged, and anything else takes the place of what was there.
What is no table becomes one. -/
def set (key : String) (root : ConfigValue) : ConfigValue → ConfigValue
  | .table incoming =>
    let old := (root.entries.lookup key).getD (.table [])
    .table (setEntry key (merge old incoming) root.entries)
  | v => .table (setEntry key v root.entries)

def merge (root : ConfigValue) : List (String × ConfigValue) → ConfigValue
  | [] => root
  | (key, v) :: rest => merge (set key root v) rest
end

/-- Sets what a row of keys leads to, with the tables on the way. -/
def setAt (root : ConfigValue) (v : ConfigValue) : List String → ConfigValue
  | [] => root
  | [key] => set key root v
  | key :: rest =>
    let old := (root.entries.lookup key).getD (.table [])
    .table (setEntry key (setAt old v rest) root.entries)

end ConfigValue

end TagAtlas

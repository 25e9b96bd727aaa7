import TagAtlas.Time.Basic

/-!
# Trees of files and folders

A folder lists its entries under their names. Where a name is listed twice, the first entry counts.
-/

namespace TagAtlas

/-- What a file holds, and when that changed last. -/
structure StoredFile where
  bytes : ByteArray
  modified : Time

namespace StoredFile

def size (f : StoredFile) : Nat := f.bytes.size

def text? (f : StoredFile) : Option String := String.fromUTF8? f.bytes

end StoredFile

/-- A file, or a folder with its entries. -/
inductive Tree where
  | file (data : StoredFile)
  | folder (entries : List (String × Tree))

namespace Tree

instance : Inhabited Tree := ⟨.folder []⟩

def isFolder : Tree → Bool
  | .file _ => false
  | .folder _ => true

/-- The entries of a folder; a file has none. -/
def entries : Tree → List (String × Tree)
  | .file _ => []
  | .folder es => es

def child? (t : Tree) (name : String) : Option Tree := t.entries.lookup name

def childFile? (t : Tree) (name : String) : Option StoredFile :=
  match t.child? name with
  | some (.file data) => some data
  | _ => none

def at? (t : Tree) : List String → Option Tree
  | [] => some t
  | name :: rest => (t.child? name).bind fun c => c.at? rest

def setEntry (name : String) (t : Tree) : List (String × Tree) → List (String × Tree)
  | [] => [(name, t)]
  | e :: rest => if e.1 = name then (name, t) :: rest else e :: setEntry name t rest

/-- Puts something at the end of a row of names, with the folders on the way. -/
def put : Tree → List String → Tree → Tree
  | _, [], new => new
  | t, name :: rest, new =>
    let old := (t.child? name).getD (.folder [])
    .folder (setEntry name (old.put rest new) t.entries)

/-- Makes a folder at the end of a row of names, unless something is there. -/
def makeFolder (t : Tree) (names : List String) : Tree :=
  if (t.at? names).isSome then t else t.put names (.folder [])

def remove : Tree → List String → Tree
  | t, [] => t
  | t, [name] => .folder (t.entries.filter fun e => e.1 ≠ name)
  | t, name :: rest =>
    match t.child? name with
    | some c => .folder (setEntry name (c.remove rest) t.entries)
    | none => t

end Tree

end TagAtlas

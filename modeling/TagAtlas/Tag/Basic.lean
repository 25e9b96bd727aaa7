import TagAtlas.Dict
import TagAtlas.Text.Search

/-!
# Tags

A tag is one annotation `@kthulu:<type>[:<value>] [attributes]` of a comment. Its type is a name;
thirteen names are known, every other one is kept as it was written.
-/

namespace TagAtlas

structure TagType where
  name : String
  deriving DecidableEq, Repr

namespace TagType

abbrev module : TagType := ⟨"module"⟩
abbrev dependency : TagType := ⟨"dependency"⟩
abbrev requires : TagType := ⟨"requires"⟩
abbrev provides : TagType := ⟨"provides"⟩
abbrev observable : TagType := ⟨"observable"⟩
abbrev security : TagType := ⟨"security"⟩
abbrev compliance : TagType := ⟨"compliance"⟩
abbrev handler : TagType := ⟨"handler"⟩
abbrev service : TagType := ⟨"service"⟩
abbrev repository : TagType := ⟨"repository"⟩
abbrev domain : TagType := ⟨"domain"⟩
abbrev generated : TagType := ⟨"generated"⟩
abbrev project : TagType := ⟨"project"⟩

def known : List TagType :=
  [module, dependency, requires, provides, observable, security, compliance, handler, service,
    repository, domain, generated, project]

def isKnown (t : TagType) : Bool := known.contains t

end TagType

structure Tag where
  type : TagType
  value : Option String
  attributes : Dict String
  /-- Line of the comment line that holds it, from 1. -/
  line : Nat
  content : String
  /-- The exported declaration it documents. -/
  symbol : Option String
  file : Option String
  deriving DecidableEq

namespace Tag

def valueText (t : Tag) : String := t.value.getD ""

def attribute? (t : Tag) (key : String) : Option String := t.attributes.find? key

/-- Whether an attribute is `true`, in letters of any case. -/
def hasFlag (t : Tag) (key : String) : Bool :=
  match t.attribute? key with
  | some v => v.toList.map Char.toLower = "true".toList
  | none => false

/-- The value that the tag gives when it is of a type and has one that is not empty. -/
def valueOf? (t : Tag) (type : TagType) : Option String :=
  if t.type = type && t.valueText ≠ "" then some t.valueText else none

def marker : String := "@kthulu:"

/-- An attribute as it is written; quotes protect the characters that separate attributes. -/
def attributeText (key value : String) : String :=
  if value.toList.any fun c => c = ' ' || c = ',' then key ++ "=\"" ++ value ++ "\""
  else key ++ "=" ++ value

def text (t : Tag) : String :=
  let value := match t.value with
    | some v => ":" ++ v
    | none => ""
  marker ++ t.type.name ++ value ++
    String.join (t.attributes.entries.map fun e => " " ++ attributeText e.1 e.2)

end Tag

end TagAtlas

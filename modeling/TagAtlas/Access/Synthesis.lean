import TagAtlas.Access.Model
import TagAtlas.Cache.Files
import TagAtlas.Json.Decode
import TagAtlas.Survey.Basic

/-!
# Policies from annotations

Tags about security become policies, and the roles and permissions they name. The id of a policy is
a digest of where it comes from and what it is about, so that the same annotation always gives the
same id.
-/

namespace TagAtlas

structure SecurityNote where
  moduleName : String
  file : Option String
  line : Nat
  tagType : String
  resource : Option String
  roles : List String
  permissions : List String
  actions : List String
  conditions : Dict String
  securityLevel : Option String
  scope : Option String
  deriving DecidableEq

namespace SecurityNote

def keywords : List String :=
  ["admin", "auth", "private", "token", "session", "credential", "secret", "password"]

/-- Whether a tag is about security: by its type, or by a word in it. -/
def concerns (t : Tag) : Bool :=
  Text.startsWith t.type.name "security" ||
    (let content := Text.lower t.content
     keywords.any fun k => Text.hasPart content k)

/-- The items of a list with commas, without blanks around them, each once. -/
def listItems (s : String) : List String :=
  (((Text.splitOn ',' s).map Text.trimmed).filter (· ≠ "")).eraseDups

def condition? (s : String) : Option (String × String) :=
  match Text.cut? (· = '=') s.toList with
  | some (key, value) =>
    let key := Text.trim key
    if key.isEmpty then none else some (String.ofList key, String.ofList (Text.trim value))
  | none => none

/-- The conditions of a list with commas; the last of equal keys wins. -/
def conditionsOf (s : String) : Dict String :=
  Dict.ofList ((Text.splitOn ',' s).filterMap condition?)

/-- The items that two attributes list together, each once. -/
def listOf (t : Tag) (singular plural : String) : List String :=
  let items (key : String) : List String := ((t.attribute? key).map listItems).getD []
  (items singular ++ items plural).eraseDups

/-- The resource a tag is about: its attribute, or its value, or a type more exact than plain
`security`. -/
def resourceOf? (t : Tag) : Option String :=
  match ((t.attribute? "resource").map Text.trimmed).filter (· ≠ "") with
  | some resource => some resource
  | none =>
    match t.value.filter (· ≠ "") with
    | some value => some value
    | none =>
      if Text.startsWith t.type.name "security" && t.type.name ≠ "security" then some t.type.name
      else none

def ofTag (s : Survey) (t : Tag) : SecurityNote where
  moduleName := ((t.file.bind s.file?).map FileSummary.owner).getD ""
  file := t.file
  line := t.line
  tagType := t.type.name
  resource := resourceOf? t
  roles := listOf t "role" "roles"
  permissions := listOf t "permission" "permissions"
  actions := listOf t "action" "actions"
  conditions := ((t.attribute? "condition").map conditionsOf).getD .empty
  securityLevel := t.attribute? "level"
  scope := t.attribute? "scope"

def source (n : SecurityNote) : String := n.file.getD "<unknown>" ++ ":" ++ Nat.repr n.line

def defaultResource : String := "default"

def defaultAction : String := "read"

/-- The level of roles that only annotations name. -/
def foundRoleLevel : Nat := 20

def policyResource (n : SecurityNote) : String := n.resource.getD defaultResource

/-- What the id of a note's policy is the digest of: module, resource and file, a zero after each,
and the line in four bytes. -/
def preimage (n : SecurityNote) : List UInt8 :=
  Fingerprint.textBytes n.moduleName ++ 0 :: (Fingerprint.textBytes n.policyResource ++
    0 :: (Fingerprint.textBytes (n.file.getD "") ++ 0 :: Fingerprint.littleEndian 4 n.line))

def policyId (n : SecurityNote) : String :=
  "policy-" ++ Sha256.hex ((Sha256.digest n.preimage).take 8)

/-- The policy of a note, if it names a role or a permission. -/
def policy? (n : SecurityNote) (now : Time) : Option Policy :=
  if n.roles.isEmpty && n.permissions.isEmpty then none
  else some {
    id := n.policyId
    moduleName := n.moduleName
    resource := n.policyResource
    actions := if n.actions.isEmpty then [defaultAction] else n.actions
    roles := if n.roles.isEmpty then [Role.authenticatedId] else n.roles
    permissions := n.permissions
    conditions := n.conditions
    securityLevel := n.securityLevel
    scope := n.scope
    source := some n.source
    createdAt := now
    updatedAt := now }

def fieldNames : List String :=
  ["module", "file", "line", "tag_type", "resource", "roles", "permissions", "actions",
    "conditions", "security_level", "scope"]

def toJson (n : SecurityNote) : Json :=
  let maybe (o : Option String) : Json := (o.map Json.string).getD .null
  .object [("module", .string n.moduleName), ("file", maybe n.file), ("line", .ofNat n.line),
    ("tag_type", .string n.tagType), ("resource", maybe n.resource), ("roles", .ofStrings n.roles),
    ("permissions", .ofStrings n.permissions), ("actions", .ofStrings n.actions),
    ("conditions", Json.ofDict .string n.conditions), ("security_level", maybe n.securityLevel),
    ("scope", maybe n.scope)]

def ofJson? (v : Json) : Option SecurityNote := do
  let r ← v.record? fieldNames
  let strings := Json.list? Json.string?
  let moduleName ← r.required "module" Json.string?
  let file ← r.nullable "file" Json.string?
  let line ← r.required "line" Json.word32?
  let tagType ← r.required "tag_type" Json.string?
  let resource ← r.nullable "resource" Json.string?
  let roles ← r.required "roles" strings
  let permissions ← r.required "permissions" strings
  let actions ← r.required "actions" strings
  let conditions ← r.required "conditions" (Json.dict? Json.string?)
  let securityLevel ← r.nullable "security_level" Json.string?
  let scope ← r.nullable "scope" Json.string?
  pure ⟨moduleName, file, line, tagType, resource, roles, permissions, actions, conditions,
    securityLevel, scope⟩

end SecurityNote

/-- What the tags of a survey say about security, in their order. -/
def Survey.securityNotes (s : Survey) : List SecurityNote :=
  (s.tags.filter SecurityNote.concerns).map (SecurityNote.ofTag s)

namespace Batch

/-- Adds a role that an annotation names, unless it is there. -/
def discoverRole (now : Time) (roles : List Role) (id : String) : List Role :=
  if roles.any (·.id = id) then roles
  else roles ++ [{ Role.new id SecurityNote.foundRoleLevel now with permissions := ["read"] }]

def mentionPermission (moduleName : String) (permissions : Dict Permission) (id : String) :
    Dict Permission :=
  permissions.update id ⟨id, none, []⟩ fun p =>
    if moduleName = "" || p.modules.contains moduleName then p
    else { p with modules := p.modules ++ [moduleName] }

def putPolicy (policies : List Policy) (p : Policy) : List Policy :=
  if policies.any (·.id = p.id) then policies.map fun q => if q.id = p.id then p else q
  else policies ++ [p]

def ofNotes (notes : List SecurityNote) (now : Time) : Batch where
  policies := (notes.filterMap fun n => n.policy? now).foldl putPolicy []
  roles := (notes.flatMap SecurityNote.roles).foldl (discoverRole now) (Role.builtin now)
  permissions := (notes.foldl (fun (found : Dict Permission) n =>
    n.permissions.foldl (mentionPermission n.moduleName) found) .empty).values

def ofSurvey (s : Survey) (now : Time) : Batch := ofNotes s.securityNotes now

end Batch

end TagAtlas

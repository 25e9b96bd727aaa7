import TagAtlas.Access.Core
import TagAtlas.Json.Printer
import TagAtlas.Json.Decode
import TagAtlas.Time.Stamp

/-!
# Policies, roles and permissions in documents
-/

namespace TagAtlas

def Time.toJson (t : Time) : Json := .string (Stamp.ofNanoseconds t.toNat).text

def Policy.toJson (p : Policy) : Json :=
  .object <| [("id", .string p.id), ("module", .string p.moduleName),
    ("resource", .string p.resource), ("actions", .ofStrings p.actions),
    ("required_roles", .ofStrings p.roles), ("permissions", .ofStrings p.permissions),
    ("conditions", Json.ofDict .string p.conditions)] ++
    Json.field? "security_level" .string p.securityLevel ++ Json.field? "scope" .string p.scope ++
    Json.field? "source" .string p.source ++
    [("created_at", p.createdAt.toJson), ("updated_at", p.updatedAt.toJson)]

def Role.toJson (r : Role) : Json :=
  .object [("id", .string r.id), ("name", .string r.name), ("level", .ofNat r.level),
    ("parents", .ofStrings r.parents), ("permissions", .ofStrings r.permissions),
    ("active", .bool r.active), ("created_at", r.createdAt.toJson),
    ("updated_at", r.updatedAt.toJson)]

namespace Permission

def toJson (p : Permission) : Json :=
  .object [("id", .string p.id), ("description", (p.description.map Json.string).getD .null),
    ("modules", .ofStrings p.modules)]

def ofJson? (v : Json) : Option Permission := do
  let r ← v.record? ["id", "description", "modules"]
  let id ← r.required "id" Json.string?
  let description ← r.nullable "description" Json.string?
  let modules ← r.defaulted "modules" [] (Json.list? Json.string?)
  pure ⟨id, description, modules⟩

end Permission

namespace Batch

def toJson (b : Batch) : Json :=
  .object [("policies", .array (b.policies.map Policy.toJson)),
    ("roles", .array (b.roles.map Role.toJson)),
    ("permissions", .array (b.permissions.map Permission.toJson))]

def toText (b : Batch) : String := b.toJson.pretty

end Batch

end TagAtlas

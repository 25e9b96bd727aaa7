import TagAtlas.Json.Decode
import TagAtlas.Tag.Basic

/-!
# Tags in documents
-/

namespace TagAtlas.Tag

def toJson (t : Tag) : Json :=
  .object <| [("type", .string t.type.name)] ++ Json.field? "value" .string t.value ++
    [("attributes", Json.ofDict .string t.attributes), ("line", .ofNat t.line),
      ("content", .string t.content)] ++
    Json.field? "symbol" .string t.symbol ++ Json.field? "file" .string t.file

def fieldNames : List String :=
  ["type", "value", "attributes", "line", "content", "symbol", "file"]

def ofJson? (v : Json) : Option Tag := do
  let r ← v.record? fieldNames
  let type ← r.required "type" Json.string?
  let value ← r.optional "value" Json.string?
  let attributes ← r.defaulted "attributes" .empty (Json.dict? Json.string?)
  let line ← r.required "line" Json.word32?
  let content ← r.required "content" Json.string?
  let symbol ← r.optional "symbol" Json.string?
  let file ← r.optional "file" Json.string?
  pure ⟨⟨type⟩, value, attributes, line, content, symbol, file⟩

end TagAtlas.Tag

import TagAtlas.Path
import TagAtlas.Survey.Basic

/-!
# Hints for files without tags

The module that a file seems to belong to, and the tag type that a declaration's name suggests.
-/

namespace TagAtlas

/-- The package name when a module has it, otherwise the name of the folder, if there is one. -/
def Survey.guessModule (s : Survey) (f : FileSummary) : String :=
  if s.hasModule f.packageName then f.packageName
  else (Path.folderName? f.path).getD f.packageName

/-- The tag type that a declaration suggests by a word in its name, or by being a type. -/
def SymbolKind.hint? (kind : SymbolKind) (name : String) : Option TagType :=
  let lower := Text.lower name
  if Text.hasPart lower "handler" then some .handler
  else if Text.hasPart lower "service" then some .service
  else if Text.hasPart lower "repo" then some .repository
  else if kind = .type then some .domain
  else none

end TagAtlas

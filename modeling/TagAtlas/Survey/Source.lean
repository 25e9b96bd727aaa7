import TagAtlas.Go.Source
import TagAtlas.Survey.Basic
import TagAtlas.Tag.Line

/-!
# Summaries of sources

The tags of a source are those of its comments; each knows the declaration that its comment group
documents.
-/

namespace TagAtlas

namespace Go

def CommentGroup.tags (group : CommentGroup) : List Tag :=
  (group.comments.flatMap fun c => Tag.ofComment c.text c.line).map fun t =>
    { t with symbol := group.symbol }

end Go

namespace FileSummary

def tagsOfOutline (path : String) (o : Go.Outline) : List Tag :=
  (o.groups.flatMap Go.CommentGroup.tags).map fun t => { t with file := some path }

/-- The value of the first module tag that has one. -/
def declaredModule? (tags : List Tag) : Option String := tags.findSome? (·.valueOf? .module)

def ofSource [Go.Parser] (path source : String) : Except Failure FileSummary :=
  (Go.outline path source).map fun o =>
    let tags := tagsOfOutline path o
    { path := path
      packageName := o.packageName
      moduleName := declaredModule? tags
      imports := o.imports
      tags := tags
      symbols := o.symbols
      lineCount := o.lineCount
      size := source.utf8ByteSize }

end FileSummary

end TagAtlas

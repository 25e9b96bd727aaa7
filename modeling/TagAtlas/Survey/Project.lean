import TagAtlas.Cache.Files
import TagAtlas.Json.Printer
import TagAtlas.Json.Reader
import TagAtlas.Survey.Document
import TagAtlas.Survey.Merge
import TagAtlas.Survey.Source
import TagAtlas.Tree.Scan

/-!
# Surveys of project folders

A surveyor reads the files that a scan found, one after another, and keeps their summaries in a
cache, so that a file that has not changed is not read again. Files that cannot be summed up are
reported as warnings.
-/

namespace TagAtlas

/-- Who makes surveys: settings, and a cache of file summaries. -/
structure Surveyor where
  settings : SurveySettings
  excludes? : Option String
  cache : FileCache

namespace Surveyor

/-- A surveyor with an empty cache, or with none when caching is off. -/
def new (settings : SurveySettings) (excludes? : Option String := none) : Surveyor where
  settings := settings
  excludes? := excludes?
  cache := if settings.cacheEnabled then .bounded settings.cacheEntries settings.cacheLifetime
    else .disabled

def packed (f : FileSummary) : List UInt8 := Fingerprint.textBytes f.toJson.compact

def unpacked? (bytes : List UInt8) : Option FileSummary :=
  (Json.parseBytes? ⟨bytes.toArray⟩).bind FileSummary.ofJson?

/-- The summary of a file that is not kept, or the warning that there is none. -/
def readSummary [Go.Parser] (f : ScannedFile) : Except Warning FileSummary :=
  match f.data.text? with
  | none => .error ⟨some f.relative, "read failed: stream did not contain valid UTF-8"⟩
  | some text =>
    match FileSummary.ofSource f.relative text with
    | .ok summary => .ok summary
    | .error failure => .error ⟨some f.relative, failure.message⟩

/-- Sums up a file that the cache does not know, and has it kept. -/
def summarizeAfresh [Go.Parser] (cache : FileCache) (f : ScannedFile) (key : String) (now : Time) :
    Except Warning FileSummary × FileCache :=
  match readSummary f with
  | .ok summary => (.ok summary, cache.set key (packed summary) now)
  | .error warning => (.error warning, cache)

/-- Sums up a file, from the cache when it is known there. Kept bytes that hold no summary are
thrown away. -/
def summarize [Go.Parser] (cache : FileCache) (f : ScannedFile) (now : Time) :
    Except Warning FileSummary × FileCache :=
  let key := Fingerprint.ofFile f.absolute f.data.modified
  match cache.get? key now with
  | (none, cache) => summarizeAfresh cache f key now
  | (some bytes, cache) =>
    match unpacked? bytes with
    | some summary => (.ok summary, cache)
    | none => summarizeAfresh (cache.delete key).2 f key now

def summarizeAll [Go.Parser] (cache : FileCache) (now : Time) :
    List ScannedFile → List (Except Warning FileSummary) × FileCache
  | [] => ([], cache)
  | f :: rest =>
    let (outcome, cache) := summarize cache f now
    let (outcomes, cache) := summarizeAll cache now rest
    (outcome :: outcomes, cache)

def oversizedWarning (o : Oversized) : Warning := ⟨some o.relative, o.text⟩

def summaries (outcomes : List (Except Warning FileSummary)) : List FileSummary :=
  outcomes.filterMap Except.toOption

def warnings (outcomes : List (Except Warning FileSummary)) : List Warning :=
  outcomes.filterMap fun o => match o with
    | .ok _ => none
    | .error w => some w

/-- The module path that the `go.mod` of a project gives. -/
def modulePathAt (d : Disk) (root : String) : Option String :=
  ((d.file? (Disk.join root "go.mod")).bind StoredFile.text?).bind ModulePath.ofText?

def start (s : Surveyor) (d : Disk) (root : String) (scan : Scan)
    (outcomes : List (Except Warning FileSummary)) (now : Time) : Survey :=
  { Survey.new root (Stamp.ofNanoseconds now.toNat) with
    modulePath := s.settings.modulePath.or (modulePathAt d root)
    warnings := scan.oversized.map oversizedWarning ++ warnings outcomes }

/-- The scan of a root, after the settings were found valid and the survey not cancelled. -/
def scan (s : Surveyor) (d : Disk) (root : String) (isCancelled : Bool) : Except Failure Scan := do
  s.settings.validate
  if isCancelled then .error .cancelled
  else Scan.ofRoot s.settings d root s.excludes?

def survey [Go.Parser] (s : Surveyor) (d : Disk) (root : String) (isCancelled : Bool) (now : Time) :
    Except Failure Survey × Surveyor :=
  match s.scan d root isCancelled with
  | .error f => (.error f, s)
  | .ok scan =>
    let (outcomes, cache) := summarizeAll s.cache now scan.files
    (.ok (Survey.ofFiles (s.start d root scan outcomes now) (summaries outcomes)),
      { s with cache := cache })

end Surveyor

end TagAtlas

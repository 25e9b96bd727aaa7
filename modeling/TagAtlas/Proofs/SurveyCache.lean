import Mathlib
import TagAtlas.Proofs.ParsedTrees
import TagAtlas.Proofs.StoreContents
import TagAtlas.Proofs.SummaryDocuments

/-!
# Surveys with kept summaries

Summaries are kept under the absolute path and modification time of a file, but hold its path from
the root of the survey that made them. So a survey with a cache finds what one without finds just
when every summary that it takes from the cache was made under the path that the file has in this
survey. It does so when no file is surveyed under two paths, but not when one root lies in another.
-/

namespace TagAtlas

/-! ### The same source under another path -/

theorem Go.outline_congr [Go.Parser] {path path' source : String} {o : Outline}
    (h : outline path source = .ok o) : outline path' source = .ok o :=
  outline_eq_ok_iff.mpr (outline_eq_ok_iff.mp h)

namespace FileSummary

def relocated (path : String) (f : FileSummary) : FileSummary :=
  { f with path := path, tags := f.tags.map fun t => { t with file := some path } }

theorem path_of_ofSource [Go.Parser] {path source : String} {f : FileSummary}
    (h : ofSource path source = .ok f) : f.path = path := by
  unfold ofSource at h
  cases ho : Go.outline path source with
  | error e =>
    rw [ho] at h
    cases h
  | ok o =>
    rw [ho] at h
    cases h
    rfl

theorem ofSource_relocated [Go.Parser] {path source : String} {f : FileSummary}
    (h : ofSource path source = .ok f) (path' : String) :
    ofSource path' source = .ok (f.relocated path') := by
  unfold ofSource at h ⊢
  cases ho : Go.outline path source with
  | error e =>
    rw [ho] at h
    cases h
  | ok o =>
    rw [ho] at h
    rw [Go.outline_congr ho]
    cases h
    have htags : (tagsOfOutline path o).map (fun t => { t with file := some path' }) =
        tagsOfOutline path' o := by
      unfold tagsOfOutline
      rw [List.map_map]
      rfl
    have hmodule : declaredModule? (tagsOfOutline path' o) =
        declaredModule? (tagsOfOutline path o) := by
      rw [← htags]
      unfold declaredModule?
      rw [List.findSome?_map]
      rfl
    simp only [Except.map, relocated, htags, hmodule]

/-- An empty source has an empty summary. -/
theorem ofSource_empty (path : String) :
    ofSource path "" = .ok ⟨path, "", none, [], [], [], 0, 0⟩ := by
  have houtline : (Go.treeOf 0 []).outline "".toList = ⟨"", [], [], [], 0⟩ := by decide +kernel
  have hparse : Go.Parser.parse? "" = some (Go.treeOf 0 []) := congrArg some Go.parse_empty
  rw [ofSource, Go.outline_eq_ok_iff.mpr ⟨_, hparse, Go.hasFault_treeOf 0 [], rfl⟩, houtline]
  rfl

end FileSummary

/-! ### What the cache keeps -/

namespace FileCache

variable {c : FileCache} {k key : String} {b bytes : List UInt8} {now : Time}

/-- Bytes are kept under a fingerprint, expired or not. -/
def Keeps : FileCache → String → List UInt8 → Prop
  | .none _, _, _ => False
  | .memory store _ _, key, bytes => store.Keeps key bytes

theorem keeps_of_get?_fst (h : (c.get? key now).1 = some b) : c.Keeps key b := by
  cases c with
  | none => cases h
  | memory store hits misses =>
    simp only [get?] at h
    split at h
    next bytes hpeek =>
      cases h
      exact Store.keeps_of_peek? hpeek
    next => cases h

theorem keeps_of_get?_snd (h : (c.get? key now).2.Keeps k b) : c.Keeps k b := by
  cases c with
  | none => exact h
  | memory store hits misses =>
    simp only [get?] at h
    split at h <;> exact h

theorem keeps_of_set (h : (c.set key bytes now).Keeps k b) : k = key ∧ b = bytes ∨ c.Keeps k b := by
  cases c with
  | none => exact .inr h
  | memory store hits misses => exact Store.keeps_of_insert h

theorem keeps_of_delete (h : (c.delete key).2.Keeps k b) : c.Keeps k b := by
  cases c with
  | none => exact h
  | memory store hits misses => exact Store.keeps_of_remove h

end FileCache

namespace Surveyor

def keyOf (f : ScannedFile) : String := Fingerprint.ofFile f.absolute f.data.modified

/-- Among some files, content is a function of path and modification time, and no two fingerprints
collide. -/
structure Unchanging (files : List ScannedFile) : Prop where
  content : ∀ f ∈ files, ∀ g ∈ files, f.absolute = g.absolute → f.data.modified = g.data.modified →
    f.data.bytes = g.data.bytes
  keys : ∀ f ∈ files, ∀ g ∈ files, keyOf f = keyOf g →
    f.absolute = g.absolute ∧ f.data.modified = g.data.modified

section

variable [Go.Parser]

/-- All that is kept are summaries of some files under their fingerprints. -/
def KeepsOnly (files : List ScannedFile) (cache : FileCache) : Prop :=
  ∀ key bytes, cache.Keeps key bytes →
    ∃ g ∈ files, ∃ v, readSummary g = .ok v ∧ key = keyOf g ∧ bytes = packed v

def served? (cache : FileCache) (f : ScannedFile) (now : Time) : Option FileSummary :=
  (cache.get? (keyOf f) now).1.bind unpacked?

variable {files : List ScannedFile} {cache : FileCache} {f : ScannedFile} {now : Time}

theorem readSummary_eq_ok_iff {v : FileSummary} : readSummary f = .ok v ↔
    ∃ text, f.data.text? = some text ∧ FileSummary.ofSource f.relative text = .ok v := by
  unfold readSummary
  cases f.data.text? with
  | none => simp
  | some text =>
    cases hsource : FileSummary.ofSource f.relative text <;> simp [hsource]

/-- The cache holds for a file what reading it gives, but under the path of an earlier survey. -/
theorem exists_of_served? (hfiles : Unchanging files) (hkeeps : KeepsOnly files cache)
    (hf : f ∈ files) {v : FileSummary} (h : served? cache f now = some v) :
    (∃ g ∈ files, keyOf g = keyOf f ∧ v.path = g.relative) ∧
      readSummary f = .ok (v.relocated f.relative) ∧
      (v.path = f.relative → readSummary f = .ok v) := by
  obtain ⟨bytes, hget, hunpack⟩ := Option.bind_eq_some_iff.mp h
  obtain ⟨g, hg, w, hread, hkey, rfl⟩ := hkeeps _ _ (FileCache.keeps_of_get?_fst hget)
  obtain rfl := eq_of_unpacked?_packed hunpack
  obtain ⟨text, htext, hsource⟩ := readSummary_eq_ok_iff.mp hread
  obtain ⟨habsolute, hmodified⟩ := hfiles.keys f hf g hg hkey
  have hbytes : f.data.bytes = g.data.bytes := hfiles.content f hf g hg habsolute hmodified
  have htext' : f.data.text? = some text := by
    rw [← htext, StoredFile.text?, StoredFile.text?, hbytes]
  have hpath : v.path = g.relative := FileSummary.path_of_ofSource hsource
  refine ⟨⟨g, hg, hkey.symm, hpath⟩, ?_, fun hsame => ?_⟩
  · exact readSummary_eq_ok_iff.mpr ⟨text, htext', FileSummary.ofSource_relocated hsource _⟩
  · refine readSummary_eq_ok_iff.mpr ⟨text, htext', ?_⟩
    rw [← hsame, hpath]
    exact hsource

/-! ### One scan -/

/-- A file is summed up from the cache, or else by reading it, when bytes without a summary may
have been thrown away. -/
theorem summarize_cases (cache : FileCache) (f : ScannedFile) (now : Time) :
    (∃ v, served? cache f now = some v ∧
        summarize cache f now = (.ok v, (cache.get? (keyOf f) now).2)) ∨
      served? cache f now = none ∧ ∃ cache' : FileCache,
        (∀ k b, cache'.Keeps k b → cache.Keeps k b) ∧
          summarize cache f now = summarizeAfresh cache' f (keyOf f) now := by
  have hget : ∀ k b, (cache.get? (keyOf f) now).2.Keeps k b → cache.Keeps k b :=
    fun k b h => FileCache.keeps_of_get?_snd h
  have hkey : Fingerprint.ofFile f.absolute f.data.modified = keyOf f := rfl
  unfold summarize served?
  rw [hkey]
  dsimp only
  cases hlook : cache.get? (keyOf f) now with
  | mk o cache' =>
    rw [hlook] at hget
    cases o with
    | none => exact .inr ⟨rfl, cache', hget, rfl⟩
    | some bytes =>
      dsimp only [Option.bind_some]
      cases unpacked? bytes with
      | some v => exact .inl ⟨v, rfl, rfl⟩
      | none =>
        exact .inr ⟨rfl, _, fun k b h => hget k b (FileCache.keeps_of_delete h), rfl⟩

theorem summarizeAfresh_fst (cache : FileCache) (f : ScannedFile) (key : String) (now : Time) :
    (summarizeAfresh cache f key now).1 = readSummary f := by
  unfold summarizeAfresh
  cases readSummary f <;> rfl

theorem summarize_fst (cache : FileCache) (f : ScannedFile) (now : Time) :
    (summarize cache f now).1 = ((served? cache f now).map .ok).getD (readSummary f) := by
  rcases summarize_cases cache f now with ⟨v, hserved, heq⟩ | ⟨hserved, cache', _, heq⟩
  · rw [heq, hserved]
    rfl
  · rw [heq, hserved, summarizeAfresh_fst]
    rfl

theorem keepsOnly_summarize (hkeeps : KeepsOnly files cache) (hf : f ∈ files) (now : Time) :
    KeepsOnly files (summarize cache f now).2 := by
  intro key bytes h
  rcases summarize_cases cache f now with ⟨v, _, heq⟩ | ⟨_, cache', hsub, heq⟩
  · rw [heq] at h
    exact hkeeps key bytes (FileCache.keeps_of_get?_snd h)
  · rw [heq] at h
    unfold summarizeAfresh at h
    cases hread : readSummary f with
    | error w =>
      rw [hread] at h
      exact hkeeps key bytes (hsub key bytes h)
    | ok v =>
      rw [hread] at h
      rcases FileCache.keeps_of_set h with ⟨rfl, rfl⟩ | h
      · exact ⟨f, hf, v, hread, rfl, rfl⟩
      · exact hkeeps key bytes (hsub key bytes h)

/-- The files of a scan for which the cache holds a summary, each when its turn comes. -/
def served (cache : FileCache) (now : Time) : List ScannedFile → List (ScannedFile × FileSummary)
  | [] => []
  | f :: rest =>
    ((served? cache f now).map (f, ·)).toList ++ served (summarize cache f now).2 now rest

/-- A summary that is served was made for the same file in this survey or an earlier one. -/
theorem exists_of_mem_served (hfiles : Unchanging files) (hkeeps : KeepsOnly files cache)
    {scanned : List ScannedFile} (hscanned : ∀ f ∈ scanned, f ∈ files)
    {e : ScannedFile × FileSummary} (he : e ∈ served cache now scanned) :
    e.1 ∈ scanned ∧ ∃ g ∈ files, keyOf g = keyOf e.1 ∧ e.2.path = g.relative := by
  induction scanned generalizing cache with
  | nil => cases he
  | cons f rest ih =>
    have hf := hscanned f List.mem_cons_self
    rcases List.mem_append.mp he with hhead | hrest
    · obtain ⟨v, hserved, rfl⟩ := Option.map_eq_some_iff.mp (Option.mem_toList.mp hhead)
      exact ⟨List.mem_cons_self, (exists_of_served? hfiles hkeeps hf hserved).1⟩
    · obtain ⟨hmem, hmade⟩ := ih (keepsOnly_summarize hkeeps hf now)
        (fun g hg => hscanned g (List.mem_cons_of_mem _ hg)) hrest
      exact ⟨List.mem_cons_of_mem _ hmem, hmade⟩

theorem keepsOnly_summarizeAll (hkeeps : KeepsOnly files cache) {scanned : List ScannedFile}
    (hscanned : ∀ f ∈ scanned, f ∈ files) :
    KeepsOnly files (summarizeAll cache now scanned).2 := by
  induction scanned generalizing cache with
  | nil => exact hkeeps
  | cons f rest ih =>
    exact ih (keepsOnly_summarize hkeeps (hscanned f List.mem_cons_self) now)
      fun g hg => hscanned g (List.mem_cons_of_mem _ hg)

theorem summarizeAll_cons (cache : FileCache) (now : Time) (f : ScannedFile)
    (rest : List ScannedFile) : (summarizeAll cache now (f :: rest)).1 =
      (summarize cache f now).1 :: (summarizeAll (summarize cache f now).2 now rest).1 := rfl

theorem warnings_summarizeAll (hfiles : Unchanging files) (hkeeps : KeepsOnly files cache)
    {scanned : List ScannedFile} (hscanned : ∀ f ∈ scanned, f ∈ files) :
    warnings (summarizeAll cache now scanned).1 = warnings (scanned.map readSummary) := by
  induction scanned generalizing cache with
  | nil => rfl
  | cons f rest ih =>
    have hf := hscanned f List.mem_cons_self
    have hrest := ih (keepsOnly_summarize hkeeps hf now)
      fun g hg => hscanned g (List.mem_cons_of_mem _ hg)
    rw [summarizeAll_cons, summarize_fst, List.map_cons]
    unfold warnings at hrest ⊢
    cases hserved : served? cache f now with
    | none => simp only [Option.map_none, Option.getD_none, List.filterMap_cons, hrest]
    | some v =>
      -- what the cache holds for a file is no warning, and reading the file gives none either
      have hread := (exists_of_served? hfiles hkeeps hf hserved).2.1
      simp only [Option.map_some, Option.getD_some, List.filterMap_cons, hrest, hread]

theorem summaries_summarizeAll_iff (hfiles : Unchanging files) (hkeeps : KeepsOnly files cache)
    {scanned : List ScannedFile} (hscanned : ∀ f ∈ scanned, f ∈ files) :
    summaries (summarizeAll cache now scanned).1 = summaries (scanned.map readSummary) ↔
      ∀ e ∈ served cache now scanned, e.2.path = e.1.relative := by
  -- the cache moves on with each file, so the induction is for all caches that keep summaries only
  induction scanned generalizing cache with
  | nil => simp [summarizeAll, summaries, served]
  | cons f rest ih =>
    have hf := hscanned f List.mem_cons_self
    have hrest := ih (keepsOnly_summarize hkeeps hf now)
      fun g hg => hscanned g (List.mem_cons_of_mem _ hg)
    rw [summarizeAll_cons, summarize_fst, List.map_cons, served]
    unfold summaries at hrest ⊢
    cases hserved : served? cache f now with
    | none =>
      simp only [Option.map_none, Option.getD_none, Option.toList_none, List.nil_append, ← hrest]
      cases readSummary f with
      | error w => exact Iff.rfl
      | ok v => simp only [List.filterMap_cons, Except.toOption, List.cons.injEq, true_and]
    | some v =>
      obtain ⟨_, hread, hsame⟩ := exists_of_served? hfiles hkeeps hf hserved
      -- the two lists have the same head just when the kept summary needs no other path
      have hhead : v = v.relocated f.relative ↔ v.path = f.relative := by
        constructor
        · intro h
          rw [h]
          rfl
        · intro h
          exact Except.ok.inj ((hsame h).symm.trans hread)
      simp only [Option.map_some, Option.getD_some, Option.toList_some, List.cons_append,
        List.nil_append, List.forall_mem_cons, ← hrest, hread, List.filterMap_cons,
        Except.toOption, List.cons.injEq, hhead]

end

end Surveyor

/-! ### Surveys at other times -/

namespace Survey

def dated (takenAt : Stamp) (s : Survey) : Survey := { s with takenAt := takenAt }

variable (t : Stamp) (s : Survey)

theorem addDependency_dated (d : Dependency) :
    (s.dated t).addDependency d = (s.addDependency d).dated t := by
  unfold addDependency
  rw [show (s.dated t).hasDependency d = s.hasDependency d from rfl]
  split <;> rfl

theorem joinModule_dated (f : FileSummary) (name : String) :
    (s.dated t).joinModule f name = (s.joinModule f name).dated t := by
  unfold joinModule
  rw [show (s.dated t).hasModule name = s.hasModule name from rfl]
  cases s.hasModule name <;> rfl

theorem declareDependency_dated (source : String) (kind : DependencyKind) (tag : Tag) :
    (s.dated t).declareDependency source kind tag =
      (s.declareDependency source kind tag).dated t := by
  unfold declareDependency
  dsimp only
  split
  · rfl
  · rw [addDependency_dated]
    rfl

theorem declareImport_dated (source path : String) :
    (s.dated t).declareImport source path = (s.declareImport source path).dated t := by
  unfold declareImport
  rw [show (s.dated t).modulePath = s.modulePath from rfl]
  split
  · split
    · rfl
    · exact addDependency_dated t s _
  · rfl

theorem foldl_dated {α : Type} {f : Survey → α → Survey}
    (h : ∀ s a, f (s.dated t) a = (f s a).dated t) (l : List α) :
    l.foldl f (s.dated t) = (l.foldl f s).dated t := by
  induction l generalizing s with
  | nil => rfl
  | cons a l ih => rw [List.foldl_cons, h, ih, List.foldl_cons]

theorem mergeFile_dated (f : FileSummary) : (s.dated t).mergeFile f = (s.mergeFile f).dated t := by
  have htags : ({ s.dated t with tags := (s.dated t).tags ++ f.tags } : Survey) =
      ({ s with tags := s.tags ++ f.tags } : Survey).dated t := rfl
  unfold mergeFile
  dsimp only
  rw [htags, foldl_dated t _ fun s name => joinModule_dated t s f name,
    foldl_dated t _ fun s tag => declareDependency_dated t s f.owner .module tag,
    foldl_dated t _ fun s tag => declareDependency_dated t s f.owner .requires tag]
  cases f.moduleName with
  | none => rfl
  | some name => exact foldl_dated t _ (fun s path => declareImport_dated t s name path) f.imports

theorem ofFiles_dated (files : List FileSummary) :
    ofFiles (s.dated t) files = (ofFiles s files).dated t := by
  unfold ofFiles
  rw [foldl_dated t s (mergeFile_dated t)]
  rfl

end Survey

/-! ### Histories of surveys -/

structure SurveyCall where
  disk : Disk
  root : String
  isCancelled : Bool
  now : Time

namespace Surveyor

def SameFindings : Except Failure Survey → Except Failure Survey → Prop
  | .ok a, .ok b => a.dated b.takenAt = b
  | .error f, .error g => f = g
  | _, _ => False

variable {s : Surveyor} {files : List ScannedFile}

def uncached (s : Surveyor) : Surveyor :=
  .new { s.settings with cacheEnabled := false } s.excludes?

theorem scan_uncached (hvalid : s.settings.validate = .ok ()) : s.uncached.scan = s.scan := by
  have hvalid' : s.uncached.settings.validate = .ok () := by
    unfold SurveySettings.validate at hvalid ⊢
    simp only [uncached, new, Bool.false_and, if_neg Bool.false_ne_true]
    split at hvalid
    · cases hvalid
    · split at hvalid
      · cases hvalid
      · exact hvalid
  funext d root isCancelled
  unfold scan
  rw [hvalid', hvalid]
  rfl

/-- A scan whose files are summed up gives the same survey as one whose files are read, up to the
date, just when the summaries are the same. -/
theorem sameFindings_iff (s : Surveyor) (d : Disk) (root : String) (scan : Scan) (now now' : Time)
    {outcomes fresh : List (Except Warning FileSummary)}
    (hwarnings : warnings outcomes = warnings fresh) :
    SameFindings
        (.ok (Survey.ofFiles (s.start d root scan outcomes now) (summaries outcomes)))
        (.ok (Survey.ofFiles (s.uncached.start d root scan fresh now') (summaries fresh))) ↔
      summaries outcomes = summaries fresh := by
  constructor
  · exact fun h => congrArg Survey.files h
  · intro h
    have hstart : s.uncached.start d root scan fresh now' =
        (s.start d root scan outcomes now).dated (Stamp.ofNanoseconds now'.toNat) := by
      unfold start
      rw [hwarnings]
      rfl
    rw [hstart, Survey.ofFiles_dated, h]
    rfl

section

variable [Go.Parser]

def answer (s : Surveyor) (call : SurveyCall) : Except Failure Survey × Surveyor :=
  s.survey call.disk call.root call.isCancelled call.now

def after (s : Surveyor) : List SurveyCall → Surveyor
  | [] => s
  | call :: rest => (s.answer call).2.after rest

def scannedBy (s : Surveyor) (call : SurveyCall) : List ScannedFile :=
  match s.scan call.disk call.root call.isCancelled with
  | .ok scan => scan.files
  | .error _ => []

/-- The files of a call for which the cache holds a summary, with that summary. -/
def servedTo (s : Surveyor) (call : SurveyCall) : List (ScannedFile × FileSummary) :=
  served s.cache call.now (s.scannedBy call)

/-- Only the cache of a surveyor changes. -/
theorem answer_snd (s : Surveyor) (call : SurveyCall) :
    (s.answer call).2 = { s with cache := (s.answer call).2.cache } := by
  unfold answer survey
  split <;> rfl

theorem after_eq (s : Surveyor) (history : List SurveyCall) :
    s.after history = { s with cache := (s.after history).cache } := by
  induction history generalizing s with
  | nil => rfl
  | cons call rest ih =>
    rw [after, ih, answer_snd]

/-- What a call scans does not depend on the calls before it. -/
theorem scannedBy_after (s : Surveyor) (history : List SurveyCall) (call : SurveyCall) :
    (s.after history).scannedBy call = s.scannedBy call := by
  rw [after_eq]
  rfl

theorem keepsOnly_answer (hkeeps : KeepsOnly files s.cache) {call : SurveyCall}
    (hscanned : ∀ f ∈ s.scannedBy call, f ∈ files) :
    KeepsOnly files (s.answer call).2.cache := by
  unfold scannedBy at hscanned
  unfold answer survey
  cases hscan : s.scan call.disk call.root call.isCancelled with
  | error f => exact hkeeps
  | ok scan =>
    rw [hscan] at hscanned
    exact keepsOnly_summarizeAll hkeeps hscanned

theorem keepsOnly_after (hkeeps : KeepsOnly files s.cache) {history : List SurveyCall}
    (hscanned : ∀ call ∈ history, ∀ f ∈ s.scannedBy call, f ∈ files) :
    KeepsOnly files (s.after history).cache := by
  induction history generalizing s with
  | nil => exact hkeeps
  | cons call rest ih =>
    refine ih (keepsOnly_answer hkeeps (hscanned call List.mem_cons_self)) fun c hc => ?_
    rw [answer_snd]
    exact hscanned c (List.mem_cons_of_mem _ hc)

theorem keepsOnly_new (settings : SurveySettings) (excludes? : Option String) :
    KeepsOnly files (Surveyor.new settings excludes?).cache := by
  intro key bytes h
  unfold Surveyor.new at h
  dsimp only at h
  split at h
  · exact absurd h Store.not_keeps_new
  · exact h.elim

theorem summarizeAll_uncached (misses : Nat) (now : Time) (scanned : List ScannedFile) :
    (summarizeAll (.none misses) now scanned).1 = scanned.map readSummary := by
  induction scanned generalizing misses with
  | nil => rfl
  | cons f rest ih =>
    have hcache : ∃ misses', (summarize (.none misses) f now).2 = .none misses' := by
      unfold summarize summarizeAfresh
      dsimp only [FileCache.get?]
      cases readSummary f <;> exact ⟨_, rfl⟩
    obtain ⟨misses', hcache⟩ := hcache
    rw [summarizeAll_cons, hcache, ih, summarize_fst]
    rfl

theorem answer_eq_uncached_iff (hvalid : s.settings.validate = .ok ()) (hfiles : Unchanging files)
    (hkeeps : KeepsOnly files s.cache) {call : SurveyCall}
    (hscanned : ∀ f ∈ s.scannedBy call, f ∈ files) (now : Time) :
    SameFindings (s.answer call).1
        (s.uncached.survey call.disk call.root call.isCancelled now).1 ↔
      ∀ e ∈ s.servedTo call, e.2.path = e.1.relative := by
  unfold answer servedTo survey
  unfold scannedBy at hscanned ⊢
  rw [scan_uncached hvalid]
  cases hresult : s.scan call.disk call.root call.isCancelled with
  | error f => exact iff_of_true rfl fun e he => absurd he List.not_mem_nil
  | ok scan =>
    rw [hresult] at hscanned
    have hfresh : (summarizeAll s.uncached.cache now scan.files).1 = scan.files.map readSummary :=
      summarizeAll_uncached 0 now scan.files
    dsimp only at hscanned ⊢
    rw [hfresh, sameFindings_iff s _ _ _ _ _ (warnings_summarizeAll hfiles hkeeps hscanned),
      summaries_summarizeAll_iff hfiles hkeeps hscanned]

/-- A cache that was empty before a history keeps only what the history has scanned. -/
theorem keepsOnly_after_new (settings : SurveySettings) (excludes? : Option String)
    (history : List SurveyCall) (call : SurveyCall) :
    KeepsOnly ((history ++ [call]).flatMap (Surveyor.new settings excludes?).scannedBy)
        ((Surveyor.new settings excludes?).after history).cache ∧
      ∀ f ∈ (Surveyor.new settings excludes?).scannedBy call,
        f ∈ (history ++ [call]).flatMap (Surveyor.new settings excludes?).scannedBy := by
  have hmem : ∀ c ∈ history ++ [call], ∀ f ∈ (Surveyor.new settings excludes?).scannedBy c,
      f ∈ (history ++ [call]).flatMap (Surveyor.new settings excludes?).scannedBy :=
    fun c hc f hf => List.mem_flatMap.mpr ⟨c, hc, hf⟩
  exact ⟨keepsOnly_after (keepsOnly_new settings excludes?)
    fun c hc => hmem c (List.mem_append_left _ hc),
    hmem call (List.mem_append_right _ List.mem_cons_self)⟩

theorem answer_after_new_iff {settings : SurveySettings} (hvalid : settings.validate = .ok ())
    {excludes? : Option String} {history : List SurveyCall} {call : SurveyCall}
    (hfiles : Unchanging ((history ++ [call]).flatMap (Surveyor.new settings excludes?).scannedBy))
    (now : Time) :
    SameFindings (((Surveyor.new settings excludes?).after history).answer call).1
        ((Surveyor.new settings excludes?).uncached.survey call.disk call.root call.isCancelled
          now).1 ↔
      ∀ e ∈ ((Surveyor.new settings excludes?).after history).servedTo call,
        e.2.path = e.1.relative := by
  obtain ⟨hkeeps, hcall⟩ := keepsOnly_after_new settings excludes? history call
  have heq := after_eq (Surveyor.new settings excludes?) history
  generalize hs : (Surveyor.new settings excludes?).after history = s at heq hkeeps ⊢
  have hiff := answer_eq_uncached_iff (s := s) (by rw [heq]; exact hvalid) hfiles hkeeps
    (by rw [heq]; exact hcall) now
  rwa [show s.uncached = (Surveyor.new settings excludes?).uncached by rw [heq]; rfl] at hiff

/-- No survey differs when every file is scanned under one path only, as it is when no root lies in
another. -/
theorem survey_eq_uncached_of_one_path {settings : SurveySettings}
    (hvalid : settings.validate = .ok ()) {excludes? : Option String} {history : List SurveyCall}
    {call : SurveyCall}
    (hfiles : Unchanging ((history ++ [call]).flatMap (Surveyor.new settings excludes?).scannedBy))
    (hpath : ∀ f ∈ (history ++ [call]).flatMap (Surveyor.new settings excludes?).scannedBy,
      ∀ g ∈ (history ++ [call]).flatMap (Surveyor.new settings excludes?).scannedBy,
        f.absolute = g.absolute → f.relative = g.relative) (now : Time) :
    SameFindings (((Surveyor.new settings excludes?).after history).answer call).1
      ((Surveyor.new { settings with cacheEnabled := false } excludes?).survey call.disk call.root
        call.isCancelled now).1 := by
  refine (answer_after_new_iff hvalid hfiles now).mpr fun e he => ?_
  obtain ⟨hkeeps, hcall⟩ := keepsOnly_after_new settings excludes? history call
  rw [servedTo, scannedBy_after] at he
  obtain ⟨hscanned, g, hg, hkey, hmade⟩ := exists_of_mem_served hfiles hkeeps hcall he
  obtain ⟨habsolute, _⟩ := hfiles.keys g hg e.1 (hcall _ hscanned) hkey
  rw [hmade]
  exact hpath g hg e.1 (hcall _ hscanned) habsolute

/-- What was just read is served to whoever looks for the same file, whatever path it has there. -/
theorem served?_of_read {capacity lifetime : Nat} {f g : ScannedFile} {v : FileSummary}
    {now now' : Time} (hread : readSummary g = .ok v) (hpacked : unpacked? (packed v) = some v)
    (hkey : keyOf f = keyOf g) (htime : now.elapsed now' < lifetime) :
    served? (summarize (.bounded capacity lifetime) g now).2 f now' = some v := by
  have hsummarize : (summarize (.bounded capacity lifetime) g now).2 =
      .memory ((Store.new capacity (some lifetime)).insert (keyOf g) (packed v) now) 0 1 := by
    have hlook : FileCache.get? (.bounded capacity lifetime) (keyOf g) now =
        (none, .memory (Store.new capacity (some lifetime)) 0 1) := rfl
    unfold summarize summarizeAfresh
    rw [← keyOf, hread]
    dsimp only
    rw [hlook]
    rfl
  have hpeek : ((Store.new capacity (some lifetime)).insert (keyOf g) (packed v) now).peek?
      (keyOf g) now' = some (packed v) :=
    Store.peek?_insert (decide_eq_false (Nat.not_le.mpr htime))
  unfold served?
  rw [hsummarize, hkey]
  simp only [FileCache.get?, hpeek, Option.bind_some, hpacked]

/-! ### Surveys with a cache and without one -/

/-- After any history of calls, a survey finds what a survey without a cache finds just when the
summaries that it takes from the cache hold the paths that the files have in this survey. -/
theorem survey_eq_uncached_iff {settings : SurveySettings} (hvalid : settings.validate = .ok ())
    {excludes? : Option String} {history : List SurveyCall} {call : SurveyCall}
    (hfiles : Unchanging ((history ++ [call]).flatMap (Surveyor.new settings excludes?).scannedBy))
    (now : Time) :
    SameFindings (((Surveyor.new settings excludes?).after history).answer call).1
        ((Surveyor.new { settings with cacheEnabled := false } excludes?).survey call.disk call.root
          call.isCancelled now).1 ↔
      ∀ e ∈ ((Surveyor.new settings excludes?).after history).servedTo call,
        e.2.path = e.1.relative := answer_after_new_iff hvalid hfiles now

end

/-! ### One root in another -/

/-- A project with a file in a folder of its own. The outer call surveys the project, the inner one
the folder. -/
def nestedDisk : Disk :=
  ⟨.folder [("p", .folder [("q", .folder [("x.go", .file ⟨.empty, 5⟩)])])], []⟩

def outerCall : SurveyCall := ⟨nestedDisk, "p", false, 7⟩

def innerCall : SurveyCall := ⟨nestedDisk, "p/q", false, 8⟩

def outerFile : ScannedFile := ⟨["q", "x.go"], "/p/q/x.go", ⟨.empty, 5⟩⟩

def innerFile : ScannedFile := ⟨["x.go"], "/p/q/x.go", ⟨.empty, 5⟩⟩

def outerSummary : FileSummary := ⟨"q/x.go", "", none, [], [], [], 0, 0⟩

theorem scannedBy_outerCall : (Surveyor.new .standard).scannedBy outerCall = [outerFile] := by
  cbv

theorem scannedBy_innerCall : (Surveyor.new .standard).scannedBy innerCall = [innerFile] := by
  cbv

theorem cache_after_outerCall : ((Surveyor.new .standard).after [outerCall]).cache =
    (summarize (Surveyor.new .standard).cache outerFile 7).2 := by
  have hscan : (Surveyor.new .standard).scan outerCall.disk outerCall.root outerCall.isCancelled =
      .ok ⟨[outerFile], []⟩ := by
    cbv
  unfold after after answer survey
  rw [hscan]
  rfl

/-- A survey of the folder takes the summary that the survey of the project has made. -/
theorem servedTo_innerCall : ((Surveyor.new .standard).after [outerCall]).servedTo innerCall =
    [(innerFile, outerSummary)] := by
  have hrelative : outerFile.relative = "q/x.go" := by decide +kernel
  have hread : readSummary outerFile = .ok outerSummary := by
    refine readSummary_eq_ok_iff.mpr ⟨"", by cbv, ?_⟩
    rw [hrelative]
    exact FileSummary.ofSource_empty "q/x.go"
  have hpacked : unpacked? (packed outerSummary) = some outerSummary := by
    rw [unpacked?_packed]
    cbv
  have hcache : (Surveyor.new .standard).cache = .bounded SurveySettings.standard.cacheEntries
      SurveySettings.standard.cacheLifetime := rfl
  have hserved : served? (summarize (Surveyor.new .standard).cache outerFile 7).2 innerFile 8 =
      some outerSummary := by
    rw [hcache]
    exact served?_of_read hread hpacked rfl (by decide)
  have hscanned : ((Surveyor.new .standard).after [outerCall]).scannedBy innerCall =
      [innerFile] := by
    rw [scannedBy_after, scannedBy_innerCall]
  rw [servedTo, cache_after_outerCall, hscanned, served, served,
    show innerCall.now = 8 from rfl, hserved, Option.map_some, Option.toList_some,
    List.append_nil]

theorem unchanging_nested : Unchanging (([outerCall] ++ [innerCall]).flatMap
    (Surveyor.new .standard).scannedBy) := by
  have hscanned : ([outerCall] ++ [innerCall]).flatMap (Surveyor.new .standard).scannedBy =
      [outerFile, innerFile] := by
    rw [List.flatMap_append, List.flatMap_singleton, List.flatMap_singleton, scannedBy_outerCall,
      scannedBy_innerCall]
    rfl
  have hsame : ∀ f ∈ [outerFile, innerFile], f.absolute = "/p/q/x.go" ∧ f.data = ⟨.empty, 5⟩ := by
    intro f hf
    rcases List.mem_pair.mp hf with rfl | rfl
    · exact ⟨rfl, rfl⟩
    · exact ⟨rfl, rfl⟩
  rw [hscanned]
  constructor
  · intro f hf g hg _ _
    rw [(hsame f hf).2, (hsame g hg).2]
  · intro f hf g hg _
    exact ⟨(hsame f hf).1.trans (hsame g hg).1.symm,
      congrArg StoredFile.modified ((hsame f hf).2.trans (hsame g hg).2.symm)⟩

theorem survey_ne_uncached_of_nested_root :
    Unchanging (([outerCall] ++ [innerCall]).flatMap (Surveyor.new .standard).scannedBy) ∧
    ¬ SameFindings (((Surveyor.new .standard).after [outerCall]).answer innerCall).1
      ((Surveyor.new { SurveySettings.standard with cacheEnabled := false }).survey innerCall.disk
        innerCall.root innerCall.isCancelled 8).1 := by
  have hvalid : SurveySettings.standard.validate = .ok () := by cbv
  have hserved : (innerFile, outerSummary) ∈
      ((Surveyor.new .standard).after [outerCall]).servedTo innerCall := by
    rw [servedTo_innerCall]
    exact List.mem_singleton_self _
  have hpath : outerSummary.path ≠ innerFile.relative := by decide +kernel
  have hiff := survey_eq_uncached_iff hvalid unchanging_nested 8
  exact ⟨unchanging_nested, mt hiff.mp fun h => hpath (h _ hserved)⟩

end Surveyor

end TagAtlas

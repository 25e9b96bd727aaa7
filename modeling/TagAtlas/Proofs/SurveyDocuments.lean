import TagAtlas.Proofs.JsonRecordReading
import TagAtlas.Proofs.StampTexts

/-!
# Surveys in documents

A survey whose lines, counts and sizes are numbers of their widths, and whose stamp is one of the
calendar, is what its text is read as. Kept bytes likewise hold the summary that they were made of.
-/

namespace TagAtlas

open Json (Stable lookup_field?)
open Json.Record (required_eq defaulted_eq optional_eq optional_string)

/-! ### Widths of numbers -/

def Tag.Fits (t : Tag) : Prop := t.line < 0x100000000

instance (t : Tag) : Decidable t.Fits := inferInstanceAs (Decidable (t.line < 0x100000000))

def Symbol.Fits (s : Symbol) : Prop := s.line < 0x100000000

instance (s : Symbol) : Decidable s.Fits := inferInstanceAs (Decidable (s.line < 0x100000000))

/-- Lines are numbers of 32 bits, counts of 64. -/
structure FileSummary.Fits (f : FileSummary) : Prop where
  tags : ∀ t ∈ f.tags, t.Fits
  symbols : ∀ s ∈ f.symbols, s.Fits
  lineCount : f.lineCount < 0x10000000000000000
  size : f.size < 0x10000000000000000

def Module.Fits (m : Module) : Prop := ∀ t ∈ m.tags, t.Fits

def Dependency.Fits (d : Dependency) : Prop := ∀ line ∈ d.line, line < 0x100000000

/-- Numbers have their widths, and the stamp is one of the calendar. -/
structure Survey.Fits (s : Survey) : Prop where
  modules : ∀ m ∈ s.modules, m.Fits
  dependencies : ∀ d ∈ s.dependencies, d.Fits
  tags : ∀ t ∈ s.tags, t.Fits
  files : ∀ f ∈ s.files, f.Fits
  takenAt : s.takenAt.isValid = true

/-! ### Printed documents -/

theorem stable_line {line : Nat} (h : line < 0x100000000) : Stable (.ofNat line) :=
  .nat (by omega)

theorem Symbol.stable_toJson {s : Symbol} (h : s.Fits) :
    Stable s.toJson := by
  refine .object fun m hm => ?_
  simp only [List.mem_cons, List.not_mem_nil, or_false] at hm
  rcases hm with rfl | rfl | rfl
  · exact .string ..
  · exact .string ..
  · exact stable_line h

theorem Tag.stable_toJson {t : Tag} (h : t.Fits) : Stable t.toJson := by
  refine .object fun m hm => ?_
  simp only [List.mem_append, List.mem_cons, List.not_mem_nil, or_false] at hm
  rcases hm with (((rfl | hm) | rfl | rfl | rfl) | hm) | hm
  · exact .string ..
  · exact Stable.field? (fun _ _ => .string ..) m hm
  · exact .ofDict fun _ _ => .string ..
  · exact stable_line h
  · exact .string ..
  · exact Stable.field? (fun _ _ => .string ..) m hm
  · exact Stable.field? (fun _ _ => .string ..) m hm

theorem FileSummary.stable_toJson {f : FileSummary} (h : f.Fits) :
    Stable f.toJson := by
  refine .object fun m hm => ?_
  simp only [List.mem_append, List.mem_cons, List.not_mem_nil, or_false] at hm
  rcases hm with ((rfl | rfl) | hm) | rfl | rfl | rfl | rfl | rfl
  · exact .string ..
  · exact .string ..
  · exact Stable.field? (fun _ _ => .string ..) m hm
  · exact .ofStrings ..
  · exact .map fun t ht => Tag.stable_toJson (h.tags t ht)
  · exact .map fun s hs => Symbol.stable_toJson (h.symbols s hs)
  · exact .nat h.lineCount
  · exact .nat h.size

theorem Module.stable_toJson {m : Module} (h : m.Fits) :
    Stable m.toJson := by
  refine .object fun member hm => ?_
  simp only [List.mem_cons, List.not_mem_nil, or_false] at hm
  rcases hm with rfl | rfl | rfl | rfl | rfl
  · exact .string ..
  · exact .string ..
  · exact .ofStrings ..
  · exact .ofStrings ..
  · exact .map fun t ht => Tag.stable_toJson (h t ht)

theorem Dependency.stable_toJson {d : Dependency} (h : d.Fits) :
    Stable d.toJson := by
  refine .object fun m hm => ?_
  simp only [List.mem_append, List.mem_cons, List.not_mem_nil, or_false] at hm
  rcases hm with (rfl | rfl | rfl) | hm
  · exact .string ..
  · exact .string ..
  · exact .string ..
  · exact Stable.field? (fun line hline => stable_line (h line hline)) m hm

theorem Warning.stable_toJson (w : Warning) : Stable w.toJson := by
  refine .object fun m hm => ?_
  simp only [List.mem_append, List.mem_singleton] at hm
  rcases hm with hm | rfl
  · exact Stable.field? (fun _ _ => .string ..) m hm
  · exact .string ..

theorem Survey.stable_toJson {s : Survey} (h : s.Fits) : Stable s.toJson := by
  refine .object fun m hm => ?_
  simp only [List.mem_append, List.mem_cons, List.not_mem_nil, or_false] at hm
  rcases hm with (rfl | hm) | rfl | rfl | rfl | rfl | rfl | rfl
  · exact .string ..
  · exact Stable.field? (fun _ _ => .string ..) m hm
  · exact .map fun m hm => Module.stable_toJson (h.modules m hm)
  · exact .map fun d hd => Dependency.stable_toJson (h.dependencies d hd)
  · exact .map fun t ht => Tag.stable_toJson (h.tags t ht)
  · exact .map fun f hf => FileSummary.stable_toJson (h.files f hf)
  · exact .map fun w _ => w.stable_toJson
  · exact .string ..

/-! ### Read documents -/

theorem SymbolKind.choice?_name (k : SymbolKind) :
    Json.choice? SymbolKind.named (.string k.name) = some k := by
  cases k <;> decide

theorem Symbol.ofJson?_toJson {s : Symbol} (h : s.Fits) : Symbol.ofJson? s.toJson = some s := by
  simp only [Symbol.ofJson?, Option.bind_eq_bind, Option.bind_eq_some_iff, Option.pure_def,
    Option.some.injEq]
  exact ⟨_, rfl, s.name, required_eq rfl rfl, s.kind, required_eq rfl s.kind.choice?_name,
    s.line, required_eq rfl (Json.word32?_ofNat h), rfl⟩

theorem Tag.ofJson?_toJson {t : Tag} (h : t.Fits) : Tag.ofJson? t.toJson = some t := by
  simp only [Tag.ofJson?, Option.bind_eq_bind, Option.bind_eq_some_iff, Option.pure_def,
    Option.some.injEq]
  -- whichever fields are left out, none is written twice
  refine ⟨_, Json.record?_object (by cases t.value <;> cases t.symbol <;> cases t.file <;> rfl),
    t.type.name, required_eq (v := .string _) ?_ rfl, t.value, optional_string ?_,
    t.attributes, defaulted_eq (v := .ofDict .string _) ?_ (Json.dict?_ofDict fun _ _ => rfl),
    t.line, required_eq (v := .ofNat _) ?_ (Json.word32?_ofNat h),
    t.content, required_eq (v := .string _) ?_ rfl, t.symbol, optional_string ?_,
    t.file, optional_string ?_, rfl⟩
  all_goals simp [List.lookup_append, lookup_field?, List.lookup]

theorem FileSummary.ofJson?_toJson {f : FileSummary} (h : f.Fits) :
    FileSummary.ofJson? f.toJson = some f := by
  have htags : Json.list? Tag.ofJson? (.array (f.tags.map Tag.toJson)) = some f.tags :=
    Json.list?_map fun t ht => Tag.ofJson?_toJson (h.tags t ht)
  have hsymbols : Json.list? Symbol.ofJson? (.array (f.symbols.map Symbol.toJson)) =
      some f.symbols := Json.list?_map fun s hs => Symbol.ofJson?_toJson (h.symbols s hs)
  simp only [FileSummary.ofJson?, Option.bind_eq_bind, Option.bind_eq_some_iff, Option.pure_def,
    Option.some.injEq]
  refine ⟨_, Json.record?_object (by cases f.moduleName <;> rfl),
    f.path, required_eq (v := .string _) ?_ rfl, f.packageName, required_eq (v := .string _) ?_ rfl,
    f.moduleName, optional_string ?_, f.imports, required_eq ?_ (Json.list?_ofStrings _),
    f.tags, required_eq ?_ htags, f.symbols, required_eq ?_ hsymbols,
    f.lineCount, required_eq (v := .ofNat _) ?_ (Json.word64?_ofNat h.lineCount),
    f.size, required_eq (v := .ofNat _) ?_ (Json.word64?_ofNat h.size), rfl⟩
  all_goals simp [List.lookup_append, lookup_field?, List.lookup]

theorem Module.ofJson?_toJson {m : Module} (h : m.Fits) : Module.ofJson? m.toJson = some m := by
  have htags : Json.list? Tag.ofJson? (.array (m.tags.map Tag.toJson)) = some m.tags :=
    Json.list?_map fun t ht => Tag.ofJson?_toJson (h t ht)
  simp only [Module.ofJson?, Option.bind_eq_bind, Option.bind_eq_some_iff, Option.pure_def,
    Option.some.injEq]
  exact ⟨_, rfl, m.name, required_eq rfl rfl, m.packageName, required_eq rfl rfl,
    m.files, required_eq rfl (Json.list?_ofStrings _),
    m.dependencies, required_eq rfl (Json.list?_ofStrings _), m.tags, required_eq rfl htags, rfl⟩

theorem Dependency.ofJson?_toJson {d : Dependency} (h : d.Fits) :
    Dependency.ofJson? d.toJson = some d := by
  have hline : ∀ line ∈ d.line, Json.word32? (.ofNat line) = some line := fun line hline =>
    Json.word32?_ofNat (h line hline)
  simp only [Dependency.ofJson?, Option.bind_eq_bind, Option.bind_eq_some_iff, Option.pure_def,
    Option.some.injEq]
  refine ⟨_, Json.record?_object (by cases d.line <;> rfl),
    d.source, required_eq (v := .string _) ?_ rfl, d.target, required_eq (v := .string _) ?_ rfl,
    d.kind, required_eq ?_ d.kind.choice?_name, d.line, optional_eq ?_ hline rfl, rfl⟩
  all_goals simp [lookup_field?, List.lookup]

theorem Warning.ofJson?_toJson (w : Warning) : Warning.ofJson? w.toJson = some w := by
  simp only [Warning.ofJson?, Option.bind_eq_bind, Option.bind_eq_some_iff, Option.pure_def,
    Option.some.injEq]
  refine ⟨_, Json.record?_object (by cases w.path <;> rfl), w.path, optional_string ?_,
    w.message, required_eq (v := .string _) ?_ rfl, rfl⟩
  all_goals simp [List.lookup_append, lookup_field?, List.lookup]

theorem Stamp.ofJson?_toJson {s : Stamp} (h : s.isValid = true) :
    Stamp.ofJson? s.toJson = some s := by
  rw [Stamp.ofJson?, Stamp.toJson, Json.string?, Option.bind_some, ofText?_text h]

namespace Survey

variable {s : Survey}

theorem ofJson?_toJson (h : s.Fits) : ofJson? s.toJson = some s := by
  have hmodules : Json.list? Module.ofJson? (.array (s.modules.map Module.toJson)) =
      some s.modules := Json.list?_map fun m hm => Module.ofJson?_toJson (h.modules m hm)
  have hdependencies : Json.list? Dependency.ofJson?
      (.array (s.dependencies.map Dependency.toJson)) = some s.dependencies :=
    Json.list?_map fun d hd => Dependency.ofJson?_toJson (h.dependencies d hd)
  have htags : Json.list? Tag.ofJson? (.array (s.tags.map Tag.toJson)) = some s.tags :=
    Json.list?_map fun t ht => Tag.ofJson?_toJson (h.tags t ht)
  have hfiles : Json.list? FileSummary.ofJson? (.array (s.files.map FileSummary.toJson)) =
      some s.files := Json.list?_map fun f hf => FileSummary.ofJson?_toJson (h.files f hf)
  have hwarnings : Json.list? Warning.ofJson? (.array (s.warnings.map Warning.toJson)) =
      some s.warnings := Json.list?_map fun w _ => w.ofJson?_toJson
  simp only [ofJson?, Option.bind_eq_bind, Option.bind_eq_some_iff, Option.pure_def,
    Option.some.injEq]
  refine ⟨_, Json.record?_object (by cases s.modulePath <;> rfl),
    s.root, required_eq (v := .string _) ?_ rfl, s.modulePath, optional_string ?_,
    s.modules, required_eq ?_ hmodules, s.dependencies, required_eq ?_ hdependencies,
    s.tags, required_eq ?_ htags, s.files, required_eq ?_ hfiles,
    s.warnings, defaulted_eq ?_ hwarnings,
    s.takenAt, required_eq ?_ (Stamp.ofJson?_toJson h.takenAt), rfl⟩
  all_goals simp [List.lookup_append, lookup_field?, List.lookup]

theorem ofText_toText (h : s.Fits) : ofText s.toText = .ok s := by
  rw [ofText, toText, (stable_toJson h).parse?_pretty, Option.bind_some,
    ofJson?_toJson h]

end Survey

theorem Surveyor.unpacked?_packed_of_fits {f : FileSummary} (h : f.Fits) :
    unpacked? (packed f) = some f := by
  rw [unpacked?_packed, (FileSummary.stable_toJson h).reread, FileSummary.ofJson?_toJson h]

/-- The text of a survey is read as the survey, and the kept bytes of a summary as the summary. -/
theorem Survey.readsBack :
    (∀ s : Survey, s.Fits → Survey.ofText s.toText = .ok s) ∧
      ∀ f : FileSummary, f.Fits → Surveyor.unpacked? (Surveyor.packed f) = some f :=
  ⟨fun _ => Survey.ofText_toText, fun _ => Surveyor.unpacked?_packed_of_fits⟩

/-- A file with quotes, a backslash, control characters and letters beyond ASCII in its tags. -/
def escapedFile : FileSummary :=
  let full : Tag := ⟨.module, some "b\\1", Dict.ofList [("roles", "a \x22b\x22"), ("", "\t\n\x7f")],
    4294967295, "@kthulu:module:b\\1", some "É", some "a/ß.go"⟩
  ⟨"a/ß.go", "a", some "b\\1", ["fmt", "\x00"],
    [full, ⟨.security, none, .empty, 1, "", none, none⟩],
    [⟨"É", .type, 3⟩], 7, 18446744073709551615⟩

/-- A survey in a leap second, in which some fields have no value. -/
def escapedSurvey : Survey :=
  ⟨"/tmp/π", none, [⟨"b\\1", "a", ["a/ß.go"], ["c"], escapedFile.tags⟩],
    [⟨"b\\1", "c", .requires, some 9⟩, ⟨"b\\1", "d", .import, none⟩], escapedFile.tags,
    [escapedFile, ⟨"e.go", "e", none, [], [], [], 0, 0⟩], [⟨none, "\u001b"⟩, ⟨some "f.go", ""⟩],
    ⟨2016, 12, 31, 23, 59, 60, 5000⟩⟩

theorem Survey.readsBack_escaped :
    escapedSurvey.Fits ∧ Survey.ofText escapedSurvey.toText = .ok escapedSurvey ∧
      escapedFile.Fits ∧ Surveyor.unpacked? (Surveyor.packed escapedFile) = some escapedFile := by
  have htags : ∀ t ∈ escapedFile.tags, t.Fits := by decide
  have hfile : escapedFile.Fits := ⟨htags, by decide, by decide, by decide⟩
  have hplain : FileSummary.Fits ⟨"e.go", "e", none, [], [], [], 0, 0⟩ :=
    ⟨List.forall_mem_nil _, List.forall_mem_nil _, by decide, by decide⟩
  have hsurvey : escapedSurvey.Fits := by
    refine ⟨List.forall_mem_singleton.mpr htags, ?_, htags,
      List.forall_mem_cons.mpr ⟨hfile, List.forall_mem_singleton.mpr hplain⟩, by decide⟩
    refine List.forall_mem_cons.mpr ⟨?_, List.forall_mem_singleton.mpr ?_⟩
    · rintro line ⟨⟩
      decide
    · rintro line ⟨⟩
  exact ⟨hsurvey, readsBack.1 _ hsurvey, hfile, readsBack.2 _ hfile⟩

end TagAtlas

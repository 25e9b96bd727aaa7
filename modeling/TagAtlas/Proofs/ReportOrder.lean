import Mathlib.Data.List.Forall2
import Mathlib.Data.Prod.Lex
import TagAtlas.Proofs.DictContents
import TagAtlas.Proofs.SurveyMergeSteps
import TagAtlas.Report.Basic

/-!
# Reports do not depend on the order of lists

Whatever a report lists is sorted by a key first, and items with the same key are written in the
same way. So a report says what a survey holds, not in which order the survey lists it.
-/

namespace TagAtlas

/-! ### Lists in any order -/

/-- The items of a list are changed one by one and listed in any order. -/
def Shuffled {α : Type} (changes : α → α → Prop) (l l' : List α) : Prop :=
  ∃ changed, List.Forall₂ changes l changed ∧ changed.Perm l'

namespace Shuffled

variable {α β : Type} {changes : α → α → Prop} {l l' : List α}

theorem map_perm (h : Shuffled changes l l') {f g : α → β} (hfg : ∀ a b, changes a b → f a = g b) :
    (l.map f).Perm (l'.map g) := by
  obtain ⟨changed, hchanged, hperm⟩ := h
  have hmap : l.map f = changed.map g := by
    induction hchanged generalizing l' with
    | nil => rfl
    | cons hab _ ih => rw [List.map_cons, List.map_cons, hfg _ _ hab, ih (.refl _)]
  exact hmap ▸ hperm.map g

theorem filter (h : Shuffled changes l l') {p : α → Bool} (hp : ∀ a b, changes a b → p a = p b) :
    Shuffled changes (l.filter p) (l'.filter p) := by
  obtain ⟨changed, hchanged, hperm⟩ := h
  refine ⟨changed.filter p, ?_, hperm.filter p⟩
  clear hperm
  induction hchanged with
  | nil => exact .nil
  | @cons a b _ _ hab _ ih =>
    by_cases ha : p a = true
    · rw [List.filter_cons_of_pos ha, List.filter_cons_of_pos (hp a b hab ▸ ha)]
      exact .cons hab ih
    · rw [List.filter_cons_of_neg ha, List.filter_cons_of_neg (hp a b hab ▸ ha)]
      exact ih

end Shuffled

/-! ### Surveys in another order -/

/-- The same module with its files and dependencies in any order. -/
structure Module.Rearranged (m m' : Module) : Prop where
  files : m.files.Perm m'.files
  dependencies : m.dependencies.Perm m'.dependencies
  others : { m' with files := m.files, dependencies := m.dependencies } = m

/-- The same file with its symbols in any order. -/
structure FileSummary.Rearranged (f f' : FileSummary) : Prop where
  symbols : f.symbols.Perm f'.symbols
  others : { f' with symbols := f.symbols } = f

/-- The same survey with its lists, and those of its modules and files, in any order. -/
structure Survey.Rearranged (s s' : Survey) : Prop where
  modules : Shuffled Module.Rearranged s.modules s'.modules
  dependencies : s.dependencies.Perm s'.dependencies
  tags : s.tags.Perm s'.tags
  files : Shuffled FileSummary.Rearranged s.files s'.files
  others : { s' with
    modules := s.modules, dependencies := s.dependencies, tags := s.tags, files := s.files } = s

def Survey.reversed (s : Survey) : Survey :=
  { s with
    modules := (s.modules.map fun m =>
      { m with files := m.files.reverse, dependencies := m.dependencies.reverse }).reverse
    dependencies := s.dependencies.reverse
    tags := s.tags.reverse
    files := (s.files.map fun f => { f with symbols := f.symbols.reverse }).reverse }

theorem Shuffled.map_reverse {α : Type} {changes : α → α → Prop} {f : α → α}
    (hf : ∀ a, changes a (f a)) (l : List α) : Shuffled changes l (l.map f).reverse :=
  ⟨l.map f, List.forall₂_map_right_iff.mpr (List.forall₂_same.mpr fun a _ => hf a),
    (List.reverse_perm _).symm⟩

theorem Survey.rearranged_reversed (s : Survey) : s.Rearranged s.reversed where
  modules := .map_reverse
    (fun _ => ⟨(List.reverse_perm _).symm, (List.reverse_perm _).symm, rfl⟩) s.modules
  dependencies := (List.reverse_perm _).symm
  tags := (List.reverse_perm _).symm
  files := .map_reverse (fun _ => ⟨(List.reverse_perm _).symm, rfl⟩) s.files
  others := rfl

theorem Module.Rearranged.name_eq {m m' : Module} (h : m.Rearranged m') : m.name = m'.name :=
  (congrArg Module.name h.others).symm

theorem Module.Rearranged.packageName_eq {m m' : Module} (h : m.Rearranged m') :
    m.packageName = m'.packageName :=
  (congrArg Module.packageName h.others).symm

namespace FileSummary.Rearranged

variable {f f' : FileSummary} (h : f.Rearranged f')

include h

theorem path_eq : f.path = f'.path := (congrArg FileSummary.path h.others).symm

theorem packageName_eq : f.packageName = f'.packageName :=
  (congrArg FileSummary.packageName h.others).symm

theorem hasTags_eq : f.hasTags = f'.hasTags := (congrArg FileSummary.hasTags h.others).symm

end FileSummary.Rearranged

namespace Survey.Rearranged

variable {s s' : Survey} (h : s.Rearranged s')

include h

theorem root_eq : s.root = s'.root := (congrArg Survey.root h.others).symm

theorem names_perm : s.names.Perm s'.names := h.modules.map_perm fun _ _ hm => hm.name_eq

theorem hasModule_eq (name : String) : s.hasModule name = s'.hasModule name := by
  rw [Bool.eq_iff_iff, hasModule_iff, hasModule_iff, h.names_perm.mem_iff]

/-- Tags of the same types are counted in any order. -/
theorem tagCounts_eq : s.tagCounts = s'.tagCounts := by
  refine h.tags.foldl_eq' (fun a _ b _ counts => Dict.ext_find? fun key => ?_) _
  simp only [Dict.update, Dict.find?_insert]
  grind

end Survey.Rearranged

namespace Report

/-! ### Lists in reports -/

theorem lines_eq {α : Type} {indent : String} {l l' : List α} {write write' : α → String}
    (h : l.map write = l'.map write') : lines indent l write = lines indent l' write' := by
  have hempty : l.isEmpty = l'.isEmpty := by simpa using congrArg List.isEmpty h
  have hjoin := congrArg (fun texts => String.join (texts.map fun t => line (indent ++ t))) h
  simp only [List.map_map, Function.comp_def] at hjoin
  simp only [lines, hempty, hjoin]

theorem sort_names_eq {names names' : List String} (h : names.Perm names') :
    names.mergeSort (fun a b => a ≤ b) = names'.mergeSort fun a b => a ≤ b :=
  mergeSort_eq_of_perm (by simp) Function.injective_id h

theorem nameList_eq (title : String) {names names' : List String} (h : names.Perm names') :
    nameList title names = nameList title names' := by
  rw [nameList, nameList, h.length_eq, sort_names_eq h]

def place (d : Dependency) : String ×ₗ String ×ₗ Nat :=
  toLex (d.source, toLex (d.target, d.kind.rank))

theorem precedes_iff (a b : Dependency) : precedes a b = true ↔ place a ≤ place b := by
  simp only [place, Prod.Lex.toLex_le_toLex, precedes]
  by_cases hsource : a.source = b.source
  · by_cases htarget : a.target = b.target <;> simp [hsource, htarget, le_iff_lt_or_eq]
  · simp [hsource]

theorem kind_eq_of_rank_eq {a b : DependencyKind} (h : a.rank = b.rank) : a = b := by
  cases a <;> cases b <;> simp [DependencyKind.rank] at h ⊢

theorem key_eq_of_place_eq {a b : Dependency} (h : place a = place b) : a.key = b.key := by
  simp only [place, toLex_inj, Prod.mk.injEq] at h
  obtain ⟨hsource, htarget, hrank⟩ := h
  rw [Dependency.key, Dependency.key, hsource, htarget, kind_eq_of_rank_eq hrank]

theorem hintPrecedes_iff (a b : String × String) : hintPrecedes a b = true ↔ toLex a ≤ toLex b := by
  rw [Prod.Lex.toLex_le_toLex, hintPrecedes]
  by_cases h : a.1 = b.1 <;> simp [h]

theorem hints_eq {f f' : FileSummary} (h : f.Rearranged f') : hints f = hints f' :=
  mergeSort_eq_of_perm hintPrecedes_iff toLex.injective (eraseDups_perm (h.symbols.filterMap _))

/-! ### Whole reports -/

variable {s s' : Survey}

/-- Modules that are told apart by their names are written in the same order. -/
theorem map_sortedModules_eq {τ : Type} (h : s.Rearranged s') (hnames : s.names.Nodup)
    {text : Module → τ} (htext : ∀ m m', Module.Rearranged m m' → text m = text m') :
    (sortedModules s).map text = (sortedModules s').map text := by
  have hone : ∀ a ∈ s.modules, ∀ b ∈ s.modules, a.name = b.name → text a = text b := by
    intro a ha b hb hab
    rw [List.inj_on_of_nodup_map hnames ha hb hab]
  exact map_mergeSort_eq (by simp) hone
    (h.modules.map_perm fun m m' hm => Prod.ext hm.name_eq (htext m m' hm))

theorem dependencies_eq (h : s.Rearranged s') : dependencies s = dependencies s' := by
  have hone : ∀ a ∈ s.dependencies, ∀ b ∈ s.dependencies, place a = place b →
      a.source ++ " -> " ++ a.target ++ " (" ++ a.kind.name ++ ")" =
        b.source ++ " -> " ++ b.target ++ " (" ++ b.kind.name ++ ")" := by
    intro a _ b _ hab
    have hkey := key_eq_of_place_eq hab
    simp only [Dependency.key, Prod.mk.injEq] at hkey
    simp only [hkey]
  have htexts := map_mergeSort_eq precedes_iff hone (h.dependencies.map _)
  rw [dependencies, dependencies, lines_eq htexts]

theorem overview_eq (h : s.Rearranged s') (hnames : s.names.Nodup) (withDependencies : Bool) :
    overview s withDependencies = overview s' withDependencies := by
  have hcount : s.modules.length = s'.modules.length := by
    simpa [Survey.names] using h.names_perm.length_eq
  have hmodules := map_sortedModules_eq h hnames fun m m' hm =>
    show m.name ++ " (package " ++ m.packageName ++ ", " ++ Nat.repr m.files.length ++ " files)" =
        m'.name ++ " (package " ++ m'.packageName ++ ", " ++ Nat.repr m'.files.length ++ " files)" by
      rw [hm.name_eq, hm.packageName_eq, hm.files.length_eq]
  rw [overview, overview, h.root_eq, hcount, h.dependencies.length_eq, h.tags.length_eq,
    lines_eq hmodules, dependencies_eq h]

theorem module_eq {m m' : Module} (h : m.Rearranged m') : Report.module m = Report.module m' := by
  rw [Report.module, Report.module, h.name_eq, h.packageName_eq, nameList_eq _ h.files,
    nameList_eq _ h.dependencies]

theorem modules_eq (h : s.Rearranged s') (hnames : s.names.Nodup) : modules s = modules s' := by
  have hempty : s.modules.isEmpty = s'.modules.isEmpty := by
    simpa [Survey.names] using h.names_perm.isEmpty_eq
  rw [modules, modules, hempty, map_sortedModules_eq h hnames fun m m' => module_eq]

theorem tags_eq (h : s.Rearranged s') : tags s = tags s' := by
  rw [tags, tags, h.tagCounts_eq]

theorem fileGuide_eq (h : s.Rearranged s') {f f' : FileSummary} (hf : f.Rearranged f') :
    fileGuide s f = fileGuide s' f' := by
  rw [fileGuide, fileGuide, hints_eq hf, Survey.guessModule, Survey.guessModule, hf.path_eq,
    hf.packageName_eq, h.hasModule_eq]

def untagged (s : Survey) : List FileSummary :=
  (s.files.filter fun f => !f.hasTags).mergeSort fun a b => a.path ≤ b.path

theorem map_untagged_eq (h : s.Rearranged s') (hpaths : (s.files.map FileSummary.path).Nodup) :
    (untagged s).map (fileGuide s) = (untagged s').map (fileGuide s') := by
  have hfiles := h.files.filter fun f f' hf =>
    show (!f.hasTags) = !f'.hasTags by rw [hf.hasTags_eq]
  have hone : ∀ a ∈ s.files.filter fun f => !f.hasTags, ∀ b ∈ s.files.filter fun f => !f.hasTags,
      a.path = b.path → fileGuide s a = fileGuide s b := by
    intro a ha b hb hab
    rw [List.inj_on_of_nodup_map hpaths (List.mem_of_mem_filter ha) (List.mem_of_mem_filter hb) hab]
  exact map_mergeSort_eq (by simp) hone
    (hfiles.map_perm fun f f' hf => Prod.ext hf.path_eq (fileGuide_eq h hf))

theorem guide_eq (h : s.Rearranged s') (hpaths : (s.files.map FileSummary.path).Nodup) :
    guide s = guide s' := by
  have hwrite (s : Survey) : guide s = line "Annotation guide" ++
      line ("Untagged files: " ++ Nat.repr ((untagged s).map (fileGuide s)).length) ++
      (if ((untagged s).map (fileGuide s)).isEmpty then line ("  " ++ noneText)
        else String.join ((untagged s).map (fileGuide s))) := by
    rw [List.length_map, List.isEmpty_map, guide, untagged]
  rw [hwrite, hwrite, map_untagged_eq h hpaths]

/-- Two surveys of which every report says the same. -/
structure Same (s s' : Survey) : Prop where
  overview : ∀ withDependencies, overview s withDependencies = overview s' withDependencies
  modules : modules s = modules s'
  tags : tags s = tags s'
  dependencies : dependencies s = dependencies s'
  guide : guide s = guide s'

/-- The order in which a survey lists what it holds cannot be seen in its reports. Dependencies may
even be listed more than once, since their keys are all that is written of them. -/
theorem same_of_rearranged (h : s.Rearranged s') (hnames : s.names.Nodup)
    (hpaths : (s.files.map FileSummary.path).Nodup) : Same s s' where
  overview := overview_eq h hnames
  modules := modules_eq h hnames
  tags := tags_eq h
  dependencies := dependencies_eq h
  guide := guide_eq h hpaths

/-- Two modules that need each other, and two files without tags. -/
def crossed : Survey where
  root := "app"
  modulePath := none
  modules := [⟨"b", "b", ["b/b.go", "b/a.go"], ["a"], []⟩, ⟨"a", "a", [], ["b"], []⟩]
  dependencies := [⟨"b", "a", .requires, some 3⟩, ⟨"b", "a", .import, none⟩]
  tags := [⟨.service, some "s", .empty, 1, "@kthulu:service:s", none, none⟩,
    ⟨.module, some "b", .empty, 2, "@kthulu:module:b", none, none⟩]
  files := [⟨"b/b.go", "b", none, [], [], [⟨"UserService", .type, 9⟩, ⟨"Log", .type, 4⟩], 9, 80⟩,
    ⟨"b/a.go", "b", none, [], [], [], 1, 10⟩]
  warnings := []
  takenAt := ⟨2024, 1, 1, 0, 0, 0, 0⟩

theorem same_of_rearranged_crossed : crossed.Rearranged crossed.reversed ∧ crossed.names.Nodup ∧
    (crossed.files.map FileSummary.path).Nodup ∧ crossed.reversed ≠ crossed ∧
    Same crossed crossed.reversed := by
  have hnames : crossed.names.Nodup := by decide
  have hpaths : (crossed.files.map FileSummary.path).Nodup := by decide
  exact ⟨crossed.rearranged_reversed, hnames, hpaths, by decide,
    same_of_rearranged crossed.rearranged_reversed hnames hpaths⟩

end Report

end TagAtlas

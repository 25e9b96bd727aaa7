import TagAtlas.Proofs.TextLines
import TagAtlas.Survey.Project

/-!
# Module directives

A text names the import path of a project on one of its lines, and says nothing of it on the others,
whose first word is not `module`. From such a text the path is read as it stands, without the quotes
around it and the blanks on both sides. A remark behind the path is not told from it: it is read as
a part of the path.
-/

namespace TagAtlas

namespace ModulePath

open Text

variable {l rest indent gap s : List Char} {c : Char}

/-! ### Single lines -/

def firstWord (l : List Char) : List Char := (trimStart l).takeWhile (!isBlank ·)

/-- A line that does not name a path. It may be blank, a remark, or a directive of another name. -/
def Idle (l : List Char) : Prop := '\n' ∉ l ∧ firstWord l ≠ "module".toList

instance : DecidablePred Idle := fun _ => inferInstanceAs (Decidable (_ ∧ _))

theorem idle_of_blank (hline : '\n' ∉ l) (h : ∀ c ∈ l, isBlank c = true) : Idle l := by
  refine ⟨hline, ?_⟩
  have hnone : trimStart l = [] := List.dropWhile_eq_nil_iff.mpr h
  rw [firstWord, hnone]
  decide

theorem idle_of_remark (hline : '\n' ∉ l ++ '/' :: '/' :: s) (h : ∀ c ∈ l, isBlank c = true) :
    Idle (l ++ '/' :: '/' :: s) := by
  refine ⟨hline, fun hword => ?_⟩
  have hstart : trimStart (l ++ '/' :: '/' :: s) = '/' :: '/' :: s :=
    dropWhile_append h (by simp [isBlank])
  rw [firstWord, hstart] at hword
  simp [isBlank] at hword

theorem ofLine?_eq_none (h : firstWord l ≠ "module".toList) : ofLine? l = none := by
  unfold ofLine?
  split
  next c rest hafter =>
    refine if_neg fun hblank => h ?_
    obtain ⟨b, -, hstart⟩ := exists_trimEnd_append (trimStart l)
    have htrim : trim l = "module".toList ++ c :: rest := after?_eq_some_iff.mp hafter
    rw [firstWord, ← hstart, ← trim, htrim, List.append_assoc]
    exact takeWhile_append (by simp [isBlank]) (by simpa using hblank)
  next => rfl

theorem ofLine?_eq_of_trim_eq {l' : List Char} (h : trim l = trim l') : ofLine? l = ofLine? l' := by
  rw [ofLine?, ofLine?, h]

def unquoted (s : List Char) : List Char := (s.dropWhile (· = '\x22')).rdropWhile (· = '\x22')

/-- What stands behind the word `module` is read without blanks and quotes on both sides. -/
theorem ofLine?_directive (hindent : ∀ c ∈ indent, isBlank c = true)
    (hgap : ∀ c ∈ gap, isBlank c = true) (hne : gap ≠ []) (hc : isBlank c = false) :
    ofLine? (indent ++ ("module".toList ++ (gap ++ c :: s))) =
      if (unquoted (trimEnd (c :: s))).isEmpty then none
      else some (String.ofList (unquoted (trimEnd (c :: s)))) := by
  obtain ⟨b, gap, rfl⟩ := List.exists_cons_of_ne_nil hne
  have hend : trimEnd (c :: s) = c :: trimEnd s := rdropWhile_append_cons hc [] s
  have hline : trim (indent ++ ("module".toList ++ (b :: gap ++ c :: s))) =
      "module".toList ++ b :: (gap ++ c :: trimEnd s) := by
    have htrim := trim_blanks_append (l := "module".toList ++ b :: gap) hindent (by simp [isBlank])
      hc s
    simpa only [List.append_assoc, List.cons_append] using htrim
  have hrest : trim (b :: (gap ++ c :: trimEnd s)) = trimEnd (c :: s) := by
    have htrim := trim_blanks_append (l := []) hgap (by simp) hc (trimEnd s)
    rw [trimEnd_eq_rdropWhile, trimEnd_eq_rdropWhile, List.rdropWhile_idempotent] at htrim
    exact htrim.trans hend.symm
  have hafter : after? "module".toList ("module".toList ++ b :: (gap ++ c :: trimEnd s)) =
      some (b :: (gap ++ c :: trimEnd s)) := after?_eq_some_iff.mpr rfl
  unfold ofLine?
  rw [hline, hafter]
  simp only [hgap b List.mem_cons_self, hrest, if_true, unquoted, List.rdropWhile,
    List.isEmpty_reverse]

/-! ### Directives -/

/-- A line that names an import path: the word `module`, the path, perhaps between quotes, and
perhaps a remark behind it. -/
structure Directive where
  indent : List Char
  gap : List Char
  path : List Char
  quoted : Bool
  tail : List Char
  /-- What stands behind the slashes of a remark. -/
  remark : Option (List Char)
  indent_blank : ∀ c ∈ indent, isBlank c = true
  gap_blank : ∀ c ∈ gap, isBlank c = true
  gap_ne_nil : gap ≠ []
  path_ne_nil : path ≠ []
  path_plain : ∀ c ∈ path, isBlank c = false ∧ c ≠ '\x22'
  tail_blank : ∀ c ∈ tail, isBlank c = true
  tail_ne_nil : remark ≠ none → tail ≠ []

namespace Directive

variable (d : Directive)

def mark : List Char := if d.quoted then ['\x22'] else []

/-- What stands behind the word `module` and the gap. -/
def body : List Char :=
  d.mark ++ (d.path ++ (d.mark ++ (d.tail ++ d.remark.elim [] fun r => '/' :: '/' :: r)))

def text : List Char := d.indent ++ ("module".toList ++ (d.gap ++ d.body))

/-- What is read behind the path: a remark, with all that stands between the two. -/
def excess : List Char :=
  d.remark.elim [] fun r =>
    d.mark ++ (d.tail ++ '/' :: '/' :: (trimEnd r).rdropWhile (· = '\x22'))

def reading : String := String.ofList (d.path ++ d.excess)

theorem mem_mark {c : Char} (h : c ∈ d.mark) : c = '\x22' := by
  unfold mark at h
  split at h
  · exact List.mem_singleton.mp h
  · exact absurd h List.not_mem_nil

theorem unquoted_mark_append (s : List Char) : unquoted (d.mark ++ (d.path ++ s)) =
    (d.path ++ s).rdropWhile (· = '\x22') := by
  have hhead : ∀ c ∈ (d.path ++ s).head?, decide (c = '\x22') = false := by
    intro c hc
    rw [List.head?_append_of_ne_nil _ d.path_ne_nil] at hc
    exact decide_eq_false (d.path_plain c (List.mem_of_head? hc)).2
  rw [unquoted, dropWhile_append (fun c hc => decide_eq_true (d.mem_mark hc)) hhead]

theorem not_isBlank_of_mem {c : Char} (h : c ∈ d.mark ∨ c ∈ d.path) : isBlank c = false := by
  rcases h with hmark | hpath
  · exact d.mem_mark hmark ▸ rfl
  · exact (d.path_plain c hpath).1

/-- Without a remark only the blanks at the end are dropped, and the quotes on both sides. -/
theorem unquoted_path (hblank : ∀ c ∈ s, isBlank c = true) :
    unquoted (trimEnd (d.mark ++ (d.path ++ (d.mark ++ s)))) = d.path := by
  have hlast : ∀ c ∈ (d.mark ++ (d.path ++ d.mark)).getLast?, isBlank c = false := by
    intro c hc
    have hmem := List.mem_of_getLast? hc
    rw [List.mem_append, List.mem_append] at hmem
    exact d.not_isBlank_of_mem (hmem.elim .inl Or.symm)
  have hend : trimEnd (d.mark ++ (d.path ++ (d.mark ++ s))) = d.mark ++ (d.path ++ d.mark) := by
    have hdrop := rdropWhile_append hlast hblank
    rwa [List.append_assoc, List.append_assoc] at hdrop
  rw [hend, unquoted_mark_append]
  refine rdropWhile_append (fun c hc => ?_) fun c hc => decide_eq_true (d.mem_mark hc)
  exact decide_eq_false (d.path_plain c (List.mem_of_getLast? hc)).2

/-- Of a remark no more is dropped than what stands at its end. -/
theorem unquoted_remark (r : List Char) :
    unquoted (trimEnd (d.mark ++ (d.path ++ (s ++ '/' :: '/' :: r)))) =
      d.path ++ (s ++ '/' :: '/' :: (trimEnd r).rdropWhile (· = '\x22')) := by
  have hend : trimEnd (d.mark ++ (d.path ++ (s ++ '/' :: '/' :: r))) =
      d.mark ++ (d.path ++ (s ++ '/' :: '/' :: trimEnd r)) := by
    have hslash : isBlank '/' = false := by decide
    have hstop := rdropWhile_append_cons hslash (d.mark ++ (d.path ++ (s ++ ['/']))) r
    simpa [trimEnd_eq_rdropWhile] using hstop
  have hslash : decide ('/' = '\x22') = false := by decide
  have hstop := rdropWhile_append_cons (p := (· = '\x22')) hslash (d.path ++ (s ++ ['/']))
    (trimEnd r)
  rw [hend, unquoted_mark_append]
  simpa using hstop

theorem unquoted_body : unquoted (trimEnd d.body) = d.path ++ d.excess := by
  unfold body excess
  cases d.remark with
  | none => simpa using d.unquoted_path d.tail_blank
  | some r => simpa using d.unquoted_remark (s := d.mark ++ d.tail) r

theorem exists_body_eq_cons : ∃ c s, d.body = c :: s ∧ isBlank c = false := by
  obtain ⟨c, s, hhead⟩ : ∃ c s, d.mark ++ d.path = c :: s :=
    List.exists_cons_of_ne_nil (by simp [d.path_ne_nil])
  have hc : isBlank c = false := by
    apply d.not_isBlank_of_mem
    rw [← List.mem_append, hhead]
    exact List.mem_cons_self
  refine ⟨c, s ++ (d.mark ++ (d.tail ++ d.remark.elim [] fun r => '/' :: '/' :: r)), ?_, hc⟩
  rw [body, ← List.append_assoc, hhead, List.cons_append]

theorem ofLine?_text : ofLine? d.text = some d.reading := by
  obtain ⟨c, s, hbody, hc⟩ := d.exists_body_eq_cons
  have hne : (d.path ++ d.excess).isEmpty = false := by simp [d.path_ne_nil]
  rw [text, hbody, ofLine?_directive d.indent_blank d.gap_blank d.gap_ne_nil hc, ← hbody,
    unquoted_body, hne]
  rfl

theorem reading_eq_path_iff : d.reading = String.ofList d.path ↔ d.remark = none := by
  rw [reading, String.ofList_inj, List.append_right_eq_self]
  unfold excess
  cases d.remark <;> simp

end Directive

/-! ### Whole texts -/

inductive LineEnd where
  | feed
  | returnFeed

def LineEnd.chars : LineEnd → List Char
  | .feed => ['\n']
  | .returnFeed => ['\r', '\n']

/-- No line of a text names a path. The last line may be empty. -/
inductive Silent : List Char → Prop
  | last {l : List Char} (hl : Idle l) : Silent l
  | line {l rest : List Char} (hl : Idle l) (e : LineEnd) (hrest : Silent rest) :
      Silent (l ++ (e.chars ++ rest))

/-- One line of a text is a directive, and no other line names a path. -/
inductive Names (d : Directive) : List Char → Prop
  | last (hd : '\n' ∉ d.text) : Names d d.text
  | first {rest : List Char} (hd : '\n' ∉ d.text) (e : LineEnd) (hrest : Silent rest) :
      Names d (d.text ++ (e.chars ++ rest))
  | later {l rest : List Char} (hl : Idle l) (e : LineEnd) (hrest : Names d rest) :
      Names d (l ++ (e.chars ++ rest))

theorem findSome?_lines_append (hl : '\n' ∉ l) (e : LineEnd) (rest : List Char) :
    (lines (l ++ (e.chars ++ rest))).findSome? ofLine? =
      (ofLine? l).or ((lines rest).findSome? ofLine?) := by
  obtain ⟨line, hlines, htrim⟩ : ∃ line,
      lines (l ++ (e.chars ++ rest)) = line :: lines rest ∧ trim line = trim l := by
    cases e with
    | feed => exact ⟨dropReturn l, lines_append_feed hl rest, trim_dropReturn l⟩
    | returnFeed =>
      have hfeed : '\n' ∉ l ++ ['\r'] := by simp [hl]
      have hblank : ∀ c ∈ ['\r'], isBlank c = true := by simp [isBlank]
      refine ⟨dropReturn (l ++ ['\r']), ?_, ?_⟩
      · rw [← lines_append_feed hfeed rest, List.append_assoc]
        rfl
      · rw [trim_dropReturn, trim_append_blanks hblank]
  rw [hlines, List.findSome?_cons, ofLine?_eq_of_trim_eq htrim]
  cases ofLine? l <;> rfl

theorem findSome?_lines_of_newline_not_mem (hl : '\n' ∉ l) :
    (lines l).findSome? ofLine? = ofLine? l := by
  rcases eq_or_ne l [] with rfl | hne
  · rfl
  · rw [lines_eq_singleton hl hne, List.findSome?_singleton]

theorem Silent.findSome?_eq_none {text : List Char} (h : Silent text) :
    (lines text).findSome? ofLine? = none := by
  induction h with
  | last hl => rw [findSome?_lines_of_newline_not_mem hl.1, ofLine?_eq_none hl.2]
  | line hl e _ ih => rw [findSome?_lines_append hl.1, ofLine?_eq_none hl.2, ih, Option.none_or]

theorem Names.findSome?_eq {d : Directive} {text : List Char} (h : Names d text) :
    (lines text).findSome? ofLine? = some d.reading := by
  induction h with
  | last hd => rw [findSome?_lines_of_newline_not_mem hd, d.ofLine?_text]
  | first hd e hrest => rw [findSome?_lines_append hd, d.ofLine?_text, Option.some_or]
  | later hl e _ ih => rw [findSome?_lines_append hl.1, ofLine?_eq_none hl.2, ih, Option.none_or]

/-- A project whose path was read with a remark has no imports of its own modules: no import path
holds the blanks in front of the remark. -/
theorem importTarget?_reading_eq_none {d : Directive} (hremark : d.remark ≠ none) {path : String}
    (hpath : ∀ c ∈ path.toList, isBlank c = false) :
    importTarget? path (some d.reading) = none := by
  obtain ⟨b, tail, htail⟩ := List.exists_cons_of_ne_nil (d.tail_ne_nil hremark)
  obtain ⟨r, hr⟩ := Option.ne_none_iff_exists'.mp hremark
  have hmem : b ∈ d.reading.toList := by
    simp [Directive.reading, Directive.excess, hr, htail]
  have hnone : after? d.reading.toList path.toList = none := by
    refine Option.eq_none_iff_forall_ne_some.mpr fun rest hafter => ?_
    have hb := hpath b (by rw [after?_eq_some_iff.mp hafter]; exact List.mem_append_left _ hmem)
    rw [d.tail_blank b (htail ▸ List.mem_cons_self)] at hb
    cases hb
  simp only [importTarget?, hnone]

end ModulePath

open ModulePath Text

/-- The path that the directive of a text names is read as it stands, just when there is no remark
behind it. A remark is read as a part of the path. -/
theorem Surveyor.modulePathAt_eq_path_iff {disk : Disk} {root text : String} {file : StoredFile}
    {d : Directive} (hfile : disk.file? (Disk.join root "go.mod") = some file)
    (htext : file.text? = some text) (hnames : Names d text.toList) :
    Surveyor.modulePathAt disk root = some d.reading ∧
      (Surveyor.modulePathAt disk root = some (String.ofList d.path) ↔ d.remark = none) := by
  have hread : Surveyor.modulePathAt disk root = some d.reading := by
    rw [Surveyor.modulePathAt, hfile, Option.bind_some, htext, Option.bind_some, ofText?,
      hnames.findSome?_eq]
  refine ⟨hread, ?_⟩
  rw [hread, Option.some_inj, d.reading_eq_path_iff]

/-- A remark behind a path between quotes takes the closing quote with it. Above the directive there
are a remark and a blank line, below it a directive with a longer name. -/
theorem Surveyor.modulePathAt_eq_path_iff_remark :
    let text := "// module none\r\n\n  module\t\"acme/shop\" // the shop\r\nmodules x\n"
    let disk : Disk :=
      ⟨.folder [("proj", .folder [("go.mod", .file ⟨text.toUTF8, 0⟩)])], []⟩
    Surveyor.modulePathAt disk "proj" = some "acme/shop\" // the shop" ∧
      Surveyor.modulePathAt disk "proj" ≠ some "acme/shop" := by
  intro text disk
  let d : Directive :=
    { indent := [' ', ' ']
      gap := ['\t']
      path := "acme/shop".toList
      quoted := true
      tail := [' ']
      remark := some " the shop".toList
      indent_blank := by simp [isBlank]
      gap_blank := by simp [isBlank]
      gap_ne_nil := by decide
      path_ne_nil := by decide
      path_plain := by simp [isBlank]
      tail_blank := by simp [isBlank]
      tail_ne_nil := by decide }
  have hfile : disk.file? (Disk.join "proj" "go.mod") = some ⟨text.toUTF8, 0⟩ := by rfl
  have htext : String.fromUTF8? text.toUTF8 = some text := dif_pos text.isValidUTF8
  have hnames : Names d text.toList := by
    have hchars : text.toList = "// module none".toList ++ (LineEnd.returnFeed.chars ++ ([] ++
        (LineEnd.feed.chars ++ (d.text ++ (LineEnd.returnFeed.chars ++
          "modules x\n".toList))))) := by decide +kernel
    have hremark : Idle "// module none".toList :=
      idle_of_remark (l := []) (s := " module none".toList) (by decide +kernel) (by simp)
    have hempty : Idle [] := idle_of_blank (by simp) (by simp)
    have hlonger : Idle "modules x".toList := by decide +kernel
    have hbelow : Silent "modules x\n".toList := .line hlonger .feed (.last hempty)
    have hat : Names d (d.text ++ (LineEnd.returnFeed.chars ++ "modules x\n".toList)) :=
      .first (by decide +kernel) .returnFeed hbelow
    rw [hchars]
    exact .later hremark .returnFeed (.later hempty .feed hat)
  obtain ⟨hread, hpath⟩ := modulePathAt_eq_path_iff hfile htext hnames
  refine ⟨hread, fun hsame => ?_⟩
  have hnone : d.remark = none := hpath.mp hsame
  cases hnone

end TagAtlas

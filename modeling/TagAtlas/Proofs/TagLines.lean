import TagAtlas.Proofs.CommentGroups
import TagAtlas.Proofs.ParsedTrees
import TagAtlas.Proofs.TagGrammar
import TagAtlas.Proofs.TextLines
import TagAtlas.Survey.Source

/-!
# Lines of tags

The line of a tag is the line of the source on which its annotation stands. Delimiters and blanks
are cut off within the lines of a comment, so the lines keep their numbers.
-/

namespace TagAtlas

namespace Tag

variable {t : Tag} {s raw : String} {n : Nat}

/-! ### Tags of one line -/

theorem content_of_ofLine? (h : ofLine? s n = some t) :
    t.content.toList = Text.trim s.toList ∧ t.line = n := by
  obtain ⟨p, -, rfl⟩ := Option.map_eq_some_iff.mp h
  simp

theorem Annotation.WellFormed.newline_not_mem {a : Annotation} (h : a.WellFormed) :
    '\n' ∉ a.text := by
  have hmarker : '\n' ∉ marker.toList := by decide
  have htype : '\n' ∉ a.type := fun hc => absurd (h.isTypePart _ hc) (by decide)
  have hvalue : '\n' ∉ a.valueText := by
    unfold valueText
    cases hv : a.value with
    | none => simp
    | some v =>
      have hchars : '\n' ∉ v := fun hc => absurd (h.value v hv _ hc) (by decide)
      simpa using hchars
  have htail : '\n' ∉ a.tailText := by
    unfold tailText
    cases ht : a.tail with
    | none => simp
    | some tail =>
      obtain ⟨-, hgap, hrest⟩ := h.tail tail ht
      have hgap : '\n' ∉ tail.gap := fun hc => absurd (hgap _ hc) (by decide)
      simp [Tail.text, hgap, hrest]
  simp [text, hmarker, htype, hvalue, htail]

/-- An annotation keeps to its line, and neither begins nor ends with a blank. -/
structure IsContent (x : List Char) : Prop where
  ne_nil : x ≠ []
  newline_not_mem : '\n' ∉ x
  return_not_last : '\r' ∉ x.getLast?

theorem isContent_of_ofLine? (h : ofLine? s n = some t) : IsContent t.content.toList := by
  obtain ⟨a, ha⟩ := Annotation.exists_fills_of_ofLine? h
  rw [(content_of_ofLine? h).1]
  refine ⟨?_, ?_, fun hlast => ?_⟩
  · rw [← ha.text_eq, Annotation.text]
    simp [marker]
  · rw [← ha.text_eq]
    exact ha.wellFormed.newline_not_mem
  · exact absurd ((Text.unblanked_trim _).last _ hlast) (by decide)

/-! ### Tags of several lines -/

theorem mem_ofLines_iff {lines : List String} :
    t ∈ ofLines n lines ↔ ∃ i s, lines[i]? = some s ∧ ofLine? s (n + i) = some t := by
  induction lines generalizing n with
  | nil => simp [ofLines]
  | cons s rest ih =>
    rw [ofLines, List.mem_append, ih, Option.mem_toList]
    constructor
    · rintro (h | ⟨i, s, hs, h⟩)
      · exact ⟨0, s, rfl, h⟩
      · exact ⟨i + 1, s, hs, by rwa [Nat.add_assoc, Nat.add_comm 1 i] at h⟩
    · rintro ⟨i, s', hs, h⟩
      cases i with
      | zero =>
        obtain rfl : s = s' := Option.some.inj hs
        exact .inl h
      | succ i => exact .inr ⟨i, s', hs, by rwa [Nat.add_assoc, Nat.add_comm 1 i]⟩

/-- A line holds one tag at most. -/
theorem ofLines_pairwise (n : Nat) (lines : List String) :
    (ofLines n lines).Pairwise fun t u => t.line < u.line := by
  induction lines generalizing n with
  | nil => simp [ofLines]
  | cons s rest ih =>
    rw [ofLines, List.pairwise_append]
    refine ⟨?_, ih (n + 1), fun t ht u hu => ?_⟩
    · cases ofLine? s n <;> simp
    · obtain ⟨i, s', -, hu⟩ := mem_ofLines_iff.mp hu
      have := (content_of_ofLine? (Option.mem_toList.mp ht)).2
      have := (content_of_ofLine? hu).2
      omega

/-! ### Tags of a comment -/

theorem blockLine_isInfix (s : List Char) : blockLine s <:+: s := by
  unfold blockLine
  split
  next rest hrest =>
    have hsuffix : rest <:+: Text.trim s := hrest ▸ (List.suffix_cons _ _).isInfix
    exact ((Text.trim_isInfix rest).trans hsuffix).trans (Text.trim_isInfix s)
  next => exact Text.trim_isInfix s

theorem commentLines_block {r : List Char} (h : raw.toList = '/' :: '*' :: (r ++ ['*', '/'])) :
    commentLines raw = (Text.splitBy (· = '\n') r).map fun l => String.ofList (blockLine l) := by
  have hbare : Text.Unblanked raw.toList := by
    rw [h]
    refine ⟨by simp; decide, ?_⟩
    rw [← List.cons_append, ← List.cons_append, List.getLast?_append]
    simp; decide
  have hbody : Text.before? ['*', '/'] (r ++ ['*', '/']) = some r :=
    Text.before?_eq_some_iff.mpr rfl
  unfold commentLines
  rw [hbare.trim_eq, h]
  simp [hbody]

theorem commentLines_line {r : List Char} (h : raw.toList = '/' :: '/' :: r) :
    commentLines raw = [String.ofList (Text.trim (Text.trimEnd r))] := by
  have hbare : Text.Unblanked ['/', '/'] := by decide
  have htrim : Text.trim raw.toList = '/' :: '/' :: Text.trimEnd r := by
    rw [h]
    exact hbare.trim_append (List.cons_ne_nil _ _) r
  simp [commentLines, htrim]

/-- A tag stands on a line of a comment, counted from 0. -/
structure StandsOn (t : Tag) (c : Go.Comment) (i : Nat) : Prop where
  content : IsContent t.content.toList
  line_eq : t.line = c.line + i
  within : ∃ a b, c.text.toList = a ++ t.content.toList ++ b ∧ Go.lineFeeds a = i
  onLine : ∃ l, (Text.splitBy (· = '\n') c.text.toList)[i]? = some l ∧ t.content.toList <:+: l

theorem standsOn_of_within {c : Go.Comment} (hcontent : IsContent t.content.toList)
    {a b : List Char} (htext : c.text.toList = a ++ t.content.toList ++ b)
    (hline : t.line = c.line + Go.lineFeeds a) : t.StandsOn c (Go.lineFeeds a) := by
  refine ⟨hcontent, hline, ⟨a, b, htext, rfl⟩, ?_⟩
  have hsep : ∀ d ∈ t.content.toList, decide (d = '\n') = false :=
    fun d hd => decide_eq_false fun heq => hcontent.newline_not_mem (heq ▸ hd)
  obtain ⟨l, r, hpiece⟩ := Text.exists_getElem?_splitBy hsep a b
  exact ⟨l ++ t.content.toList ++ r, htext ▸ hpiece, l, r, rfl⟩

/-- A tag of a comment stands on the line that it says. -/
theorem exists_standsOn {c : Go.Comment} (hc : Go.CommentText c.text.toList)
    (ht : t ∈ ofComment c.text c.line) : ∃ i, t.StandsOn c i := by
  obtain ⟨i, s, hs, hread⟩ := mem_ofLines_iff.mp ht
  have hcontent := isContent_of_ofLine? hread
  obtain ⟨htrim, hline⟩ := content_of_ofLine? hread
  have hpart : t.content.toList <:+: s.toList := htrim ▸ Text.trim_isInfix s.toList
  generalize hraw : c.text.toList = raw at hc
  cases hc with
  | @line r hr =>
    rw [commentLines_line hraw] at hs
    obtain ⟨rfl, rfl⟩ : i = 0 ∧ String.ofList (Text.trim (Text.trimEnd r)) = s := by
      cases i <;> simp_all
    rw [String.toList_ofList] at hpart
    obtain ⟨a, b, hsplit⟩ := (hpart.trans (Text.trim_isInfix _)).trans
      (Text.trimEnd_isPrefix r).isInfix
    have ha : '\n' ∉ a := fun hmem => hr (hsplit ▸ by simp [hmem])
    have hfeeds : Go.lineFeeds ('/' :: '/' :: a) = 0 := List.count_eq_zero.mpr (by simpa using ha)
    exact ⟨_, standsOn_of_within (a := '/' :: '/' :: a) (b := b) hcontent
      (by simp [hraw, ← hsplit]) (by rw [hfeeds, hline])⟩
  | @block r =>
    rw [commentLines_block hraw, List.getElem?_map, Option.map_eq_some_iff] at hs
    obtain ⟨piece, hpiece, rfl⟩ := hs
    obtain ⟨a, b, rfl, hcount, hclean⟩ := Text.exists_of_getElem?_splitBy hpiece
    rw [String.toList_ofList] at hpart
    obtain ⟨l, r, rfl⟩ := hpart.trans (blockLine_isInfix piece)
    have hfeeds : Go.lineFeeds ('/' :: '*' :: (a ++ l)) = i := by
      have hl : l.count '\n' = 0 := List.count_eq_zero.mpr fun hmem => by
        simpa using hclean '\n' (by simp [hmem])
      have ha : a.count '\n' = i := hcount
      simp [Go.lineFeeds, ha, hl]
    exact ⟨_, standsOn_of_within (a := '/' :: '*' :: (a ++ l)) (b := r ++ b ++ ['*', '/']) hcontent
      (by simp [hraw]) (by rw [hfeeds, hline])⟩

/-- The line of a tag counts the line feeds before its annotation in the source. -/
theorem StandsOn.counted {source : List Char} {n : Go.SyntaxNode} {i : Nat}
    (h : t.StandsOn (n.comment source) i) :
    (n.comment source).line ≤ t.line ∧ t.line ≤ (n.comment source).endLine ∧
      ∃ before after, source = before ++ t.content.toList ++ after ∧
        t.line = 1 + Go.lineFeeds before := by
  have hend : (n.comment source).endLine = (n.comment source).line +
      Go.lineFeeds (n.comment source).text.toList := by
    simp only [Go.SyntaxNode.comment, Go.SyntaxNode.text_toList]
    exact n.extent.lastLine_eq source
  have hsplit := n.extent.split_eq source
  rw [← Go.SyntaxNode.text_toList, ← show (n.comment source).text = n.text source from rfl]
    at hsplit
  obtain ⟨a, b, htext, hfeeds⟩ := h.within
  have hline := h.line_eq
  refine ⟨by omega, ?_, source.take n.extent.start ++ a, b ++ source.drop n.extent.stop, ?_, ?_⟩
  · rw [htext] at hend
    simp only [Go.lineFeeds_append] at hend
    omega
  · conv_lhs => rw [hsplit, htext]
    simp
  · have hstart : (n.comment source).line = 1 + Go.lineFeeds (source.take n.extent.start) := rfl
    rw [Go.lineFeeds_append]
    omega

end Tag

/-! ### Tags of a source -/

namespace FileSummary

open Go (SyntaxNode CommentsInPlace lineFeeds)

variable {path source : String} {f : FileSummary} {root : SyntaxNode}

def tagsIn (path : String) (g : Go.CommentGroup) (c : Go.Comment) : List Tag :=
  (Tag.ofComment c.text c.line).map fun t => { t with symbol := g.symbol, file := some path }

theorem exists_of_ofSource [Go.Parser] (h : ofSource path source = .ok f) :
    ∃ root, Go.Parser.parse? source = some root ∧ root.hasFault = false ∧
      f.tags = (root.groups source.toList).flatMap
        (fun g => g.comments.flatMap (tagsIn path g)) ∧
      f.lineCount = (Text.lines source.toList).length := by
  obtain ⟨o, ho, rfl⟩ := Go.exists_of_map_eq_ok h
  obtain ⟨root, hparse, hfault, rfl⟩ := Go.outline_eq_ok_iff.mp ho
  refine ⟨root, hparse, hfault, ?_, rfl⟩
  simp only [tagsOfOutline, SyntaxNode.outline, List.map_flatMap]
  refine List.flatMap_congr fun g _ => ?_
  simp only [Go.CommentGroup.tags, List.map_flatMap, List.map_map]
  rfl

theorem flatMap_comments_groups {source : List Char} (h : CommentsInPlace source root) :
    (root.groups source).flatMap Go.CommentGroup.comments = root.comments source := by
  have hcomments := Go.flatMap_comments_groupComments (root.comments source)
  rw [h.mergeSort_eq] at hcomments
  simpa [SyntaxNode.groups, List.flatMap_map, Go.CommentGroup.attach] using hcomments

theorem exists_standsOn_of_mem_tagsIn {g : Go.CommentGroup} {c : Go.Comment} {t : Tag}
    (hc : Go.CommentText c.text.toList) (ht : t ∈ tagsIn path g c) : ∃ i, t.StandsOn c i := by
  obtain ⟨u, hu, rfl⟩ := List.mem_map.mp ht
  obtain ⟨i, hi⟩ := Tag.exists_standsOn hc hu
  exact ⟨i, hi.content, hi.line_eq, hi.within, hi.onLine⟩

/-- Some tags are those of some comments, each on a line of its own of its comment. -/
def ByComment (comments : List Go.Comment) (tags : List Tag) : Prop :=
  ∃ found : List (Go.Comment × List Tag),
    found.map Prod.fst = comments ∧ found.flatMap Prod.snd = tags ∧
      ∀ e ∈ found, (∀ t ∈ e.2, ∃ i, t.StandsOn e.1 i) ∧ e.2.Pairwise fun t u => t.line < u.line

theorem byComment_flatMap (path : String) {groups : List Go.CommentGroup}
    (h : ∀ c ∈ groups.flatMap Go.CommentGroup.comments, Go.CommentText c.text.toList) :
    ByComment (groups.flatMap Go.CommentGroup.comments)
      (groups.flatMap fun g => g.comments.flatMap (tagsIn path g)) := by
  refine ⟨groups.flatMap fun g => g.comments.map fun c => (c, tagsIn path g c), ?_, ?_, ?_⟩
  · simp [List.map_flatMap, Function.comp_def]
  · simp [List.flatMap_assoc, List.flatMap_map]
  · intro e he
    obtain ⟨g, hg, he⟩ := List.mem_flatMap.mp he
    obtain ⟨c, hc, rfl⟩ := List.mem_map.mp he
    have htext := h c (List.mem_flatMap_of_mem hg hc)
    refine ⟨fun t ht => exists_standsOn_of_mem_tagsIn htext ht, ?_⟩
    exact List.pairwise_map.mpr (Tag.ofLines_pairwise _ _)

/-- A tag of the comments of a tree stands in the source where its line says. -/
theorem ByComment.counted {source : List Char} {tags : List Tag}
    (h : ByComment (root.comments source) tags) {t : Tag} (ht : t ∈ tags) :
    Tag.IsContent t.content.toList ∧ ∃ before after,
      source = before ++ t.content.toList ++ after ∧ t.line = 1 + lineFeeds before := by
  obtain ⟨found, hfst, rfl, hstands⟩ := h
  obtain ⟨e, he, ht⟩ := List.mem_flatMap.mp ht
  obtain ⟨i, hi⟩ := (hstands e he).1 t ht
  obtain ⟨n, -, hn⟩ := SyntaxNode.mem_comments_iff.mp (hfst ▸ List.mem_map_of_mem he)
  rw [← hn] at hi
  exact ⟨hi.content, hi.counted.2.2⟩

/-- The tags of comments that follow one another come in the order of their lines. -/
theorem ByComment.pairwise {source : List Char} {tags : List Tag}
    (h : ByComment (root.comments source) tags) (hplace : CommentsInPlace source root) :
    tags.Pairwise fun t u => t.line ≤ u.line := by
  obtain ⟨found, hfst, rfl, hstands⟩ := h
  have hfound : found.Pairwise fun e e' => e.1.endLine ≤ e'.1.line :=
    List.pairwise_map.mp (hfst ▸ hplace.pairwise)
  have hwithin : ∀ e ∈ found, ∀ t ∈ e.2, e.1.line ≤ t.line ∧ t.line ≤ e.1.endLine := by
    intro e he t ht
    obtain ⟨i, hi⟩ := (hstands e he).1 t ht
    obtain ⟨n, -, hn⟩ := SyntaxNode.mem_comments_iff.mp (hfst ▸ List.mem_map_of_mem he)
    rw [← hn] at hi ⊢
    exact ⟨hi.counted.1, hi.counted.2.1⟩
  refine List.pairwise_flatMap.mpr ⟨fun e he => (hstands e he).2.imp Nat.le_of_lt, ?_⟩
  refine hfound.imp_of_mem fun {e e'} he he' hle t ht u hu => ?_
  have hbefore := (hwithin e he t ht).2
  have hafter := (hwithin e' he' u hu).1
  omega

/-- The tags of a file say on which lines of the source they stand. -/
structure LinesUp (source : List Char) (root : SyntaxNode) (f : FileSummary) : Prop where
  ordered : f.tags.Pairwise fun t u => t.line ≤ u.line
  inFile : ∀ t ∈ f.tags, 1 ≤ t.line ∧ t.line ≤ f.lineCount
  counted : ∀ t ∈ f.tags, ∃ before after,
    source = before ++ t.content.toList ++ after ∧ t.line = 1 + lineFeeds before
  onLine : ∀ t ∈ f.tags, ∃ line,
    (Text.lines source)[t.line - 1]? = some line ∧ t.content.toList <:+: line
  byComment : ByComment (root.comments source) f.tags

theorem linesUp_of_ofSource [Go.Parser] (h : ofSource path source = .ok f)
    (hparse : Go.Parser.parse? source = some root) (hplace : CommentsInPlace source.toList root) :
    LinesUp source.toList root f := by
  obtain ⟨tree, htree, -, htags, hcount⟩ := exists_of_ofSource h
  obtain rfl : root = tree := Option.some.inj (hparse.symm.trans htree)
  have hby : ByComment (root.comments source.toList) f.tags := by
    have hcomments := flatMap_comments_groups hplace
    rw [htags, ← hcomments]
    exact byComment_flatMap path fun c hc => hplace.commentText (hcomments ▸ hc)
  have honLine : ∀ t ∈ f.tags, ∃ line,
      (Text.lines source.toList)[t.line - 1]? = some line ∧ t.content.toList <:+: line := by
    intro t ht
    obtain ⟨hcontent, before, after, hsplit, hline⟩ := hby.counted ht
    rw [hsplit, show t.line - 1 = before.count '\n' by rw [hline]; simp [lineFeeds]]
    exact Text.exists_getElem?_lines hcontent.ne_nil hcontent.return_not_last
      hcontent.newline_not_mem before after
  refine ⟨hby.pairwise hplace, fun t ht => ?_, fun t ht => (hby.counted ht).2, honLine, hby⟩
  obtain ⟨-, before, -, -, hline⟩ := hby.counted ht
  obtain ⟨line, hget, -⟩ := honLine t ht
  have hlt := (List.getElem?_eq_some_iff.mp hget).1
  omega

/-- A decorated block with carriage returns, and a comment behind it on its last line. -/
theorem linesUp_of_ofSource_block :
    let source := "/*\r\n *@kthulu:module:a\r\n */ // @kthulu:b x\r\n"
    let root := Go.parse source
    let first : Tag := ⟨.module, some "a", .empty, 2, "@kthulu:module:a", none, some "a.go"⟩
    let second : Tag :=
      ⟨⟨"b"⟩, none, .ofList [("x", "true")], 3, "@kthulu:b x", none, some "a.go"⟩
    let f : FileSummary := ⟨"a.go", "", some "a", [], [first, second], [], 3, 44⟩
    ofSource "a.go" source = .ok f ∧ Go.Parser.parse? source = some root ∧
      CommentsInPlace source.toList root ∧ LinesUp source.toList root f := by
  intro source root first second f
  have hplace := Go.commentsInPlace_parse source
  have hfault : root.hasFault = false := by decide +kernel
  have hgroups : root.groups source.toList = [⟨1, 3,
      [⟨1, 3, "/*\r\n *@kthulu:module:a\r\n */"⟩, ⟨3, 3, "// @kthulu:b x\r"⟩], none⟩] := by
    rw [SyntaxNode.groups, Go.groupComments, hplace.mergeSort_eq]
    decide +kernel
  have h : ofSource "a.go" source = .ok f := by
    rw [ofSource, Go.outline_eq_ok_iff.mpr ⟨root, rfl, hfault, rfl⟩, SyntaxNode.outline, hgroups]
    refine congrArg Except.ok ?_
    decide +kernel
  exact ⟨h, rfl, hplace, linesUp_of_ofSource h rfl hplace⟩

end FileSummary

end TagAtlas

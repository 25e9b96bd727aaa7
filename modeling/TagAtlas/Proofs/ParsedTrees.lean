import Mathlib.Data.List.TakeWhile
import TagAtlas.Proofs.AcceptedSources
import TagAtlas.Proofs.SourceComments

/-!
# Trees of sources

The tree of a source keeps all comments of the source, in their order, whatever declarations it
shows; and it has a fault only where the source is wrong.
-/

namespace TagAtlas.Go

/-! ### Lexemes in place -/

/-- Some lexemes are what stands in the source where they say, one after the other from a position
on. -/
structure LexemesInPlace (source : List Char) (position : Nat) (lexemes : List Lexeme) : Prop where
  starts : ∀ l ∈ lexemes, position ≤ l.extent.start
  ordered : lexemes.Pairwise fun a b => a.extent.stop ≤ b.extent.start
  comments : ∀ l ∈ lexemes, l.kind = .comment → CommentText (l.extent.chars source)

theorem exists_of_blockExtent {s : List Char} {n : Nat} (h : blockExtent s = some n) :
    ∃ r, s.take n = r ++ ['*', '/'] := by
  fun_induction blockExtent s generalizing n with
  | case1 => cases h
  | case2 s =>
    obtain rfl : 2 = n := Option.some.inj h
    exact ⟨[], rfl⟩
  | case3 c s _ ih =>
    obtain ⟨m, hm, rfl⟩ := Option.map_eq_some_iff.mp h
    obtain ⟨r, hr⟩ := ih hm
    exact ⟨c :: r, by simp [hr]⟩

theorem commentText_of_lexemeAt? {c : Char} {s : List Char} {n : Nat}
    (h : lexemeAt? c s = some (.comment, n)) : CommentText (c :: s.take n) := by
  unfold lexemeAt? at h
  split at h
  next hline =>
    simp only [Bool.and_eq_true, decide_eq_true_eq] at hline
    obtain ⟨rfl, hhead⟩ := hline
    obtain ⟨rest, rfl⟩ := List.head?_eq_some_iff.mp hhead
    obtain rfl : _ = n := congrArg Prod.snd (Option.some.inj h)
    rw [← List.prefix_iff_eq_take.mp (List.takeWhile_prefix _),
      List.takeWhile_cons_of_pos (by decide)]
    exact .line fun hmem => by simpa using List.mem_takeWhile_imp hmem
  next =>
    split at h
    next hblock =>
      simp only [Bool.and_eq_true, decide_eq_true_eq] at hblock
      obtain ⟨rfl, hhead⟩ := hblock
      obtain ⟨rest, rfl⟩ := List.head?_eq_some_iff.mp hhead
      obtain ⟨m, hm, hn⟩ := Option.map_eq_some_iff.mp h
      obtain rfl : 1 + m = n := congrArg Prod.snd hn
      obtain ⟨r, hr⟩ := exists_of_blockExtent hm
      rw [Nat.add_comm, List.take_succ_cons, show rest.take m = _ from hr]
      exact .block
    -- No other lexeme is a comment.
    next =>
      exfalso
      revert h
      repeat' split
      all_goals simp
      split <;> simp

namespace LexemesInPlace

variable {source : List Char} {position : Nat} {lexemes : List Lexeme}

theorem mono (h : LexemesInPlace source position lexemes) {lower : Nat} (hle : lower ≤ position) :
    LexemesInPlace source lower lexemes :=
  ⟨fun l hl => hle.trans (h.starts l hl), h.ordered, h.comments⟩

theorem sublist (h : LexemesInPlace source position lexemes) {left : List Lexeme}
    (hsub : left.Sublist lexemes) : LexemesInPlace source position left :=
  ⟨fun l hl => h.starts l (hsub.subset hl), h.ordered.sublist hsub,
    fun l hl => h.comments l (hsub.subset hl)⟩

theorem cons (l : Lexeme) (h : LexemesInPlace source l.extent.stop lexemes)
    (hcomment : l.kind = .comment → CommentText (l.extent.chars source)) :
    LexemesInPlace source l.extent.start (l :: lexemes) where
  starts := List.forall_mem_cons.mpr
    ⟨le_rfl, fun k hk => l.extent.start_le_stop.trans (h.starts k hk)⟩
  ordered := List.pairwise_cons.mpr ⟨h.starts, h.ordered⟩
  comments := List.forall_mem_cons.mpr ⟨hcomment, h.comments⟩

end LexemesInPlace

theorem lexemesInPlace_lexFrom {position : Nat} {s : List Char} {lexemes : List Lexeme}
    (h : lexFrom position s = .ok lexemes) {source : List Char} (hs : source.drop position = s) :
    LexemesInPlace source position lexemes := by
  fun_induction lexFrom position s generalizing lexemes with
  | case1 position =>
    cases h
    let l : Lexeme := ⟨.lineEnd, "", { start := position, stop := position }⟩
    exact .cons l ⟨by simp, .nil, by simp⟩ (by simp [l])
  | case2 position s ih =>
    obtain ⟨rest, hrest, rfl⟩ := exists_of_map_eq_ok h
    have hdrop : source.drop (position + 1) = s := by rw [← List.drop_drop, hs]; rfl
    let l : Lexeme := ⟨.lineEnd, "\n", { start := position, stop := position + 1 }⟩
    exact .cons l (ih hrest hdrop) (by simp [l])
  | case3 position c s hfeed hgap ih =>
    have hdrop : source.drop (position + 1) = s := by rw [← List.drop_drop, hs]; rfl
    exact (ih h hdrop).mono (Nat.le_succ position)
  | case4 => cases h
  | case5 position c s hfeed hgap kind n hlexeme text extent =>
    rename_i ih
    obtain ⟨rest, hrest, rfl⟩ := exists_of_map_eq_ok h
    have htext : (source.drop position).take text.length = text := by
      simp [hs, text]
    have hdrop : source.drop extent.stop = s.drop n := by
      rw [show extent.stop = position + text.length from rfl, ← List.drop_drop, hs]
      simp [text]
    have hchars : extent.chars source = text := by
      rw [Extent.chars, List.drop_take]
      simpa [extent] using htext
    refine .cons ⟨kind, String.ofList text, extent⟩ (ih hrest hdrop) fun hkind => ?_
    obtain rfl : kind = .comment := hkind
    rw [hchars]
    exact commentText_of_lexemeAt? hlexeme

theorem lexemesInPlace_lex {source : List Char} {lexemes : List Lexeme}
    (h : lex source = .ok lexemes) : LexemesInPlace source 0 lexemes := by
  unfold lex at h
  split at h
  next s => exact (lexemesInPlace_lexFrom h (by simp)).mono (Nat.zero_le 1)
  next => exact lexemesInPlace_lexFrom h (by simp)

/-! ### What nodes hold -/

namespace SyntaxNode

variable {kinds : List String} {a b : List SyntaxNode}

@[simp] theorem descendantsAmong_append :
    descendantsAmong kinds (a ++ b) = descendantsAmong kinds a ++ descendantsAmong kinds b := by
  induction a with
  | nil => simp [descendantsAmong]
  | cons n rest ih => simp [descendantsAmong, ih]

@[simp] theorem hasFaultAmong_append :
    hasFaultAmong (a ++ b) = (hasFaultAmong a || hasFaultAmong b) := by
  induction a with
  | nil => simp [hasFaultAmong]
  | cons n rest ih => simp [hasFaultAmong, ih, Bool.or_assoc]

end SyntaxNode

open SyntaxNode (descendantsAmong hasFaultAmong errorKind)

def commentsAmong (lexemes : List Lexeme) : List Lexeme := lexemes.filter (·.kind = .comment)

theorem commentsAmong_append (a b : List Lexeme) :
    commentsAmong (a ++ b) = commentsAmong a ++ commentsAmong b := List.filter_append ..

theorem commentsAmong_cons (l : Lexeme) (rest : List Lexeme) :
    commentsAmong (l :: rest) = commentsAmong [l] ++ commentsAmong rest :=
  commentsAmong_append [l] rest

/-- Some nodes hold the comments among some lexemes, in their order, and have no fault. -/
structure Holds (nodes : List SyntaxNode) (lexemes : List Lexeme) : Prop where
  comments : descendantsAmong ["comment"] nodes = (commentsAmong lexemes).map Lexeme.leaf
  faultless : hasFaultAmong nodes = false

def IsPlain (kind : String) : Prop := kind ≠ "comment" ∧ kind ≠ errorKind

instance (kind : String) : Decidable (IsPlain kind) := inferInstanceAs (Decidable (_ ∧ _))

namespace Holds

variable {nodes more : List SyntaxNode} {lexemes others : List Lexeme} {kind : String}

theorem nil : Holds [] [] := ⟨rfl, rfl⟩

theorem append (h : Holds nodes lexemes) (h' : Holds more others) :
    Holds (nodes ++ more) (lexemes ++ others) :=
  ⟨by simp [h.comments, h'.comments, commentsAmong], by simp [h.faultless, h'.faultless]⟩

theorem congr (h : Holds nodes lexemes) (heq : commentsAmong lexemes = commentsAmong others) :
    Holds nodes others := ⟨heq ▸ h.comments, h.faultless⟩

theorem flatMap {ι : Type} {f : ι → List SyntaxNode} {g : ι → List Lexeme} {l : List ι}
    (h : ∀ i ∈ l, Holds (f i) (g i)) : Holds (l.flatMap f) (l.flatMap g) := by
  induction l with
  | nil => exact nil
  | cons i l ih =>
    obtain ⟨hi, hl⟩ := List.forall_mem_cons.mp h
    exact hi.append (ih hl)

theorem above {extent : Extent} (hkind : IsPlain kind) (h : Holds nodes lexemes) :
    Holds [.node { kind := kind, extent := extent } nodes] lexemes := by
  obtain ⟨hcomment, herror⟩ := hkind
  constructor
  · simpa [descendantsAmong, SyntaxNode.descendants, SyntaxNode.kind, SyntaxNode.label, hcomment]
      using h.comments
  · simpa [hasFaultAmong, SyntaxNode.hasFault, SyntaxNode.isFault, SyntaxNode.kind,
      SyntaxNode.label, herror] using h.faultless

theorem leafAs {role : Role} (hrole : IsPlain role.kind) {l : Lexeme} (hl : l.kind ≠ .comment) :
    Holds [l.leafAs role] [l] := by
  obtain ⟨hcomment, herror⟩ := hrole
  constructor
  · simp [descendantsAmong, SyntaxNode.descendants, SyntaxNode.kind, SyntaxNode.label,
      Lexeme.leafAs, commentsAmong, hl, hcomment]
  · simp [hasFaultAmong, SyntaxNode.hasFault, SyntaxNode.isFault, SyntaxNode.kind,
      SyntaxNode.label, Lexeme.leafAs, herror]

theorem leaf (l : Lexeme) : Holds [l.leaf] [l] := by
  by_cases hl : l.kind = .comment
  · have hkind : l.leaf.kind = "comment" := by
      rw [Lexeme.leaf, hl]
      rfl
    constructor
    · simp [descendantsAmong, hkind, commentsAmong, hl]
    · simp [hasFaultAmong, Lexeme.leaf, Lexeme.leafAs, SyntaxNode.hasFault, SyntaxNode.isFault,
        SyntaxNode.kind, SyntaxNode.label, hl, LexemeKind.nodeKind, errorKind]
  · refine leafAs ?_ hl
    revert hl
    cases l.kind <;> decide

theorem leaves (lexemes : List Lexeme) : Holds (lexemes.map Lexeme.leaf) lexemes := by
  simpa [List.flatMap_singleton', ← List.map_eq_flatMap] using
    flatMap (l := lexemes) fun l _ => leaf l

theorem leavesWith {role : Role} (hrole : IsPlain role.kind) {chosen : List Lexeme}
    (hchosen : ∀ l ∈ chosen, l.kind ≠ .comment) (lexemes : List Lexeme) :
    Holds (leavesWith role chosen lexemes) lexemes := by
  induction lexemes with
  | nil => exact nil
  | cons l rest ih =>
    have hfirst : Holds [if chosen.contains l then l.leafAs role else l.leaf] [l] := by
      split
      next h => exact leafAs hrole (hchosen l (by simpa using h))
      next => exact leaf l
    exact hfirst.append ih

end Holds

/-! ### What pieces hold -/

variable {lexemes code : List Lexeme}

theorem kind_ne_comment_of_mem_codeOf {l : Lexeme} (h : l ∈ codeOf lexemes) :
    l.kind ≠ .comment := by
  simpa using List.of_mem_filter h

theorem kind_ne_comment_of_isTerminator {l : Lexeme} (h : l.isTerminator = true) :
    l.kind ≠ .comment := by
  intro hl
  simp [Lexeme.isTerminator, Lexeme.isMark, hl] at h

theorem commentsAmong_splitEntries (depth : Nat) (lexemes : List Lexeme) :
    commentsAmong (splitEntries depth lexemes).flatten = commentsAmong lexemes := by
  fun_induction splitEntries depth lexemes with
  | case1 => rfl
  | case2 depth l rest h ih =>
    simp only [Bool.and_eq_true] at h
    have hl := kind_ne_comment_of_isTerminator h.2
    simpa [commentsAmong, hl] using ih
  | case3 depth l rest _ hnil ih =>
    rw [hnil] at ih
    rw [commentsAmong_cons l rest, ← ih]
    simp [commentsAmong]
  | case4 depth l rest _ piece more hpieces ih =>
    rw [hpieces] at ih
    rw [commentsAmong_cons l rest, ← ih, List.flatten_cons, List.cons_append, commentsAmong_cons,
      List.flatten_cons]

theorem splitBrackets_append (depth : Nat) (lexemes : List Lexeme) :
    (splitBrackets depth lexemes).1 ++ (splitBrackets depth lexemes).2 = lexemes := by
  fun_induction splitBrackets depth lexemes with
  | case1 => rfl
  | case2 => rfl
  | case3 depth l rest _ inside after hsplit ih => simpa [hsplit] using ih

theorem holds_splitEntries {build : List Lexeme → List SyntaxNode}
    (h : ∀ piece, Holds (build piece) piece) (lexemes : List Lexeme) :
    Holds ((splitEntries 0 lexemes).flatMap build) lexemes := by
  have hpieces := Holds.flatMap (l := splitEntries 0 lexemes) (g := id) fun piece _ => h piece
  refine hpieces.congr ?_
  rw [List.flatMap_id]
  exact commentsAmong_splitEntries 0 lexemes

theorem holds_behindComments {build : Lexeme → List Lexeme → SyntaxNode}
    (h : ∀ first rest, Holds [build first rest] (first :: rest)) (piece : List Lexeme) :
    Holds (behindComments build piece) piece := by
  have hall : Holds (behindComments build piece) (piece.takeWhile (·.kind = .comment) ++
      piece.dropWhile (·.kind = .comment)) := by
    refine (Holds.leaves _).append ?_
    split
    next hnil => exact hnil ▸ .nil
    next first rest hcons => exact hcons ▸ h first rest
  rwa [List.takeWhile_append_dropWhile] at hall

theorem holds_nodeOver {kind : String} (hkind : IsPlain kind) {first : Lexeme}
    {rest : List Lexeme} {children : List SyntaxNode} (h : Holds children (first :: rest)) :
    Holds [nodeOver kind first rest children] (first :: rest) := .above hkind h

/-! ### What declarations hold -/

theorem mem_of_mem_leadingNames : ∀ l ∈ leadingNames code, l ∈ code := by
  fun_induction leadingNames code with
  | case2 l _ comma more _ ih =>
    exact List.forall_mem_cons.mpr ⟨by simp, fun k hk => by simp [ih k hk]⟩
  | _ => simp

theorem mem_of_methodName? {name : Lexeme} (h : methodName? code = some name) : name ∈ code := by
  unfold methodName? at h
  split at h
  next bracket n paren more hsplit =>
    split at h
    next =>
      obtain rfl := Option.some.inj h
      rw [← splitBrackets_append 0 code, hsplit]
      simp
    next => cases h
  next => cases h

/-- The forms of specifications choose lexemes of the code, for plain nodes. -/
structure SpecForm.IsSound (form : SpecForm) : Prop where
  declKind : IsPlain form.declKind
  specKind : IsPlain form.specKind
  role : IsPlain form.role.kind
  mem_of_mem_chosen : ∀ code, ∀ l ∈ form.chosen code, l ∈ code

theorem isSound_of_mem_specForms : ∀ form ∈ specForms, form.IsSound := by
  simp only [specForms, List.forall_mem_cons]
  refine ⟨⟨by decide, by decide, by decide, fun _ _ => List.mem_of_mem_filter⟩,
    ⟨by decide, by decide, by decide, fun _ l hl => ?_⟩,
    ⟨by decide, by decide, by decide, fun _ => mem_of_mem_leadingNames⟩,
    ⟨by decide, by decide, by decide, fun _ => mem_of_mem_leadingNames⟩, by simp⟩
  exact List.mem_of_mem_take (mem_of_mem_leadingNames l hl)

namespace SpecForm.IsSound

variable {form : SpecForm}

theorem holds_specNode (h : form.IsSound) (first : Lexeme) (rest : List Lexeme) :
    Holds [form.specNode first rest] (first :: rest) :=
  holds_nodeOver h.specKind (.leavesWith h.role
    (fun _ hl => kind_ne_comment_of_mem_codeOf (h.mem_of_mem_chosen _ _ hl)) _)

theorem holds_specNodes (h : form.IsSound) (lexemes : List Lexeme) :
    Holds (form.specNodes lexemes) lexemes := by
  have hsplit := List.takeWhile_append_dropWhile (p := (·.kind = .comment)) (l := lexemes)
  unfold SpecForm.specNodes
  simp only
  split
  next hnil =>
    rw [hnil, List.append_nil] at hsplit
    rw [hsplit]
    exact .leaves lexemes
  next first rest hcons =>
    rw [hcons] at hsplit
    have hcomments := Holds.leaves (lexemes.takeWhile (·.kind = .comment))
    split
    next =>
      have hinside := holds_splitEntries (holds_behindComments h.holds_specNode)
        (splitBrackets 1 rest).1
      have hbrackets := hinside.append (.leaves (splitBrackets 1 rest).2)
      rw [splitBrackets_append] at hbrackets
      have hall := hcomments.append ((Holds.leaf first).append hbrackets)
      rw [show [first] ++ rest = first :: rest from rfl, hsplit] at hall
      simpa using hall
    next =>
      have hall := hcomments.append (h.holds_specNode first rest)
      rwa [hsplit] at hall

end SpecForm.IsSound

theorem holds_functionForm (code : List Lexeme) :
    IsPlain (functionForm code).1 ∧ IsPlain (functionForm code).2.1.kind ∧
      ∀ l ∈ (functionForm code).2.2, l ∈ code := by
  unfold functionForm
  split
  next name _ hname =>
    have hmem := List.mem_of_head? (Option.eq_some_of_filter_eq_some hname)
    have hplain : IsPlain "function_declaration" ∧ IsPlain "identifier" := by decide
    exact ⟨hplain.1, hplain.2, by simpa using hmem⟩
  next name _ hname =>
    have hplain : IsPlain "method_declaration" ∧ IsPlain "field_identifier" := by decide
    exact ⟨hplain.1, hplain.2, by simpa using mem_of_methodName? hname⟩
  next => exact ⟨by decide, by decide, by simp⟩

theorem holds_entryNode (first : Lexeme) (rest : List Lexeme) :
    Holds [entryNode first rest] (first :: rest) := by
  have hfirst := Holds.leaf first
  unfold entryNode
  split
  next =>
    refine holds_nodeOver (by decide) (hfirst.append (.leavesWith (by decide) ?_ rest))
    exact fun l hl => kind_ne_comment_of_mem_codeOf (List.mem_of_mem_take hl)
  next =>
    split
    next =>
      obtain ⟨hkind, hrole, hname⟩ := holds_functionForm (codeOf rest)
      refine holds_nodeOver hkind (hfirst.append (.leavesWith hrole ?_ rest))
      exact fun l hl => kind_ne_comment_of_mem_codeOf (hname l hl)
    next =>
      split
      next form hform =>
        have hsound := isSound_of_mem_specForms form (List.mem_of_find?_eq_some hform)
        exact holds_nodeOver hsound.declKind (hfirst.append (hsound.holds_specNodes rest))
      next => exact holds_nodeOver (by decide) (.leaves (first :: rest))

/-! ### What trees hold -/

theorem holds_treeOf (length : Nat) (lexemes : List Lexeme) :
    Holds [treeOf length lexemes] lexemes :=
  .above (by decide) (holds_splitEntries (holds_behindComments holds_entryNode) lexemes)

theorem commentNodes_treeOf (length : Nat) (lexemes : List Lexeme) :
    (treeOf length lexemes).commentNodes = (commentsAmong lexemes).map Lexeme.leaf := by
  rw [← (holds_treeOf length lexemes).comments]
  simp [treeOf, rootOver, SyntaxNode.commentNodes, descendantsAmong, SyntaxNode.kind,
    SyntaxNode.label]

theorem hasFault_treeOf (length : Nat) (lexemes : List Lexeme) :
    (treeOf length lexemes).hasFault = false := by
  simpa [hasFaultAmong] using (holds_treeOf length lexemes).faultless

theorem hasFault_brokenTree (length position : Nat) :
    (brokenTree length position).hasFault = true := by
  simp [brokenTree, rootOver, SyntaxNode.hasFault, hasFaultAmong, SyntaxNode.isFault,
    SyntaxNode.kind, SyntaxNode.label]

/-- A tree without faults is made of what is left of the lexemes of its source. -/
theorem hasFault_parse_eq_false_iff {source : String} :
    (parse source).hasFault = false ↔ ∃ lexemes left, lex source.toList = .ok lexemes ∧
      settle lexemes = .ok left ∧ parse source = treeOf source.toList.length left := by
  unfold parse
  cases hlex : lex source.toList with
  | error position => simp [hlex, hasFault_brokenTree]
  | ok lexemes =>
    cases hsettle : settle lexemes with
    | error culprit => simp [hlex, hsettle, hasFault_brokenTree]
    | ok left => simp [hlex, hsettle, hasFault_treeOf]

theorem commentsInPlace_treeOf {source : List Char} {position : Nat} (length : Nat)
    (h : LexemesInPlace source position lexemes) :
    CommentsInPlace source (treeOf length lexemes) := by
  constructor
  · rw [commentNodes_treeOf]
    intro n hn
    obtain ⟨l, hl, rfl⟩ := List.mem_map.mp hn
    obtain ⟨hl, hkind⟩ := List.mem_filter.mp hl
    exact h.comments l hl (by simpa using hkind)
  · rw [commentNodes_treeOf, List.pairwise_map]
    exact h.ordered.sublist List.filter_sublist

/-- The comments of a tree are in place. -/
theorem commentsInPlace_parse (source : String) : CommentsInPlace source.toList (parse source) := by
  have hbroken : ∀ length position, CommentsInPlace source.toList (brokenTree length position) := by
    intro length position
    have hnone : (brokenTree length position).commentNodes = [] := by
      simp [brokenTree, rootOver, SyntaxNode.commentNodes, SyntaxNode.descendants, descendantsAmong,
        SyntaxNode.kind, SyntaxNode.label, errorKind]
    exact ⟨by simp [hnone], by simp [hnone]⟩
  unfold parse
  cases hlex : lex source.toList with
  | error position => simpa [hlex] using hbroken _ _
  | ok lexemes =>
    cases hsettle : settle lexemes with
    | error culprit => simpa [hlex, hsettle] using hbroken _ _
    | ok left =>
      have hleft := (lexemesInPlace_lex hlex).sublist (sublist_of_settle hsettle)
      simpa [hlex, hsettle] using commentsInPlace_treeOf _ hleft

theorem parse_empty : parse "" = treeOf 0 [] := by
  have hlex : lex "".toList = .ok [⟨.lineEnd, "", { start := 0, stop := 0 }⟩] := by decide +kernel
  have hsettle : settle [⟨.lineEnd, "", { start := 0, stop := 0 }⟩] = .ok [] := if_neg (by decide)
  simp only [parse, hlex, hsettle]
  rfl

end TagAtlas.Go

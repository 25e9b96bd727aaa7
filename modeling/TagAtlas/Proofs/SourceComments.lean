import Mathlib.Data.List.Pairwise
import TagAtlas.Go.Source

/-!
# Comments of a source

The lines of a node count the line feeds before it. What the parser must keep to is that comments
are what the language calls so, and stand in the source one after the other.
-/

namespace TagAtlas.Go

/-- A comment runs up to the end of its line, or up to the closing mark. -/
inductive CommentText : List Char → Prop
  | line {s : List Char} : '\n' ∉ s → CommentText ('/' :: '/' :: s)
  | block {s : List Char} : CommentText ('/' :: '*' :: (s ++ ['*', '/']))

/-- The comments of a tree are comments of the source, one after the other. -/
structure CommentsInPlace (source : List Char) (root : SyntaxNode) : Prop where
  texts : ∀ n ∈ root.commentNodes, CommentText (n.extent.chars source)
  ordered : root.commentNodes.Pairwise fun a b => a.extent.stop ≤ b.extent.start

variable {source : List Char}

/-! ### Lines of positions -/

@[simp] theorem lineFeeds_append (s t : List Char) :
    lineFeeds (s ++ t) = lineFeeds s + lineFeeds t := List.count_append

theorem lineAt_mono {a b : Nat} (h : a ≤ b) : lineAt source a ≤ lineAt source b := by
  obtain ⟨rest, hrest⟩ : source.take a <+: source.take b := List.take_prefix_take_left h
  rw [lineAt, lineAt, ← hrest, lineFeeds_append]
  omega

namespace Extent

theorem take_stop_eq (e : Extent) (source : List Char) :
    source.take e.stop = source.take e.start ++ e.chars source := by
  have hsplit := List.take_append_drop e.start (source.take e.stop)
  rw [List.take_take, Nat.min_eq_left e.start_le_stop] at hsplit
  exact hsplit.symm

theorem split_eq (e : Extent) (source : List Char) :
    source = source.take e.start ++ e.chars source ++ source.drop e.stop := by
  rw [← take_stop_eq, List.take_append_drop]

theorem lastLine_eq (e : Extent) (source : List Char) :
    e.lastLine source = e.firstLine source + lineFeeds (e.chars source) := by
  rw [lastLine, lineAt, take_stop_eq, lineFeeds_append, firstLine, lineAt, Nat.add_assoc]

end Extent

/-! ### Comments of a tree -/

namespace SyntaxNode

variable {root n : SyntaxNode} {c : Comment}

@[simp] theorem text_toList (source : List Char) (n : SyntaxNode) :
    (n.text source).toList = n.extent.chars source := String.toList_ofList

theorem mem_comments_iff :
    c ∈ root.comments source ↔ ∃ n ∈ root.commentNodes, n.comment source = c := List.mem_map

theorem line_le_endLine_of_mem_comments (hc : c ∈ root.comments source) : c.line ≤ c.endLine := by
  obtain ⟨n, -, rfl⟩ := mem_comments_iff.mp hc
  exact lineAt_mono n.extent.start_le_stop

end SyntaxNode

namespace CommentsInPlace

variable {root : SyntaxNode} {c : Comment}

theorem commentText (h : CommentsInPlace source root) (hc : c ∈ root.comments source) :
    CommentText c.text.toList := by
  obtain ⟨n, hn, rfl⟩ := SyntaxNode.mem_comments_iff.mp hc
  simpa [SyntaxNode.comment] using h.texts n hn

/-- A comment begins on or after the line on which the comment before it ends. -/
theorem pairwise (h : CommentsInPlace source root) :
    (root.comments source).Pairwise fun a b => a.endLine ≤ b.line :=
  List.pairwise_map.mpr (h.ordered.imp lineAt_mono)

/-- The comments of a source come in the order of their lines. -/
theorem mergeSort_eq (h : CommentsInPlace source root) :
    ((root.comments source).mergeSort fun a b => a.line ≤ b.line) = root.comments source := by
  refine List.mergeSort_of_pairwise (h.pairwise.imp_of_mem fun {a b} ha _ hab => ?_)
  have := SyntaxNode.line_le_endLine_of_mem_comments ha
  simp only [decide_eq_true_eq]
  omega

end CommentsInPlace

/-! ### Outlines -/

theorem exists_of_map_eq_ok {ε α β : Type} {x : Except ε α} {f : α → β} {b : β}
    (h : x.map f = .ok b) : ∃ a, x = .ok a ∧ f a = b := by
  cases x with
  | error e => cases h
  | ok a => exact ⟨a, rfl, Except.ok.inj h⟩

/-- Sources of which the tree has no fault have an outline, and no others. -/
theorem outline_eq_ok_iff [Parser] {path source : String} {o : Outline} :
    outline path source = .ok o ↔ ∃ root, Parser.parse? source = some root ∧
      root.hasFault = false ∧ o = root.outline source.toList := by
  unfold outline
  cases Parser.parse? source with
  | none => simp
  | some root =>
    cases hfault : root.hasFault with
    | true => simp [hfault]
    | false => simp [hfault, eq_comm (a := o)]

end TagAtlas.Go

import TagAtlas.Go.ChartParser
import TagAtlas.Proofs.ChartRecognition

/-!
# Sources that the grammar derives

What is left of the lexemes of a source is derived by the grammar when there is code among it. A
line end that is not left is one with which no source goes on.
-/

namespace TagAtlas.Go

open Grammar (Derives Settles)

theorem Phrase.spells_layout : Phrase.layout.Spells Phrase.grammar :=
  Grammar.spells_layout fun _ hr => List.mem_eraseDups.mpr (List.mem_map_of_mem hr)

theorem Phrase.body_ne_nil : ∀ r ∈ Phrase.grammar, r.body ≠ [] := by
  decide +kernel

def IsSource (lexemes : List Lexeme) : Prop :=
  Derives Phrase.grammar [.nonterminal .source] (lexemes.filterMap Lexeme.terminal?)

/-- What is left of some lexemes without the line ends that are no terminators. -/
def LineEndsSettle (lexemes left : List Lexeme) : Prop :=
  Settles Phrase.grammar .source Lexeme.terminal? (· = .lineEnd) [] lexemes left

theorem lineEndsSettle_of_settle {lexemes left : List Lexeme}
    (hcode : lexemes.any Lexeme.isCode = true) (h : settle lexemes = .ok left) :
    LineEndsSettle lexemes left ∧ IsSource left := by
  rw [settle, if_pos hcode] at h
  exact Grammar.settles_of_read Phrase.spells_layout Phrase.body_ne_nil h

theorem settle_eq_self_iff {lexemes : List Lexeme} (hcode : lexemes.any Lexeme.isCode = true) :
    settle lexemes = .ok lexemes ↔ IsSource lexemes := by
  rw [settle, if_pos hcode]
  exact Grammar.read_eq_self_iff Phrase.spells_layout Phrase.body_ne_nil

theorem sublist_of_settle {lexemes left : List Lexeme} (h : settle lexemes = .ok left) :
    left.Sublist lexemes := by
  by_cases hcode : lexemes.any Lexeme.isCode = true
  · exact (lineEndsSettle_of_settle hcode h).1.sublist
  · rw [settle, if_neg hcode] at h
    exact Except.ok.inj h ▸ List.filter_sublist

end TagAtlas.Go

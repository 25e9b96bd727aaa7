import TagAtlas.Proofs.JsonTokenReading

/-!
# Reading printed real numbers

A text that holds a number holds one token: after a bracket the whole is an array or an object.
So a real number that reads back alone reads back wherever it stands in a document.
-/

namespace TagAtlas.Json

/-- What a token makes of a document read in part. -/
inductive Partial.Takes (p : Partial) : Token → Partial → Prop
  | value (v : Json) : p.Takes (.value v) (.finish v p.stack)
  | brokenText : p.Takes .brokenText (.finish .skipped p.stack)
  | openArray : p.Takes .openArray ⟨.firstItem, .array [] :: p.stack, .null⟩
  | openObject : p.Takes .openObject ⟨.firstKey, .object (some []) "" :: p.stack, .null⟩
  | closeArray {items : List Json} {rest : List Open} (h : p.stack = .array items :: rest) :
      p.Takes .closeArray (.finish (.array items.reverse) rest)
  | closeObject {members? : Option (List (String × Json))} {key : String} {rest : List Open}
      (h : p.stack = .object members? key :: rest) : p.Takes .closeObject
        (.finish ((members?.map fun members => .object members.reverse).getD .skipped) rest)
  | nextItem {items : List Json} {rest : List Open} (h : p.stack = .array items :: rest) :
      p.Takes .comma ⟨.value, p.stack, .null⟩
  | nextMember {members? : Option (List (String × Json))} {key : String} {rest : List Open}
      (h : p.stack = .object members? key :: rest) : p.Takes .comma ⟨.key, p.stack, .null⟩
  | name {members? : Option (List (String × Json))} {key : String} {rest : List Open}
      (text : String) (h : p.stack = .object members? key :: rest) :
      p.Takes (.value (.string text)) ⟨.colon, .object members? text :: rest, .null⟩
  | brokenName {members? : Option (List (String × Json))} {key : String} {rest : List Open}
      (h : p.stack = .object members? key :: rest) :
      p.Takes .brokenText ⟨.colon, .object none "" :: rest, .null⟩
  | colon (h : p.wanted = .colon) : p.Takes .colon ⟨.value, p.stack, .null⟩

theorem Partial.takes_of_step {p q : Partial} {t : Token} (h : p.step t = some q) :
    p.wanted ≠ .nothing ∧ p.Takes t q := by
  obtain ⟨wanted, stack, result⟩ := p
  constructor
  · rintro hnothing
    simp only at hnothing
    subst hnothing
    simp [step] at h
  · unfold Partial.step at h
    split at h
    case h_1 | h_2 => cases h; exact .value _
    case h_3 | h_4 => cases h; exact .brokenText
    case h_5 | h_6 => cases h; exact .openArray
    case h_7 | h_8 => cases h; exact .openObject
    case h_9 hstack | h_10 hstack => cases h; exact .closeArray hstack
    case h_11 hstack | h_12 hstack => cases h; exact .closeObject hstack
    case h_13 hstack => cases h; exact hstack ▸ .nextItem hstack
    case h_14 hstack => cases h; exact hstack ▸ .nextMember hstack
    case h_15 hstack | h_16 hstack => cases h; exact .name _ hstack
    case h_17 hstack | h_18 hstack => cases h; exact .brokenName hstack
    case h_19 hwanted => cases h; exact .colon hwanted
    case h_20 => cases h

/-- After a first bracket an array or an object is open, or the whole is one. -/
def Partial.IsInside (p : Partial) : Prop :=
  p.stack ≠ [] ∧ p.wanted ≠ .nothing ∨ p.wanted = .nothing ∧ ∀ n, p.result ≠ .number n

theorem Partial.isInside_finish {v : Json} {stack : List Open}
    (h : stack ≠ [] ∨ ∀ n, v ≠ .number n) : (Partial.finish v stack).IsInside := by
  rcases stack with _ | ⟨o, stack⟩
  · exact .inr ⟨rfl, h.resolve_left fun hne => hne rfl⟩
  · cases o <;> exact .inl ⟨by simp [Partial.finish], by simp [Partial.finish]⟩

namespace Partial.IsInside

variable {p q : Partial}

theorem step {t : Token} (h : p.IsInside) (hstep : p.step t = some q) : q.IsInside := by
  obtain ⟨hwanted, htakes⟩ := takes_of_step hstep
  have hstack : p.stack ≠ [] := (h.resolve_right fun hdone => hwanted hdone.1).1
  cases htakes with
  | value | brokenText => exact isInside_finish (.inl hstack)
  | openArray => exact .inl ⟨by simp, by simp⟩
  | openObject => exact .inl ⟨by simp, by simp⟩
  | closeArray => exact isInside_finish (.inr (by simp))
  | @closeObject members? =>
    refine isInside_finish (.inr fun n => ?_)
    cases members? <;> simp
  | nextItem => exact .inl ⟨hstack, by simp⟩
  | nextMember => exact .inl ⟨hstack, by simp⟩
  | name | brokenName => exact .inl ⟨by simp, by simp⟩
  | colon => exact .inl ⟨hstack, by simp⟩

theorem foldlM {ts : List Token} (h : p.IsInside) (hfold : ts.foldlM Partial.step p = some q) :
    q.IsInside := by
  induction ts generalizing p with
  | nil => cases hfold; exact h
  | cons t ts ih =>
    obtain ⟨p', hstep, hrest⟩ := Option.bind_eq_some_iff.mp hfold
    exact ih (h.step hstep) hrest

end Partial.IsInside

theorem ofTokens?_eq_some_iff {ts : List Token} {v : Json} : ofTokens? ts = some v ↔
    ∃ stack, ts.foldlM Partial.step ⟨.value, [], .null⟩ = some ⟨.nothing, stack, v⟩ := by
  unfold ofTokens?
  cases ts.foldlM Partial.step ⟨.value, [], .null⟩ with
  | none => simp
  | some p =>
    obtain ⟨wanted, stack, result⟩ := p
    cases wanted <;> simp

/-- What makes a number is one token. -/
theorem eq_of_ofTokens?_number {ts : List Token} {n : Number}
    (h : ofTokens? ts = some (.number n)) : ts = [.value (.number n)] := by
  obtain ⟨stack, hfold⟩ := ofTokens?_eq_some_iff.mp h
  have hnotInside : ¬ Partial.IsInside ⟨.nothing, stack, .number n⟩ := by
    simp [Partial.IsInside]
  cases ts with
  | nil => cases hfold
  | cons t ts =>
    obtain ⟨q, hstep, hrest⟩ := Option.bind_eq_some_iff.mp hfold
    cases (Partial.takes_of_step hstep).2 with
    | openArray | openObject =>
      exact absurd (Partial.IsInside.foldlM (.inl ⟨by simp, by simp⟩) hrest) hnotInside
    | brokenText =>
      have hinside : (Partial.finish .skipped []).IsInside :=
        Partial.isInside_finish (.inr (by simp))
      exact absurd (Partial.IsInside.foldlM hinside hrest) hnotInside
    | value v =>
      cases ts with
      | nil =>
        cases hrest
        rfl
      | cons t' ts =>
        rw [List.foldlM_cons] at hrest
        obtain ⟨q', hstep', _⟩ := Option.bind_eq_some_iff.mp hrest
        exact absurd rfl (Partial.takes_of_step hstep').1
    | closeArray hstack => cases hstack
    | closeObject hstack => cases hstack
    | nextItem hstack => cases hstack
    | nextMember hstack => cases hstack
    | name _ hstack => cases hstack
    | brokenName hstack => cases hstack
    | colon hwanted => cases hwanted

theorem tokens?_of_parse?_number {text : String} {n : Number} (h : parse? text = some (.number n)) :
    tokens? text.toList = some [.value (.number n)] := by
  obtain ⟨ts, hts, hmake⟩ := Option.bind_eq_some_iff.mp h
  rw [hts, eq_of_ofTokens?_number hmake]

def ReadsBack (x : Float) : Prop := parse? (realText x) = some (.ofFloat x)

/-- Whether a real number was read, and it has the bits of another. -/
def isReal (x : Float) : Option Json → Bool
  | some (.number (.real y)) => y.toModel = x.toModel
  | _ => false

theorem isReal_iff {x : Float} {v : Option Json} : isReal x v = true ↔ v = some (.ofFloat x) := by
  constructor
  · intro h
    unfold isReal at h
    split at h
    next y =>
      have hbits : y.toModel = x.toModel := of_decide_eq_true h
      obtain ⟨_⟩ := x
      obtain ⟨_⟩ := y
      cases hbits
      rfl
    next => cases h
  · rintro rfl
    exact decide_eq_true rfl

instance (x : Float) : Decidable (ReadsBack x) := decidable_of_iff _ isReal_iff

theorem ReadsBack.tokens?_append {x : Float} (h : ReadsBack x) {rest : List Char}
    (hrest : EndsNumber rest) : tokens? ((realText x).toList ++ rest) =
      (tokens? rest).map (.value (.ofFloat x) :: ·) :=
  Json.tokens?_append (tokens?_of_parse?_number h) hrest

end TagAtlas.Json

import TagAtlas.Proofs.FloatFiniteness
import TagAtlas.Proofs.JsonNumberReading

/-!
# Texts hold finite numbers

A number that is too large for the format is passed over, so that every number in a document that
was read from a text is finite.
-/

namespace TagAtlas.Json

/-- Every number in the document is finite. -/
inductive Finite : Json → Prop
  | null : Finite .null
  | skipped : Finite .skipped
  | bool (b : Bool) : Finite (.bool b)
  | number {n : Number} (h : n.toFloat.isFinite = true) : Finite (.number n)
  | string (text : String) : Finite (.string text)
  | array {items : List Json} (h : ∀ v ∈ items, Finite v) : Finite (.array items)
  | object {members : List (String × Json)} (h : ∀ m ∈ members, Finite m.2) :
      Finite (.object members)

/-! ## Tokens -/

/-- The value of the token is finite, if it has one. -/
def Token.Finite (t : Token) : Prop := ∀ v, t = .value v → v.Finite

theorem Token.finite_value {v : Json} (h : v.Finite) : Token.Finite (.value v) := by
  rintro _ ⟨⟩
  exact h

variable {s : List Char} {ts : List Token}

theorem isFinite_of_nearest?_map {significand : Nat} {power : Int} {f : Float → Float} {n : Number}
    (hf : ∀ {x : Float}, x.isFinite = true → (f x).isFinite = true)
    (h : ((nearest? significand power).map fun x => .real (f x)) = some n) :
    n.toFloat.isFinite = true := by
  obtain ⟨x, hx, rfl⟩ := Option.map_eq_some_iff.mp h
  exact hf (Floating.isFinite_of_nearest? hx)

theorem isFinite_signed (negative : Bool) {x : Float} (h : x.isFinite = true) :
    (if negative then -x else x).isFinite = true := by
  split
  · exact Floating.isFinite_neg h
  · exact h

theorem isFinite_of_number? {negative : Bool} {whole : List Char} {fraction : Option (List Char)}
    {power : Option Int} {n : Number} (h : number? negative whole fraction power = some n) :
    n.toFloat.isFinite = true := by
  unfold number? at h
  dsimp only at h
  split at h
  · split at h
    · split at h
      next hrange =>
        cases h
        simp only [Bool.and_eq_true, decide_eq_true_eq] at hrange
        exact Floating.isFinite_ofInt (by omega) (by omega)
      next => exact isFinite_of_nearest?_map Floating.isFinite_neg h
    · split at h
      next hrange =>
        cases h
        exact Floating.isFinite_ofInt (by omega) (by omega)
      next => exact isFinite_of_nearest?_map id h
  · exact isFinite_of_nearest?_map (isFinite_signed negative) h

theorem finite_getD_number? (negative : Bool) (whole : List Char) (fraction : Option (List Char))
    (power : Option Int) :
    (((number? negative whole fraction power).map Json.number).getD Json.skipped).Finite := by
  cases hn : number? negative whole fraction power with
  | none => exact .skipped
  | some n => exact .number (isFinite_of_number? hn)

theorem finite_of_readNumber? {negative : Bool} {first : Char} {p : Json × Rest s}
    (h : readNumber? negative first s = some p) : p.1.Finite := by
  unfold readNumber? at h
  dsimp only at h
  split at h
  · cases h
  · split at h
    · cases h
    · split at h
      · cases h
      · cases h
        exact finite_getD_number? ..

theorem Token.finite_ofPieces (pieces : List Piece) : (Token.ofPieces pieces).Finite := by
  unfold ofPieces
  split
  · exact finite_value (.string _)
  · exact fun _ hvalue => by cases hvalue

theorem Token.finite_cons {t : Token} {more : Option (List Token)} (h : more.map (t :: ·) = some ts)
    (ht : t.Finite) (hmore : ∀ {ts}, more = some ts → ∀ t ∈ ts, t.Finite) :
    ∀ t ∈ ts, t.Finite := by
  obtain ⟨rest, hrest, rfl⟩ := Option.map_eq_some_iff.mp h
  intro t' ht'
  rcases List.mem_cons.mp ht' with rfl | hin
  · exact ht
  · exact hmore hrest t' hin

theorem finite_of_tokens? (h : tokens? s = some ts) : ∀ t ∈ ts, t.Finite := by
  fun_induction tokens? s generalizing ts with
  | case1 =>
    cases h
    exact List.forall_mem_nil _
  | case2 _ ih | case3 _ ih | case4 _ ih | case5 _ ih => exact ih h
  | case6 _ ih | case7 _ ih | case8 _ ih | case9 _ ih | case10 _ ih | case11 _ ih =>
    exact Token.finite_cons h (fun _ hvalue => by cases hvalue) ih
  | case12 _ ih => exact Token.finite_cons h (Token.finite_value .null) ih
  | case13 _ ih => exact Token.finite_cons h (Token.finite_value (.bool true)) ih
  | case14 _ ih => exact Token.finite_cons h (Token.finite_value (.bool false)) ih
  | case16 _ p _ ih => exact Token.finite_cons h (Token.finite_ofPieces _) ih
  | case18 | case21 =>
    rename_i p hp ih
    exact Token.finite_cons h (Token.finite_value (finite_of_readNumber? hp)) ih
  | case15 | case17 | case19 | case20 | case22 => cases h

/-! ## Documents -/

/-- All that an open array or object holds is finite. -/
inductive Open.Finite : Open → Prop
  | array {items : List Json} (h : ∀ v ∈ items, v.Finite) : Open.Finite (.array items)
  | object {members? : Option (List (String × Json))} {key : String}
      (h : ∀ members ∈ members?, ∀ m ∈ members, m.2.Finite) : Open.Finite (.object members? key)

structure Partial.Finite (p : Partial) : Prop where
  stack : ∀ o ∈ p.stack, o.Finite
  result : p.result.Finite

theorem Partial.finite_finish {v : Json} {stack : List Open} (hv : v.Finite)
    (hstack : ∀ o ∈ stack, o.Finite) : (Partial.finish v stack).Finite := by
  rcases stack with _ | ⟨o, rest⟩
  · exact ⟨hstack, hv⟩
  · obtain ⟨ho, hrest⟩ := List.forall_mem_cons.mp hstack
    cases ho with
    | array h =>
      have hitems := List.forall_mem_cons.mpr ⟨hv, h⟩
      exact ⟨List.forall_mem_cons.mpr ⟨.array hitems, hrest⟩, .null⟩
    | @object members? key h =>
      have hmembers : ∀ members ∈ members?.map ((key, v) :: ·), ∀ m ∈ members, m.2.Finite :=
        Option.forall_mem_map.mpr fun ms hms => List.forall_mem_cons.mpr ⟨hv, h ms hms⟩
      exact ⟨List.forall_mem_cons.mpr ⟨.object hmembers, hrest⟩, .null⟩

namespace Partial.Finite

variable {p q : Partial}

theorem step {t : Token} (h : p.Finite) (ht : t.Finite) (hstep : p.step t = some q) :
    q.Finite := by
  cases (takes_of_step hstep).2 with
  | value v => exact finite_finish (ht v rfl) h.stack
  | openArray => exact ⟨List.forall_mem_cons.mpr ⟨.array (List.forall_mem_nil _), h.stack⟩, .null⟩
  | brokenText => exact finite_finish .skipped h.stack
  | openObject =>
    have hmembers : ∀ members ∈ some ([] : List (String × Json)), ∀ m ∈ members, m.2.Finite := by
      rintro _ ⟨⟩
      exact List.forall_mem_nil _
    exact ⟨List.forall_mem_cons.mpr ⟨.object hmembers, h.stack⟩, .null⟩
  | closeArray hopen =>
    obtain ⟨⟨hitems⟩, hrest⟩ := List.forall_mem_cons.mp (hopen ▸ h.stack)
    exact finite_finish (.array fun v hv => hitems v (List.mem_reverse.mp hv)) hrest
  | @closeObject members? _ _ hopen =>
    obtain ⟨_ | hmembers, hrest⟩ := List.forall_mem_cons.mp (hopen ▸ h.stack)
    refine finite_finish ?_ hrest
    cases members? with
    | none => exact .skipped
    | some members => exact .object fun m hm => hmembers members rfl m (List.mem_reverse.mp hm)
  | nextItem hopen => exact ⟨h.stack, .null⟩
  | nextMember => exact ⟨h.stack, .null⟩
  | name text hopen =>
    obtain ⟨_ | hmembers, hrest⟩ := List.forall_mem_cons.mp (hopen ▸ h.stack)
    exact ⟨List.forall_mem_cons.mpr ⟨.object hmembers, hrest⟩, .null⟩
  | brokenName hopen =>
    obtain ⟨-, hrest⟩ := List.forall_mem_cons.mp (hopen ▸ h.stack)
    exact ⟨List.forall_mem_cons.mpr ⟨.object nofun, hrest⟩, .null⟩
  | colon => exact ⟨h.stack, .null⟩

theorem foldlM {ts : List Token} (h : p.Finite) (hts : ∀ t ∈ ts, t.Finite)
    (hfold : ts.foldlM Partial.step p = some q) : q.Finite := by
  induction ts generalizing p with
  | nil => cases hfold; exact h
  | cons t ts ih =>
    obtain ⟨p', hstep, hrest⟩ := Option.bind_eq_some_iff.mp hfold
    obtain ⟨ht, hts⟩ := List.forall_mem_cons.mp hts
    exact ih (h.step ht hstep) hts hrest

end Partial.Finite

theorem finite_of_parse? {text : String} {v : Json} (h : parse? text = some v) : v.Finite := by
  obtain ⟨ts, hts, hmake⟩ := Option.bind_eq_some_iff.mp h
  obtain ⟨stack, hfold⟩ := ofTokens?_eq_some_iff.mp hmake
  exact (Partial.Finite.foldlM ⟨List.forall_mem_nil _, .null⟩ (finite_of_tokens? hts) hfold).result

end TagAtlas.Json

import TagAtlas.Proofs.AttributeLists
import TagAtlas.Tag.Line

/-!
# The grammar of tag lines

Without the blanks around it, a line that holds a tag is an annotation: the marker, a type, perhaps
a colon and a value, perhaps a gap and a text after it. Each part ends where no character continues
it, so that the parts of an annotation are known from its text. Only where the gap ends is left
open, and there the attributes are the same.
-/

namespace TagAtlas

/-- Separators in front do not count. -/
theorem Attributes.read_dropWhile {p : Char → Bool} (h : ∀ c, p c = true → isSeparator c = true)
    (s : List Char) : read (s.dropWhile p) = read s := by
  have hsep : ∀ c ∈ s.takeWhile p, isSeparator c = true :=
    fun c hc => h c (List.mem_takeWhile_imp hc)
  conv_rhs => rw [← List.takeWhile_append_dropWhile (p := p) (l := s)]
  rw [read, read, pieces_separators hsep]

namespace Tag

/-- A gap in a line and the text after it. -/
structure Tail where
  gap : List Char
  rest : List Char

namespace Tail

def text (t : Tail) : List Char := t.gap ++ t.rest

/-- The gap is one, and the text ends with the line. -/
structure WellFormed (t : Tail) : Prop where
  gap_ne_nil : t.gap ≠ []
  gap_chars : ∀ c ∈ t.gap, isGap c = true
  rest_chars : '\n' ∉ t.rest

end Tail

structure Annotation where
  type : List Char
  /-- What follows the colon, if there is one. -/
  value : Option (List Char)
  tail : Option Tail

namespace Annotation

def valueText (a : Annotation) : List Char := a.value.elim [] (':' :: ·)

def tailText (a : Annotation) : List Char := a.tail.elim [] Tail.text

def text (a : Annotation) : List Char := marker.toList ++ (a.type ++ (a.valueText ++ a.tailText))

/-- Each part is made of the characters that it may be made of. -/
structure WellFormed (a : Annotation) : Prop where
  type : ∃ c s, a.type = c :: s ∧ isTypeStart c = true ∧ ∀ d ∈ s, isTypePart d = true
  value : ∀ v ∈ a.value, ∀ c ∈ v, isValuePart c = true
  tail : ∀ t ∈ a.tail, t.WellFormed

/-- A line is an annotation with blanks around it. -/
structure Fills (a : Annotation) (line : String) : Prop where
  wellFormed : a.WellFormed
  text_eq : a.text = Text.trim line.toList

def IsTight (a : Annotation) : Prop := ∀ t ∈ a.tail, ∀ c ∈ t.rest.head?, isGap c = false

def tag (a : Annotation) (line : Nat) : Tag where
  type := ⟨String.ofList a.type⟩
  value := (a.value.filter fun v => !v.isEmpty).map String.ofList
  attributes := a.tail.elim .empty fun t => Attributes.read t.rest
  line := line
  content := String.ofList a.text
  symbol := none
  file := none

def parts (a : Annotation) : Parts := ⟨a.type, a.value, a.tail.map (·.rest.dropWhile isGap)⟩

end Annotation

theorem isTypePart_of_isTypeStart {c : Char} (h : isTypeStart c = true) : isTypePart c = true := by
  simp only [isTypeStart, isTypePart, Char.isAlphanum, Bool.or_eq_true] at h ⊢
  exact h.imp_left .inl

theorem isPart_of_isGap {c : Char} (h : isGap c = true) :
    isTypePart c = false ∧ isValuePart c = false := by
  simp only [isGap, Bool.or_eq_true, decide_eq_true_eq] at h
  rcases h with rfl | rfl <;> decide

namespace Annotation

variable {a b : Annotation} {s : List Char}

theorem restAfter?_tailText (h : ∀ t ∈ a.tail, t.WellFormed) :
    restAfter? a.tailText = some (a.tail.map (·.rest.dropWhile isGap)) := by
  unfold tailText
  cases htail : a.tail with
  | none => rfl
  | some t =>
    obtain ⟨hne, hgap, hrest⟩ := h t htail
    obtain ⟨gap, rest⟩ := t
    cases gap with
    | nil => exact absurd rfl hne
    | cons c gap =>
      obtain ⟨hc, hgap⟩ := List.forall_mem_cons.mp hgap
      have hline : '\n' ∉ gap ++ rest := by
        rw [List.mem_append, not_or]
        exact ⟨fun h => absurd (hgap _ h) (by decide), hrest⟩
      have hcond : (isGap c && !(gap ++ rest).contains '\n') = true := by
        simp [hc, hline]
      rw [Option.elim_some, Tail.text, List.cons_append, restAfter?, if_pos hcond,
        List.dropWhile_append_of_pos hgap, Option.map_some]

theorem exists_tail_of_restAfter? {r : Option (List Char)} (h : restAfter? s = some r) :
    ∃ tail : Option Tail, (∀ t ∈ tail, t.WellFormed) ∧ tail.elim [] Tail.text = s ∧
      tail.map (·.rest.dropWhile isGap) = r := by
  cases s with
  | nil =>
    cases h
    exact ⟨none, nofun, rfl, rfl⟩
  | cons c s =>
    rw [restAfter?] at h
    split at h
    next hcond =>
      cases h
      simp only [Bool.and_eq_true, Bool.not_eq_true', List.contains_eq_mem,
        decide_eq_false_iff_not] at hcond
      refine ⟨some ⟨[c], s⟩, ?_, rfl, rfl⟩
      rintro t ⟨⟩
      exact ⟨List.cons_ne_nil _ _, List.forall_mem_singleton.mpr hcond.1, hcond.2⟩
    next => cases h

theorem WellFormed.isTypePart (h : a.WellFormed) : ∀ c ∈ a.type, Tag.isTypePart c = true := by
  obtain ⟨c, s, htype, hc, hs⟩ := h.type
  rw [htype]
  exact List.forall_mem_cons.mpr ⟨isTypePart_of_isTypeStart hc, hs⟩

/-- The tail, if there is one, begins with a gap. -/
theorem WellFormed.isGap_head? (h : a.WellFormed) : ∀ c ∈ a.tailText.head?, isGap c = true := by
  unfold tailText
  cases htail : a.tail with
  | none => nofun
  | some t =>
    have ht := h.tail t htail
    rw [Option.elim_some, Tail.text, List.head?_append_of_ne_nil _ ht.gap_ne_nil]
    exact fun c hc => ht.gap_chars c (List.mem_of_mem_head? hc)

/-- Whatever follows the type does not continue it. -/
theorem WellFormed.isTypePart_head? (h : a.WellFormed) :
    ∀ c ∈ (a.valueText ++ a.tailText).head?, Tag.isTypePart c = false := by
  unfold valueText
  cases a.value with
  | none => exact fun c hc => (isPart_of_isGap (h.isGap_head? c hc)).1
  | some v =>
    rintro c ⟨⟩
    decide

theorem WellFormed.parts?_text (h : a.WellFormed) : parts? a.text = some a.parts := by
  have hbody : Text.after? marker.toList a.text =
      some (a.type ++ (a.valueText ++ a.tailText)) := Text.after?_eq_some_iff.mpr rfl
  have htype := Text.takeWhile_append h.isTypePart h.isTypePart_head?
  have hmore := Text.dropWhile_append h.isTypePart h.isTypePart_head?
  have hstart : a.type.head?.any isTypeStart = true := by
    obtain ⟨c, s, hcons, hc, -⟩ := h.type
    rw [hcons, List.head?_cons, Option.any_some, hc]
  have htail := restAfter?_tailText h.tail
  rw [parts?, hbody, Option.bind_eq_bind, Option.bind_some, htype, hmore, if_pos hstart]
  unfold valueText
  cases hvalue : a.value with
  | none =>
    rw [Option.elim_none, List.nil_append]
    split
    next more hcolon =>
      have hgap := h.isGap_head? ':' (by rw [hcolon]; rfl)
      exact absurd hgap (by decide)
    next =>
      rw [htail, parts, hvalue]
      rfl
  | some v =>
    have hchars := h.value v hvalue
    have hend : ∀ c ∈ a.tailText.head?, isValuePart c = false :=
      fun c hc => (isPart_of_isGap (h.isGap_head? c hc)).2
    rw [Option.elim_some, List.cons_append]
    change (restAfter? ((v ++ a.tailText).dropWhile isValuePart)).bind _ = _
    rw [Text.takeWhile_append hchars hend, Text.dropWhile_append hchars hend, htail, parts, hvalue]
    rfl

theorem exists_of_parts?_eq_some {p : Parts} (h : parts? s = some p) :
    ∃ a : Annotation, a.WellFormed ∧ a.text = s ∧ a.parts = p := by
  obtain ⟨body, hbody, h⟩ := Option.bind_eq_some_iff.mp h
  have hs := Text.after?_eq_some_iff.mp hbody
  have hsplit : body.takeWhile isTypePart ++ body.dropWhile isTypePart = body :=
    List.takeWhile_append_dropWhile
  dsimp only at h
  split at h
  next hstart =>
    have htype : ∃ c t, body.takeWhile isTypePart = c :: t ∧ isTypeStart c = true ∧
        ∀ d ∈ t, isTypePart d = true := by
      cases hcons : body.takeWhile isTypePart with
      | nil => rw [hcons] at hstart; cases hstart
      | cons c t =>
        rw [hcons] at hstart
        refine ⟨c, t, rfl, hstart, fun d hd => ?_⟩
        exact List.mem_takeWhile_imp (hcons ▸ List.mem_cons_of_mem c hd)
    generalize body.takeWhile isTypePart = type at hsplit htype h
    split at h
    next more hmore =>
      obtain ⟨rest, hrest, hp⟩ := Option.bind_eq_some_iff.mp h
      cases hp
      obtain ⟨tail, hwell, htext, hparts⟩ := exists_tail_of_restAfter? hrest
      refine ⟨⟨type, some (more.takeWhile isValuePart), tail⟩,
        ⟨htype, ?_, hwell⟩, ?_, ?_⟩
      · rintro v ⟨⟩
        exact fun c => List.mem_takeWhile_imp
      · rw [hs, ← hsplit, hmore, text, valueText, tailText, htext, Option.elim_some,
          List.cons_append, List.takeWhile_append_dropWhile]
      · rw [parts, hparts]
    next =>
      obtain ⟨rest, hrest, hp⟩ := Option.bind_eq_some_iff.mp h
      cases hp
      obtain ⟨tail, hwell, htext, hparts⟩ := exists_tail_of_restAfter? hrest
      refine ⟨⟨type, none, tail⟩, ⟨htype, nofun, hwell⟩, ?_, ?_⟩
      · rw [hs, text, valueText, tailText, htext, Option.elim_none, List.nil_append, hsplit]
      · rw [parts, hparts]
  next => cases h

/-! ### One way to read an annotation -/

theorem parts_eq_of_text_eq (ha : a.WellFormed) (hb : b.WellFormed) (h : a.text = b.text) :
    a.parts = b.parts := by
  have hread := ha.parts?_text
  rw [h, hb.parts?_text] at hread
  exact (Option.some.inj hread).symm

/-- The parts of an annotation are known from its text, up to where the gap ends. -/
theorem eq_of_text_eq (ha : a.WellFormed) (hb : b.WellFormed) (h : a.text = b.text) :
    a.type = b.type ∧ a.value = b.value ∧ a.tailText = b.tailText := by
  have hparts := parts_eq_of_text_eq ha hb h
  have htype : a.type = b.type := congrArg Parts.type hparts
  have hvalue : a.value = b.value := congrArg Parts.value hparts
  have htail := List.append_cancel_left h
  rw [htype, valueText, valueText, hvalue] at htail
  exact ⟨htype, hvalue, List.append_cancel_left (List.append_cancel_left htail)⟩

/-- The annotation with a gap as long as it can be. -/
def tightened (a : Annotation) : Annotation where
  type := a.type
  value := a.value
  tail := a.tail.map fun t => ⟨t.gap ++ t.rest.takeWhile isGap, t.rest.dropWhile isGap⟩

theorem text_tightened (a : Annotation) : a.tightened.text = a.text := by
  unfold text tailText tightened
  cases a.tail with
  | none => rfl
  | some t =>
    simp only [Option.map_some, Option.elim_some, Tail.text, List.append_assoc,
      List.takeWhile_append_dropWhile]
    rfl

theorem WellFormed.tightened (h : a.WellFormed) : a.tightened.WellFormed where
  type := h.type
  value := h.value
  tail := by
    intro t ht
    obtain ⟨u, hu, rfl⟩ := Option.map_eq_some_iff.mp ht
    obtain ⟨hne, hgap, hrest⟩ := h.tail u hu
    refine ⟨List.append_ne_nil_of_left_ne_nil hne _, ?_, ?_⟩
    · exact List.forall_mem_append.mpr ⟨hgap, fun c => List.mem_takeWhile_imp⟩
    · exact fun h => hrest ((List.dropWhile_sublist _).subset h)

theorem isTight_tightened (a : Annotation) : a.tightened.IsTight := by
  intro t ht c hc
  obtain ⟨u, -, rfl⟩ := Option.map_eq_some_iff.mp ht
  have hhead := List.head?_dropWhile_not isGap u.rest
  rw [hc] at hhead
  exact hhead

/-- With the gap as long as it can be, an annotation is known from its text. -/
theorem eq_of_isTight (ha : a.WellFormed) (hb : b.WellFormed) (h : a.text = b.text)
    (hatight : a.IsTight) (hbtight : b.IsTight) : a = b := by
  obtain ⟨htype, hvalue, htext⟩ := eq_of_text_eq ha hb h
  have hrests : a.tail.map (·.rest.dropWhile isGap) = b.tail.map (·.rest.dropWhile isGap) :=
    congrArg Parts.rest (parts_eq_of_text_eq ha hb h)
  obtain ⟨type, value, tail⟩ := a
  obtain ⟨_, _, tail'⟩ := b
  obtain rfl : type = _ := htype
  obtain rfl : value = _ := hvalue
  cases tail with
  | none =>
    cases tail' with
    | none => rfl
    | some u => cases hrests
  | some t =>
    cases tail' with
    | none => cases hrests
    | some u =>
      have hrest : t.rest.dropWhile isGap = u.rest.dropWhile isGap := Option.some.inj hrests
      rw [Text.dropWhile_eq_self (hatight t rfl), Text.dropWhile_eq_self (hbtight u rfl)] at hrest
      obtain ⟨gap, rest⟩ := t
      obtain ⟨gap', _⟩ := u
      obtain rfl : rest = _ := hrest
      obtain rfl : gap = gap' := List.append_cancel_right htext
      rfl

/-! ### Tags of lines -/

theorem isSeparator_of_isGap (c : Char) (h : isGap c = true) : Attributes.isSeparator c = true := by
  rw [Attributes.isSeparator, Bool.or_eq_true]
  exact .inl h

theorem Fills.ofLine?_eq {line : String} (h : a.Fills line) (n : Nat) :
    ofLine? line n = some (a.tag n) := by
  have hattributes : ((a.tail.map (·.rest.dropWhile isGap)).map Attributes.read).getD .empty =
      a.tail.elim .empty fun t => Attributes.read t.rest := by
    cases a.tail with
    | none => rfl
    | some t => exact Attributes.read_dropWhile isSeparator_of_isGap t.rest
  rw [ofLine?, ← h.text_eq, h.wellFormed.parts?_text, Option.map_some, parts, hattributes]
  rfl

theorem exists_fills_of_ofLine? {line : String} {n : Nat} {t : Tag} (h : ofLine? line n = some t) :
    ∃ a : Annotation, a.Fills line := by
  obtain ⟨p, hp, -⟩ := Option.map_eq_some_iff.mp h
  obtain ⟨a, hwell, htext, -⟩ := exists_of_parts?_eq_some hp
  exact ⟨a, hwell, htext⟩

end Annotation

/-- A line is read as the annotation that it is, and in one way only. -/
structure ReadByGrammar (line : String) (n : Nat) : Prop where
  ofLine?_iff : ∀ t, ofLine? line n = some t ↔ ∃ a : Annotation, a.Fills line ∧ t = a.tag n
  unique : ∀ a b : Annotation, a.Fills line → b.Fills line →
    a.type = b.type ∧ a.value = b.value ∧ a.tailText = b.tailText
  tight : ∀ a : Annotation, a.Fills line → ∃! b : Annotation, b.Fills line ∧ b.IsTight

/-- Every line is read by the grammar. -/
theorem readByGrammar (line : String) (n : Nat) : ReadByGrammar line n where
  ofLine?_iff t := by
    constructor
    · intro h
      obtain ⟨a, ha⟩ := Annotation.exists_fills_of_ofLine? h
      exact ⟨a, ha, Option.some.inj (h.symm.trans (ha.ofLine?_eq n))⟩
    · rintro ⟨a, ha, rfl⟩
      exact ha.ofLine?_eq n
  unique a b ha hb :=
    Annotation.eq_of_text_eq ha.wellFormed hb.wellFormed (ha.text_eq.trans hb.text_eq.symm)
  tight a ha := by
    have hfills : a.tightened.Fills line :=
      ⟨ha.wellFormed.tightened, a.text_tightened.trans ha.text_eq⟩
    refine ⟨a.tightened, ⟨hfills, a.isTight_tightened⟩, ?_⟩
    rintro b ⟨hb, hbtight⟩
    exact Annotation.eq_of_isTight hb.wellFormed hfills.wellFormed
      (hb.text_eq.trans hfills.text_eq.symm) hbtight a.isTight_tightened

end Tag

end TagAtlas

import TagAtlas.Proofs.AttributeRows
import TagAtlas.Proofs.TagGrammar

/-!
# Tags written again

The text of a tag that was read from a line is an annotation of the same type and value. Its
attributes are the same when they survive being written. Not all do: quotes are written around
spaces and commas only, so that a tab in a value ends the attribute.
-/

namespace TagAtlas

/-- Blanks count at the ends of a text only. -/
theorem Text.trim_append {s rest : List Char} (hs : ∃ c ∈ s.head?, isBlank c = false)
    (hrest : ∃ c ∈ rest, isBlank c = false) : trim (s ++ rest) = s ++ trimEnd rest := by
  obtain ⟨c, hc, hblank⟩ := hs
  obtain ⟨d, hd, hdblank⟩ := hrest
  have hhead : ∀ d ∈ (s ++ rest).head?, isBlank d = false := by
    rw [List.head?_append, Option.mem_def.mp hc]
    rintro d ⟨⟩
    exact hblank
  have hne : ¬ (rest.reverse.dropWhile isBlank).isEmpty = true := by
    rw [List.isEmpty_iff, List.dropWhile_eq_nil_iff]
    exact fun h => by simpa [hdblank] using h d (List.mem_reverse.mpr hd)
  rw [trim, trimStart, dropWhile_eq_self hhead, trimEnd, List.reverse_append, List.dropWhile_append,
    if_neg hne, List.reverse_append, List.reverse_reverse, trimEnd]

namespace Tag

variable {t : Tag} {line : String} {n : Nat}

/-- The type and the value as the text of a tag begins with them. -/
def headText (t : Tag) : List Char :=
  marker.toList ++ (t.type.name.toList ++ (t.value.map String.toList).elim [] (':' :: ·))

theorem toList_text (t : Tag) :
    t.text.toList = t.headText ++ Attributes.row t.attributes.entries := by
  unfold text headText Attributes.row
  cases t.value <;>
    simp [String.toList_append, String.toList_join, List.flatMap_map, Attributes.written]

theorem not_isBlank_of_isValuePart {c : Char} (h : isValuePart c = true) :
    Text.isBlank c = false := by
  simp only [isValuePart, Char.isAlphanum, Char.isAlpha, Char.isUpper, Char.isLower, Char.isDigit,
    Bool.or_eq_true, Bool.and_eq_true, decide_eq_true_eq, ge_iff_le, UInt32.le_iff_toNat_le] at h
  have hcodes : 'A'.val.toNat = 65 ∧ 'Z'.val.toNat = 90 ∧ 'a'.val.toNat = 97 ∧
      'z'.val.toNat = 122 ∧ '0'.val.toNat = 48 ∧ '9'.val.toNat = 57 := by decide
  rcases h with (h | rfl) | rfl
  · simp only [Text.isBlank, Char.toNat, Bool.or_eq_false_iff, Bool.and_eq_false_iff,
      decide_eq_false_iff_not]
    omega
  · decide
  · decide

/-- What is known of a tag that was read from a line. -/
structure FromLine (t : Tag) : Prop where
  type : ∃ c s, t.type.name.toList = c :: s ∧ isTypeStart c = true ∧ ∀ d ∈ s, isTypePart d = true
  value : ∀ v ∈ t.value, v ≠ "" ∧ ∀ c ∈ v.toList, isValuePart c = true
  keys : ∀ e ∈ t.attributes.entries, Attributes.KeyText e.1.toList
  lines : ∀ e ∈ t.attributes.entries, '\n' ∉ Attributes.written e

theorem fromLine_of_ofLine? (h : ofLine? line n = some t) : FromLine t := by
  obtain ⟨a, ha⟩ := Annotation.exists_fills_of_ofLine? h
  obtain rfl : t = a.tag n := Option.some.inj (h.symm.trans (ha.ofLine?_eq n))
  have hattributes :
      ∃ s, '\n' ∉ s ∧ (a.tag n).attributes.entries ⊆ (Attributes.read s).entries := by
    unfold Annotation.tag
    cases htail : a.tail with
    | none => exact ⟨[], List.not_mem_nil, List.nil_subset _⟩
    | some tail => exact ⟨tail.rest, (ha.wellFormed.tail tail htail).rest_chars, fun _ he => he⟩
  obtain ⟨s, hs, hread⟩ := hattributes
  refine ⟨?_, ?_, fun e he => Attributes.keyText_of_mem_read (hread he),
    fun e he => Attributes.newline_not_mem_written hs (hread he)⟩
  · obtain ⟨c, s, htype, hc, hs⟩ := ha.wellFormed.type
    exact ⟨c, s, String.toList_ofList.trans htype, hc, hs⟩
  · intro v hv
    obtain ⟨w, hw, rfl⟩ := Option.map_eq_some_iff.mp hv
    obtain ⟨hw, hne⟩ := Option.filter_eq_some_iff.mp hw
    refine ⟨?_, ?_⟩
    · intro hempty
      simp [String.ofList_eq_empty_iff.mp hempty] at hne
    · rw [String.toList_ofList]
      exact ha.wellFormed.value w hw

/-- The annotation that is read from the text of a tag. -/
def restated (t : Tag) : Annotation where
  type := t.type.name.toList
  value := t.value.map String.toList
  tail := match Attributes.row t.attributes.entries with
    | [] => none
    | c :: rest => some ⟨[c], Text.trimEnd rest⟩

namespace FromLine

theorem row_cases (h : FromLine t) : Attributes.row t.attributes.entries = [] ∨
    ∃ rest, Attributes.row t.attributes.entries = ' ' :: rest ∧ '\n' ∉ rest ∧ '=' ∈ rest := by
  have hrow : ∀ l : List (String × String), (∀ e ∈ l, '\n' ∉ Attributes.written e) →
      '\n' ∉ Attributes.row l := by
    intro l hl hmem
    obtain ⟨e, he, hc⟩ := List.mem_flatMap.mp hmem
    rcases List.mem_cons.mp hc with hspace | hc
    · exact absurd hspace (by decide)
    · exact hl e he hc
  have hlines := h.lines
  cases hentries : t.attributes.entries with
  | nil => exact .inl rfl
  | cons e l =>
    rw [hentries] at hlines
    obtain ⟨he, hl⟩ := List.forall_mem_cons.mp hlines
    obtain ⟨v, hwritten, -⟩ := Attributes.exists_written_eq e
    refine .inr ⟨_, Attributes.row_cons e l, ?_, ?_⟩
    · exact List.not_mem_append he (hrow l hl)
    · rw [hwritten]
      simp

theorem restated_wellFormed (h : FromLine t) : t.restated.WellFormed where
  type := h.type
  value := by
    intro v hv
    obtain ⟨w, hw, rfl⟩ := Option.map_eq_some_iff.mp hv
    exact (h.value w hw).2
  tail := by
    intro tail htail
    rcases h.row_cases with hrow | ⟨rest, hrow, hline, -⟩
    · rw [restated, hrow] at htail
      cases htail
    · rw [restated, hrow] at htail
      cases htail
      refine ⟨List.cons_ne_nil _ _, List.forall_mem_singleton.mpr (by decide), fun hmem => ?_⟩
      exact hline ((Text.trimEnd_isPrefix rest).subset hmem)

/-- Neither the marker nor the type nor the value holds a blank. -/
theorem unblanked_headText (h : FromLine t) : Text.Unblanked t.headText := by
  have hmarker : ∀ c ∈ marker.toList, Text.isBlank c = false := by
    have hall : marker.toList.all (!Text.isBlank ·) = true := rfl
    simpa only [List.all_eq_true, Bool.not_eq_true'] using hall
  have hpart : ∀ c, isTypePart c = true → isValuePart c = true := by
    intro c hc
    rw [isValuePart, Bool.or_eq_true]
    exact .inl hc
  have htype : ∀ c ∈ t.type.name.toList, Text.isBlank c = false := fun c hc =>
    not_isBlank_of_isValuePart (hpart c (h.restated_wellFormed.isTypePart c hc))
  have hvalue : ∀ c ∈ (t.value.map String.toList).elim [] (':' :: ·), Text.isBlank c = false := by
    cases hv : t.value with
    | none => exact List.forall_mem_nil _
    | some v =>
      refine List.forall_mem_cons.mpr ⟨by decide, fun c hc => ?_⟩
      exact not_isBlank_of_isValuePart ((h.value v hv).2 c hc)
  have hall : ∀ c ∈ t.headText, Text.isBlank c = false :=
    List.forall_mem_append.mpr ⟨hmarker, List.forall_mem_append.mpr ⟨htype, hvalue⟩⟩
  exact ⟨fun c hc => hall c (List.mem_of_mem_head? hc),
    fun c hc => hall c (List.mem_of_mem_getLast? hc)⟩

theorem fills_text (h : FromLine t) : t.restated.Fills t.text := by
  refine ⟨h.restated_wellFormed, ?_⟩
  have hmarker : ∃ c ∈ (t.headText ++ [' ']).head?, Text.isBlank c = false := ⟨'@', rfl, by decide⟩
  have htext : t.restated.text = t.headText ++ t.restated.tailText := by
    rw [headText, Annotation.text, List.append_assoc, List.append_assoc]
    rfl
  rw [htext, toList_text, restated, Annotation.tailText]
  rcases h.row_cases with hrow | ⟨rest, hrow, -, hequals⟩
  · rw [hrow, List.append_nil, h.unblanked_headText.trim_eq]
    exact List.append_nil _
  · have htrim := Text.trim_append hmarker ⟨'=', hequals, by decide⟩
    rw [hrow]
    rw [List.append_assoc, List.append_assoc] at htrim
    exact htrim.symm

theorem attributes_restated (h : FromLine t) (m : Nat) :
    (t.restated.tag m).attributes = Attributes.read (Attributes.row t.attributes.entries) := by
  unfold Annotation.tag restated
  rcases h.row_cases with hrow | ⟨rest, hrow, -⟩
  · rw [hrow]
    rfl
  · rw [hrow, Attributes.read_eq_ofList_listed (' ' :: rest),
      Attributes.listed_separator Attributes.isSeparator_space, ← Attributes.read_eq_ofList_listed]
    exact Attributes.read_trimEnd rest

end FromLine

/-- What the text of a tag is read as. The attributes are the same just when each of them survives
being written. -/
structure Rereads (t u : Tag) : Prop where
  type : u.type = t.type
  value : u.value = t.value
  attributes_iff : u.attributes = t.attributes ↔ Attributes.Rewritable t.attributes

/-- The text of a tag that was read from a line is a line with a tag again. -/
theorem exists_rereads_of_ofLine? (h : ofLine? line n = some t) (m : Nat) :
    ∃ u, ofLine? t.text m = some u ∧ t.Rereads u := by
  have hline := fromLine_of_ofLine? h
  refine ⟨_, hline.fills_text.ofLine?_eq m, ?_, ?_, ?_⟩
  · exact congrArg TagType.mk String.ofList_toList
  · change ((t.value.map String.toList).filter fun v => !v.isEmpty).map String.ofList = t.value
    cases hv : t.value with
    | none => rfl
    | some v =>
      have hkept : (!v.toList.isEmpty) = true := by simpa using (hline.value v hv).1
      rw [Option.map_some, Option.filter_some, if_pos hkept, Option.map_some, String.ofList_toList]
  · rw [hline.attributes_restated, Attributes.read_row_eq_iff hline.keys]

/-- A tab is not protected by quotes, so that what follows it becomes a key. -/
theorem exists_rereads_of_ofLine?_tab :
    ∃ t, ofLine? "@kthulu:module:x k='a\tb'" 1 = some t ∧ t.text = "@kthulu:module:x k=a\tb" ∧
      ∃ u, ofLine? t.text 1 = some u ∧ u.attributes ≠ t.attributes := by
  let t : Tag := ⟨.module, some "x", Dict.empty.insert "k" "a\tb", 1, "@kthulu:module:x k='a\tb'",
    none, none⟩
  have ht : ofLine? "@kthulu:module:x k='a\tb'" 1 = some t := by decide +kernel
  obtain ⟨u, hu, hrereads⟩ := exists_rereads_of_ofLine? ht 1
  refine ⟨t, ht, by decide +kernel, u, hu, fun hsame => ?_⟩
  have halone := (hrereads.attributes_iff.mp hsame).alone ("k", "a\tb") (List.mem_singleton_self _)
  revert halone
  decide +kernel

end Tag

end TagAtlas

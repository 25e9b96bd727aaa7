import TagAtlas.Proofs.DictContents
import TagAtlas.Proofs.TextParts
import TagAtlas.Tag.Attributes

/-!
# Attribute lists read back

A list of attributes is read as it was written: a piece ends only at a separator outside quotes, so
each attribute is one piece, and a piece is cut at the first `=`, which no key holds. Of equal keys
the last counts.
-/

namespace TagAtlas

namespace Attributes

/-! ### Pieces -/

variable {quote : Option Char} {q c : Char} {acc s u rest : List Char}

theorem pieces_separators (h : ∀ c ∈ s, isSeparator c = true) :
    pieces none [] (s ++ rest) = pieces none [] rest := by
  induction s with
  | nil => rfl
  | cons c s ih =>
    obtain ⟨hc, hs⟩ := List.forall_mem_cons.mp h
    rw [List.cons_append, pieces, if_pos hc, ih hs, consPiece, if_pos List.isEmpty_nil]

/-- The quote that is open after one more character. -/
def quoteAfter (quote : Option Char) (c : Char) : Option Char :=
  match quote with
  | some q => if c = q then none else some q
  | none => if isQuote c then some c else none

def openQuote (quote : Option Char) (s : List Char) : Option Char := s.foldl quoteAfter quote

inductive Unbroken : Option Char → List Char → Prop
  | nil {quote : Option Char} : Unbroken quote []
  | cons {quote : Option Char} {c : Char} {s : List Char}
      (hc : quote = none → isSeparator c = false) (h : Unbroken (quoteAfter quote c) s) :
      Unbroken quote (c :: s)

/-- A character goes on with the piece, or it is a separator outside quotes. -/
theorem continues_or_separates (quote : Option Char) (c : Char) :
    (quote = none → isSeparator c = false) ∨ quote = none ∧ isSeparator c = true := by
  cases quote with
  | some q => exact .inl nofun
  | none => exact (Bool.eq_false_or_eq_true _).symm.imp (fun h _ => h) fun h => ⟨rfl, h⟩

theorem pieces_cons (hc : quote = none → isSeparator c = false) (acc s : List Char) :
    pieces quote acc (c :: s) = pieces (quoteAfter quote c) (acc ++ [c]) s := by
  cases quote with
  | some q => rfl
  | none => rw [pieces, hc rfl, if_neg Bool.false_ne_true, quoteAfter]

/-- A text whose separators stand in quotes belongs to one piece. -/
theorem Unbroken.pieces_append (h : Unbroken quote s) (acc rest : List Char) :
    pieces quote acc (s ++ rest) = pieces (openQuote quote s) (acc ++ s) rest := by
  induction h generalizing acc with
  | nil => rw [List.nil_append, List.append_nil, openQuote, List.foldl_nil]
  | cons hc _ ih =>
    rw [List.cons_append, pieces_cons hc, ih, List.append_assoc, List.singleton_append]
    rfl

/-- A text belongs to one piece and leaves no quote open. -/
structure Whole (s : List Char) : Prop where
  unbroken : Unbroken none s
  closed : openQuote none s = none

theorem openQuote_append (quote : Option Char) (s u : List Char) :
    openQuote quote (s ++ u) = openQuote (openQuote quote s) u := List.foldl_append

theorem Unbroken.append (hs : Unbroken quote s) (hu : Unbroken (openQuote quote s) u) :
    Unbroken quote (s ++ u) := by
  induction hs with
  | nil => exact hu
  | cons hc _ ih => exact .cons hc (ih hu)

theorem Whole.append (hs : Whole s) (hu : Whole u) : Whole (s ++ u) where
  unbroken := hs.unbroken.append (hs.closed.symm ▸ hu.unbroken)
  closed := by rw [openQuote_append, hs.closed, hu.closed]

theorem whole_of_plain (h : ∀ c ∈ s, isSeparator c = false ∧ isQuote c = false) : Whole s := by
  induction s with
  | nil => exact ⟨.nil, rfl⟩
  | cons c s ih =>
    obtain ⟨⟨hsep, hquote⟩, hs⟩ := List.forall_mem_cons.mp h
    have hafter : quoteAfter none c = none := by rw [quoteAfter, hquote, if_neg Bool.false_ne_true]
    have hrest := ih hs
    refine ⟨.cons (fun _ => hsep) (hafter.symm ▸ hrest.unbroken), ?_⟩
    rw [openQuote, List.foldl_cons, hafter]
    exact hrest.closed

/-- Within quotes, whatever stands there but the quote goes on with the piece. -/
theorem unbroken_within (h : q ∉ s) : Unbroken (some q) s ∧ openQuote (some q) s = some q := by
  induction s with
  | nil => exact ⟨.nil, rfl⟩
  | cons c s ih =>
    obtain ⟨hc, hs⟩ := List.ne_and_not_mem_of_not_mem_cons h
    have hafter : quoteAfter (some q) c = some q := by rw [quoteAfter, if_neg (Ne.symm hc)]
    obtain ⟨hunbroken, hopen⟩ := ih hs
    refine ⟨.cons nofun (hafter.symm ▸ hunbroken), ?_⟩
    rw [openQuote, List.foldl_cons, hafter]
    exact hopen

theorem isSeparator_of_isQuote (hq : isQuote q = true) : isSeparator q = false := by
  simp only [isQuote, Bool.or_eq_true, decide_eq_true_eq] at hq
  rcases hq with rfl | rfl <;> decide

theorem whole_quoted (hq : isQuote q = true) (h : q ∉ s) : Whole (q :: (s ++ [q])) := by
  have hopening : quoteAfter none q = some q := by rw [quoteAfter, if_pos hq]
  have hclosing : quoteAfter (some q) q = none := by rw [quoteAfter, if_pos rfl]
  obtain ⟨hunbroken, hopen⟩ := unbroken_within h
  have hend : Unbroken (openQuote (some q) s) [q] := hopen.symm ▸ .cons nofun .nil
  refine ⟨.cons (fun _ => isSeparator_of_isQuote hq) (hopening.symm ▸ hunbroken.append hend), ?_⟩
  calc openQuote none (q :: (s ++ [q]))
      = openQuote (quoteAfter none q) (s ++ [q]) := rfl
    _ = openQuote (some q) [q] := by rw [hopening, openQuote_append, hopen]
    _ = none := hclosing

/-- At a separator or at the end, a piece is complete. -/
theorem pieces_end (h : ∀ c ∈ rest.head?, isSeparator c = true) (acc : List Char) :
    pieces none acc rest = consPiece acc (pieces none [] rest) := by
  cases rest with
  | nil => rfl
  | cons c rest =>
    rw [pieces, pieces, if_pos (h c rfl), if_pos (h c rfl)]
    rfl

/-! ### Written attributes -/

/-- How the value of an attribute is written. -/
inductive ValueForm where
  /-- Not at all, which means `true`. -/
  | bare
  | plain (value : String)
  | quoted (quote : Char) (value : String)

def ValueForm.value : ValueForm → String
  | bare => "true"
  | plain value => value
  | quoted _ value => value

def ValueForm.text : ValueForm → List Char
  | bare => []
  | plain value => '=' :: value.toList
  | quoted quote value => '=' :: quote :: (value.toList ++ [quote])

structure Item where
  key : String
  form : ValueForm

def Item.text (item : Item) : List Char := item.key.toList ++ item.form.text

/-- Neither separators nor quotes stand in a text, nor blanks at its ends. -/
structure Bare (s : List Char) : Prop where
  chars : ∀ c ∈ s, isSeparator c = false ∧ isQuote c = false
  unblanked : Text.Unblanked s

instance (s : List Char) : Decidable (Bare s) :=
  decidable_of_iff (s.all (fun c => !isSeparator c && !isQuote c) = true ∧ Text.Unblanked s) <| by
    simp only [List.all_eq_true, Bool.and_eq_true, Bool.not_eq_true']
    exact ⟨fun h => ⟨h.1, h.2⟩, fun h => ⟨h.chars, h.unblanked⟩⟩

/-- Outside quotes a value is bare; within, only the quote itself may not stand. -/
inductive ValueForm.WellFormed : ValueForm → Prop
  | bare : WellFormed .bare
  | plain {value : String} (h : Bare value.toList) : WellFormed (.plain value)
  | quoted {quote : Char} {value : String} (hquote : isQuote quote = true)
      (h : quote ∉ value.toList) : WellFormed (.quoted quote value)

instance : DecidablePred ValueForm.WellFormed
  | .bare => .isTrue .bare
  | .plain _ => decidable_of_iff _ ⟨.plain, fun | .plain h => h⟩
  | .quoted quote value =>
    decidable_of_iff (isQuote quote = true ∧ quote ∉ value.toList)
      ⟨fun h => .quoted h.1 h.2, fun | .quoted hquote h => ⟨hquote, h⟩⟩

/-- A bare key, which is not empty and holds no `=`, with a well-formed value. -/
structure Item.WellFormed (item : Item) : Prop where
  key_ne_empty : item.key ≠ ""
  key_bare : Bare item.key.toList
  key_chars : '=' ∉ item.key.toList
  form : item.form.WellFormed

instance (item : Item) : Decidable item.WellFormed :=
  decidable_of_iff (item.key ≠ "" ∧ Bare item.key.toList ∧ '=' ∉ item.key.toList ∧
    item.form.WellFormed) ⟨fun h => ⟨h.1, h.2.1, h.2.2.1, h.2.2.2⟩,
      fun h => ⟨h.key_ne_empty, h.key_bare, h.key_chars, h.form⟩⟩

/-- Attributes in a row. Separators follow each, but need not follow the last. -/
inductive InRow : List Item → List Char → Prop
  | nil : InRow [] []
  | last (item : Item) : InRow [item] item.text
  | cons (item : Item) (separators : List Char) (hne : separators ≠ [])
      (h : ∀ c ∈ separators, isSeparator c = true) {items : List Item} {s : List Char}
      (hrow : InRow items s) : InRow (item :: items) (item.text ++ (separators ++ s))

/-- A text lists attributes, perhaps after some separators. -/
def Lists (items : List Item) (text : List Char) : Prop :=
  ∃ separators s, (∀ c ∈ separators, isSeparator c = true) ∧ text = separators ++ s ∧ InRow items s

theorem isBlank_of_isQuote (hq : isQuote q = true) : Text.isBlank q = false := by
  simp only [isQuote, Bool.or_eq_true, decide_eq_true_eq] at hq
  rcases hq with rfl | rfl <;> decide

theorem unquote_quoted (hq : isQuote q = true) (s : List Char) :
    unquote (q :: (s ++ [q])) = s := by
  have hlast : (s ++ [q]).getLast? = some q := List.getLast?_concat
  rw [unquote, quoteBody?, if_pos hq, hlast]
  dsimp only
  rw [if_pos rfl, List.dropLast_concat]

theorem unquote_of_bare (h : ∀ c ∈ s, isQuote c = false) : unquote s = s := by
  cases s with
  | nil => rfl
  | cons c s =>
    have hc := (List.forall_mem_cons.mp h).1
    rw [unquote, quoteBody?, hc, if_neg Bool.false_ne_true]
    exact Text.dropWhile_eq_self fun d hd => h d (List.mem_of_mem_head? hd)

/-- The key and the value around the first `=`. -/
theorem binding_append (h : '=' ∉ s) (rest : List Char) :
    binding (s ++ '=' :: rest) = (Text.trim s, unquote (Text.trim rest)) := by
  have htest : ∀ c ∈ s, decide (c = '=') = false :=
    fun c hc => decide_eq_false fun heq => h (heq ▸ hc)
  rw [binding, Text.cut?_append htest (decide_eq_true rfl)]

theorem binding_of_not_mem (h : '=' ∉ s) : binding s = (Text.trim s, "true".toList) := by
  have htest : ∀ c ∈ s, decide (c = '=') = false :=
    fun c hc => decide_eq_false fun heq => h (heq ▸ hc)
  rw [binding, Text.cut?_eq_none htest]

namespace ValueForm.WellFormed

variable {form : ValueForm}

theorem whole_text (h : form.WellFormed) : Whole form.text := by
  have hequals : Whole ['='] := whole_of_plain (List.forall_mem_singleton.mpr (by decide))
  cases h with
  | bare => exact ⟨.nil, rfl⟩
  | plain h => exact hequals.append (whole_of_plain h.chars)
  | quoted hquote h => exact hequals.append (whole_quoted hquote h)

theorem binding_text (h : form.WellFormed) {key : List Char} (hkey : Text.Unblanked key)
    (hchars : '=' ∉ key) : binding (key ++ form.text) = (key, form.value.toList) := by
  cases h with
  | bare =>
    rw [ValueForm.text, List.append_nil, binding_of_not_mem hchars, hkey.trim_eq]
    rfl
  | plain h =>
    rw [ValueForm.text, binding_append hchars, hkey.trim_eq, h.unblanked.trim_eq,
      unquote_of_bare fun c hc => (h.chars c hc).2]
    rfl
  | @quoted quote value hquote h =>
    have hunblanked : Text.Unblanked (quote :: (value.toList ++ [quote])) := by
      constructor
      · rintro c ⟨⟩
        exact isBlank_of_isQuote hquote
      · rw [← List.cons_append, List.getLast?_concat]
        rintro c ⟨⟩
        exact isBlank_of_isQuote hquote
    rw [ValueForm.text, binding_append hchars, hkey.trim_eq, hunblanked.trim_eq,
      unquote_quoted hquote]
    rfl

end ValueForm.WellFormed

namespace Item.WellFormed

variable {item : Item}

theorem text_ne_nil (h : item.WellFormed) : item.text ≠ [] :=
  List.append_ne_nil_of_left_ne_nil
    (fun hnil => h.key_ne_empty (String.toList_eq_nil_iff.mp hnil)) _

theorem whole_text (h : item.WellFormed) : Whole item.text :=
  (whole_of_plain h.key_bare.chars).append h.form.whole_text

/-- An attribute is one piece. -/
theorem pieces_text (h : item.WellFormed) (hrest : ∀ c ∈ rest.head?, isSeparator c = true) :
    pieces none [] (item.text ++ rest) = item.text :: pieces none [] rest := by
  have hempty : ¬ item.text.isEmpty = true := by simpa using h.text_ne_nil
  rw [h.whole_text.unbroken.pieces_append, h.whole_text.closed, List.nil_append, pieces_end hrest,
    consPiece, if_neg hempty]

theorem binding_text (h : item.WellFormed) :
    binding item.text = (item.key.toList, item.form.value.toList) :=
  h.form.binding_text h.key_bare.unblanked h.key_chars

end Item.WellFormed

theorem head?_append_of_ne_nil {p : Char → Bool} (hne : s ≠ []) (h : ∀ c ∈ s, p c = true)
    (rest : List Char) : ∀ c ∈ (s ++ rest).head?, p c = true := by
  rw [List.head?_append_of_ne_nil _ hne]
  exact fun c hc => h c (List.mem_of_mem_head? hc)

theorem InRow.pieces_eq {items : List Item} (h : InRow items s)
    (hitems : ∀ item ∈ items, item.WellFormed) : pieces none [] s = items.map Item.text := by
  induction h with
  | nil => rfl
  | last item =>
    have hpieces : pieces none [] (item.text ++ []) = [item.text] :=
      (hitems item List.mem_cons_self).pieces_text (by simp)
    rwa [List.append_nil] at hpieces
  | cons item separators hne hsep hrow ih =>
    obtain ⟨hitem, hitems⟩ := List.forall_mem_cons.mp hitems
    rw [hitem.pieces_text (head?_append_of_ne_nil hne hsep _), pieces_separators hsep, ih hitems,
      List.map_cons]

theorem read_of_lists {items : List Item} {text : List Char} (h : Lists items text)
    (hitems : ∀ item ∈ items, item.WellFormed) :
    read text = Dict.ofList (items.map fun item => (item.key, item.form.value)) := by
  obtain ⟨separators, s, hsep, rfl, hrow⟩ := h
  rw [read, pieces_separators hsep, hrow.pieces_eq hitems]
  congr 1
  clear hrow
  induction items with
  | nil => rfl
  | cons item items ih =>
    obtain ⟨hitem, hitems⟩ := List.forall_mem_cons.mp hitems
    have hkey : ¬ item.key.toList.isEmpty = true := by
      simpa [List.isEmpty_iff, String.toList_eq_nil_iff] using hitem.key_ne_empty
    rw [List.map_cons, List.map_cons, List.filterMap_cons, hitem.binding_text, if_neg hkey,
      String.ofList_toList, String.ofList_toList, ih hitems, List.map_cons]

theorem lookup_map_eq_find? (items : List Item) (key : String) :
    (items.map fun item => (item.key, item.form.value)).lookup key =
      (items.find? (·.key = key)).map fun item => item.form.value := by
  induction items with
  | nil => rfl
  | cons item items ih =>
    by_cases h : item.key = key
    · simp [h]
    · have hkey : (key == item.key) = false := beq_false_of_ne (Ne.symm h)
      rw [List.map_cons, List.lookup_cons, hkey, List.find?_cons_of_neg (by simpa using h), ih]

/-- A text that lists attributes is read as the last value of each key. -/
theorem find?_read_of_lists {items : List Item} {text : List Char} (h : Lists items text)
    (hitems : ∀ item ∈ items, item.WellFormed) (key : String) :
    (read text).find? key =
      (items.reverse.find? (·.key = key)).map fun item => item.form.value := by
  rw [read_of_lists h hitems, Dict.find?_ofList, ← List.map_reverse, lookup_map_eq_find?]

/-- Quotes protect separators, `=` and the other quotes, and the last `core` counts. -/
theorem find?_read_of_lists_repeated_key :
    let items : List Item := [⟨"core", .bare⟩, ⟨"roles", .quoted '\x22' "admin, 'a'=b "⟩,
      ⟨"level", .plain "x=1"⟩, ⟨"core", .quoted '\x27' ""⟩]
    let text := ", core roles=\"admin, 'a'=b \",\tlevel=x=1,core='' ".toList
    Lists items text ∧ (∀ item ∈ items, item.WellFormed) ∧
      (read text).find? "core" = some "" ∧ (read text).find? "roles" = some "admin, 'a'=b " := by
  intro items text
  have hall : ∀ {s : List Char} {p : Char → Bool}, s.all p = true → ∀ c ∈ s, p c = true :=
    List.all_eq_true.mp
  have hrow : InRow items "core roles=\"admin, 'a'=b \",\tlevel=x=1,core='' ".toList :=
    .cons _ [' '] (by decide) (hall rfl)
      (.cons _ [',', '\t'] (by decide) (hall rfl)
        (.cons _ [','] (by decide) (hall rfl)
          (.cons _ [' '] (by decide) (hall rfl) .nil)))
  have hlists : Lists items text := ⟨[',', ' '], _, hall rfl, rfl, hrow⟩
  have hitems : ∀ item ∈ items, item.WellFormed := by decide +kernel
  refine ⟨hlists, hitems, ?_, ?_⟩
  · exact find?_read_of_lists hlists hitems "core"
  · exact find?_read_of_lists hlists hitems "roles"

end Attributes

end TagAtlas

import TagAtlas.Proofs.AttributeLists
import TagAtlas.Tag.Basic

/-!
# Attributes written in a row

The text of a tag writes its attributes in a row, each after a space. The row is read back just when
each attribute by itself is, and only the last leaves a quote open. For the converse the separators
are counted: those that a piece holds are no fewer than those of the attribute that it is read as,
and together the pieces hold at most those of the row that do not end a piece. So when every
attribute is read from some piece, nothing is left over, and the pieces are the texts of the
attributes.
-/

namespace TagAtlas.Attributes

variable {quote : Option Char} {c : Char} {acc s u v rest : List Char} {e : String × String}

/-! ### One piece or a cut -/

/-- A text is one piece, or it is cut at its first separator outside quotes. -/
theorem unbroken_or_exists_cut (quote : Option Char) (s : List Char) :
    Unbroken quote s ∨ ∃ u c rest, s = u ++ c :: rest ∧ Unbroken quote u ∧
      openQuote quote u = none ∧ isSeparator c = true := by
  induction s generalizing quote with
  | nil => exact .inl .nil
  | cons c s ih =>
    rcases continues_or_separates quote c with hc | ⟨rfl, hsep⟩
    · rcases ih (quoteAfter quote c) with h | ⟨u, d, rest, rfl, hu, hopen, hd⟩
      · exact .inl (.cons hc h)
      · exact .inr ⟨c :: u, d, rest, rfl, .cons hc hu, hopen, hd⟩
    · exact .inr ⟨[], c, s, rfl, .nil, rfl, hsep⟩

/-! ### The attributes of the pieces -/

/-- The attribute that a piece is read as, if it has a key. -/
def attribute? (piece : List Char) : Option (String × String) :=
  let b := binding piece
  if b.1.isEmpty then none else some (String.ofList b.1, String.ofList b.2)

/-- The attributes that a text lists, as they come. -/
def listed (s : List Char) : List (String × String) := (pieces none [] s).filterMap attribute?

theorem read_eq_ofList_listed (s : List Char) : read s = Dict.ofList (listed s) := by
  rw [read, listed, List.filterMap_map]
  rfl

theorem mem_listed_of_mem_read (h : e ∈ (read s).entries) : e ∈ listed s := by
  have hfind : (listed s).reverse.lookup e.1 = some e.2 := by
    rw [← Dict.find?_ofList, ← read_eq_ofList_listed]
    exact Dict.mem_entries_iff.mp h
  obtain ⟨l₁, l₂, hl, -⟩ := List.lookup_eq_some_iff.mp hfind
  rw [← List.mem_reverse, hl]
  exact List.mem_append_right _ List.mem_cons_self

/-- The empty piece, which is dropped, has no key. -/
theorem filterMap_consPiece (piece : List Char) (ps : List (List Char)) :
    (consPiece piece ps).filterMap attribute? =
      (attribute? piece).toList ++ ps.filterMap attribute? := by
  unfold consPiece
  split
  next h => rw [List.isEmpty_iff.mp h]; rfl
  next => cases h : attribute? piece <;> simp [h]

theorem listed_separator (hc : isSeparator c = true) (s : List Char) :
    listed (c :: s) = listed s :=
  congrArg (List.filterMap attribute?) (pieces_separators (List.forall_mem_singleton.mpr hc))

theorem Unbroken.listed_eq (h : Unbroken none s) : listed s = (attribute? s).toList := by
  have hpieces := h.pieces_append [] []
  rw [List.append_nil, List.nil_append] at hpieces
  rw [listed, hpieces, pieces, filterMap_consPiece, List.filterMap_nil, List.append_nil]

theorem Unbroken.listed_append (h : Unbroken none u) (hopen : openQuote none u = none)
    (hrest : ∀ c ∈ rest.head?, isSeparator c = true) :
    listed (u ++ rest) = (attribute? u).toList ++ listed rest := by
  rw [listed, h.pieces_append, hopen, List.nil_append, pieces_end hrest, filterMap_consPiece]
  rfl

theorem binding_eq_of_attribute? (h : attribute? s = some e) :
    binding s = (e.1.toList, e.2.toList) := by
  obtain ⟨-, ⟨⟩⟩ := Option.ite_none_left_eq_some.mp h
  rw [String.toList_ofList, String.toList_ofList]

theorem mem_of_mem_pieces {piece : List Char} (h : piece ∈ pieces quote acc s) (hc : c ∈ piece) :
    c ∈ acc ++ s := by
  have hcons : ∀ {first : List Char} {ps : List (List Char)}, piece ∈ consPiece first ps →
      piece = first ∨ piece ∈ ps := by
    intro first ps hmem
    unfold consPiece at hmem
    split at hmem
    · exact .inr hmem
    · exact List.mem_cons.mp hmem
  induction s generalizing quote acc with
  | nil => simpa using (hcons h).resolve_right List.not_mem_nil ▸ hc
  | cons d s ih =>
    rcases continues_or_separates quote d with hgo | ⟨rfl, hsep⟩
    · rw [pieces_cons hgo] at h
      simpa using ih h
    · rw [pieces, if_pos hsep] at h
      rcases hcons h with rfl | h
      · exact List.mem_append_left _ hc
      · exact List.mem_append_right _ (List.mem_cons_of_mem d (ih h))

structure KeyText (k : List Char) : Prop where
  unblanked : Text.Unblanked k
  chars : '=' ∉ k

theorem keyText_binding (s : List Char) : KeyText (binding s).1 := by
  by_cases hs : '=' ∈ s
  · obtain ⟨u, v, rfl, hu⟩ := List.eq_append_cons_of_mem hs
    rw [binding_append hu]
    exact ⟨Text.unblanked_trim u, fun hmem => hu ((Text.trim_sublist u).subset hmem)⟩
  · rw [binding_of_not_mem hs]
    exact ⟨Text.unblanked_trim s, fun hmem => hs ((Text.trim_sublist s).subset hmem)⟩

theorem keyText_of_mem_read (h : e ∈ (read s).entries) : KeyText e.1.toList := by
  obtain ⟨piece, -, hpiece⟩ := List.mem_filterMap.mp (mem_listed_of_mem_read h)
  have hkey := keyText_binding piece
  rwa [binding_eq_of_attribute? hpiece] at hkey

/-! ### Blanks at the end -/

theorem isBlank_equals : Text.isBlank '=' = false := by decide

theorem attribute?_append_blanks {b : List Char} (h : ∀ c ∈ b, Text.isBlank c = true)
    (s : List Char) : attribute? (s ++ b) = attribute? s := by
  have hb : '=' ∉ b := fun hmem => by simpa [isBlank_equals] using h '=' hmem
  have hbinding : binding (s ++ b) = binding s := by
    by_cases hs : '=' ∈ s
    · obtain ⟨u, v, rfl, hu⟩ := List.eq_append_cons_of_mem hs
      rw [List.append_assoc, List.cons_append, binding_append hu, binding_append hu,
        Text.trim_append_blanks h]
    · have hboth : '=' ∉ s ++ b := by simp [hs, hb]
      rw [binding_of_not_mem hboth, binding_of_not_mem hs, Text.trim_append_blanks h]
  rw [attribute?, attribute?, hbinding]

theorem isQuote_of_mem_quoteAfter (hquote : ∀ q ∈ quote, isQuote q = true) (c : Char) :
    ∀ q ∈ quoteAfter quote c, isQuote q = true := by
  intro q hq
  unfold quoteAfter at hq
  split at hq
  · obtain ⟨-, ⟨⟩⟩ := Option.ite_none_left_eq_some.mp hq
    exact hquote _ rfl
  · obtain ⟨hc, ⟨⟩⟩ := Option.ite_none_right_eq_some.mp hq
    exact hc

/-- Blanks go on with the piece in an open quote, and otherwise begin pieces without a key only. -/
theorem filterMap_pieces_blanks (hquote : ∀ q ∈ quote, isQuote q = true) (acc : List Char)
    {b : List Char} (h : ∀ c ∈ b, Text.isBlank c = true) :
    (pieces quote acc b).filterMap attribute? = (attribute? acc).toList := by
  induction b generalizing quote acc with
  | nil => rw [pieces, filterMap_consPiece, List.filterMap_nil, List.append_nil]
  | cons c b ih =>
    obtain ⟨hc, hb⟩ := List.forall_mem_cons.mp h
    rcases continues_or_separates quote c with hgo | ⟨rfl, hsep⟩
    · rw [pieces_cons hgo, ih (isQuote_of_mem_quoteAfter hquote c) _ hb,
        attribute?_append_blanks (List.forall_mem_singleton.mpr hc)]
    · rw [pieces, if_pos hsep, filterMap_consPiece, ih (by simp) _ hb]
      exact List.append_nil _

theorem filterMap_pieces_append_blanks (hquote : ∀ q ∈ quote, isQuote q = true)
    (acc s : List Char) {b : List Char} (h : ∀ c ∈ b, Text.isBlank c = true) :
    (pieces quote acc (s ++ b)).filterMap attribute? =
      (pieces quote acc s).filterMap attribute? := by
  induction s generalizing quote acc with
  | nil =>
    rw [List.nil_append, filterMap_pieces_blanks hquote acc h,
      filterMap_pieces_blanks hquote acc (List.forall_mem_nil _)]
  | cons c s ih =>
    rw [List.cons_append]
    rcases continues_or_separates quote c with hgo | ⟨rfl, hsep⟩
    · rw [pieces_cons hgo, pieces_cons hgo, ih (isQuote_of_mem_quoteAfter hquote c)]
    · rw [pieces, pieces, if_pos hsep, if_pos hsep, filterMap_consPiece, filterMap_consPiece,
        ih (by simp)]

theorem read_trimEnd (s : List Char) : read (Text.trimEnd s) = read s := by
  obtain ⟨b, hblanks, hsplit⟩ := Text.exists_trimEnd_append s
  conv_rhs => rw [← hsplit]
  rw [read_eq_ofList_listed, read_eq_ofList_listed, listed, listed,
    filterMap_pieces_append_blanks (by simp) _ _ hblanks]

/-! ### Counting separators -/

/-- The separators of an attribute, and the one that stands before it in a row. -/
def weight (e : String × String) : Nat :=
  e.1.toList.countP isSeparator + e.2.toList.countP isSeparator + 1

def pieceWeight (piece : List Char) : Nat := piece.countP isSeparator + 1

theorem countP_unquote_le (p : Char → Bool) (s : List Char) :
    (unquote s).countP p ≤ s.countP p := by
  have hbody : ∀ body, quoteBody? s = some body → body.countP p ≤ s.countP p := by
    intro body hbody
    cases s with
    | nil => cases hbody
    | cons c s =>
      rw [quoteBody?] at hbody
      split at hbody
      next =>
        split at hbody
        next =>
          obtain ⟨-, ⟨⟩⟩ := Option.ite_none_right_eq_some.mp hbody
          exact ((List.dropLast_sublist s).trans (List.sublist_cons_self c s)).countP_le
        next => cases hbody
      next => cases hbody
  unfold unquote
  split
  next body h => exact hbody body h
  next => exact (List.dropWhile_sublist _).countP_le

/-- Key and value hold nothing that the piece does not hold, apart from the value of a bare key. -/
theorem countP_binding_le {p : Char → Bool} (htrue : "true".toList.countP p = 0) (s : List Char) :
    (binding s).1.countP p + (binding s).2.countP p ≤ s.countP p := by
  by_cases hs : '=' ∈ s
  · obtain ⟨u, v, rfl, hu⟩ := List.eq_append_cons_of_mem hs
    have hkey : (Text.trim u).countP p ≤ u.countP p := (Text.trim_sublist u).countP_le
    have hvalue := (countP_unquote_le p _).trans (Text.trim_sublist v).countP_le
    rw [binding_append hu, List.countP_append, List.countP_cons]
    exact le_trans (Nat.add_le_add hkey hvalue) (by omega)
  · rw [binding_of_not_mem hs, htrue]
    exact (Text.trim_sublist s).countP_le

/-- What is read from a piece holds no other separators than the piece. -/
theorem weight_le_of_attribute? (h : attribute? s = some e) : weight e ≤ pieceWeight s := by
  have hcount := countP_binding_le (p := isSeparator) (by decide) s
  rw [binding_eq_of_attribute? h] at hcount
  exact Nat.succ_le_succ hcount

/-- The pieces hold no other separators than the text. -/
theorem sum_pieceWeight_le (quote : Option Char) (acc s : List Char) :
    ((pieces quote acc s).map pieceWeight).sum ≤
      acc.countP isSeparator + s.countP isSeparator + 1 := by
  have hcons : ∀ piece ps, ((consPiece piece ps).map pieceWeight).sum ≤
      pieceWeight piece + (ps.map pieceWeight).sum := by
    intro piece ps
    unfold consPiece
    split
    · exact Nat.le_add_left _ _
    · rw [List.map_cons, List.sum_cons]
  induction s generalizing quote acc with
  | nil => exact hcons acc []
  | cons c s ih =>
    rcases continues_or_separates quote c with hgo | ⟨rfl, hsep⟩
    · have hrest := ih (quoteAfter quote c) (acc ++ [c])
      rw [List.countP_append, List.countP_singleton] at hrest
      rw [pieces_cons hgo, List.countP_cons]
      omega
    · have hrest := ih none []
      have hpiece := hcons acc (pieces none [] s)
      rw [pieceWeight] at hpiece
      rw [List.countP_nil] at hrest
      rw [pieces, if_pos hsep, List.countP_cons_of_pos hsep]
      omega

/-- Different attributes of a text stand in different pieces. -/
theorem sum_weight_le {l : List (String × String)} (hl : l.Nodup) (h : l ⊆ listed s) :
    (l.map weight).sum ≤ s.countP isSeparator + 1 := by
  have hlisted : ∀ ps : List (List Char),
      ((ps.filterMap attribute?).map weight).sum ≤ (ps.map pieceWeight).sum := by
    intro ps
    induction ps with
    | nil => rfl
    | cons p ps ih =>
      rw [List.filterMap_cons]
      split
      next => exact ih.trans (Nat.le_add_left _ _)
      next e he => exact Nat.add_le_add (weight_le_of_attribute? he) ih
  obtain ⟨l', hperm, hsub⟩ := List.subperm_of_subset hl h
  calc (l.map weight).sum
      = (l'.map weight).sum := ((hperm.map weight).sum_eq).symm
    _ ≤ ((listed s).map weight).sum := (hsub.map weight).sum_le_sum fun _ _ => Nat.zero_le _
    _ ≤ ((pieces none [] s).map pieceWeight).sum := hlisted _
    _ ≤ s.countP isSeparator + 1 := by
      have hsum := sum_pieceWeight_le none [] s
      rwa [List.countP_nil, Nat.zero_add] at hsum

/-! ### Rows -/

def written (e : String × String) : List Char := (Tag.attributeText e.1 e.2).toList

/-- Attributes in a row, each after a space. -/
def row (l : List (String × String)) : List Char := l.flatMap fun e => ' ' :: written e

theorem row_cons (e : String × String) (l : List (String × String)) :
    row (e :: l) = ' ' :: (written e ++ row l) := rfl

theorem isSeparator_space : isSeparator ' ' = true := by decide

theorem isSeparator_head?_row (l : List (String × String)) :
    ∀ c ∈ (row l).head?, isSeparator c = true := by
  cases l with
  | nil => nofun
  | cons e l =>
    rintro c ⟨⟩
    exact isSeparator_space

/-- The value follows `=`, perhaps in quotes. -/
theorem exists_written_eq (e : String × String) : ∃ v, written e = e.1.toList ++ '=' :: v ∧
    ∀ p : Char → Bool, p '\x22' = false → v.countP p = e.2.toList.countP p := by
  unfold written Tag.attributeText
  split
  · refine ⟨'\x22' :: (e.2.toList ++ ['\x22']), by simp [String.toList_append], ?_⟩
    intro p hp
    simp [List.countP_append, hp]
  · exact ⟨e.2.toList, by simp [String.toList_append], fun _ _ => rfl⟩

/-- Attributes of one line are written on one line. -/
theorem newline_not_mem_written (hs : '\n' ∉ s) (h : e ∈ (read s).entries) : '\n' ∉ written e := by
  obtain ⟨piece, hmem, hpiece⟩ := List.mem_filterMap.mp (mem_listed_of_mem_read h)
  obtain ⟨v, hwritten, hv⟩ := exists_written_eq e
  have hnone : piece.countP (· = '\n') = 0 := by
    refine List.countP_eq_zero.mpr fun c hc heq => hs ?_
    rw [← of_decide_eq_true heq]
    exact mem_of_mem_pieces hmem hc
  have hcount := countP_binding_le (p := (· = '\n')) (by decide) piece
  rw [hnone, binding_eq_of_attribute? hpiece, Nat.le_zero, Nat.add_eq_zero_iff] at hcount
  have hall : (written e).countP (· = '\n') = 0 := by
    rw [hwritten, List.countP_append, List.countP_cons_of_neg (by decide), hv _ (by decide),
      hcount.1, hcount.2]
  exact fun hmem => List.countP_eq_zero.mp hall _ hmem (decide_eq_true rfl)

theorem countP_written (e : String × String) : (written e).countP isSeparator + 1 = weight e := by
  obtain ⟨v, hwritten, hv⟩ := exists_written_eq e
  have hequals : ¬ isSeparator '=' = true := by decide
  rw [hwritten, List.countP_append, List.countP_cons_of_neg hequals, hv _ (by decide), weight]

theorem countP_row (l : List (String × String)) :
    (row l).countP isSeparator = (l.map weight).sum := by
  induction l with
  | nil => rfl
  | cons e l ih =>
    rw [row_cons, List.countP_cons_of_pos isSeparator_space, List.countP_append, ih, List.map_cons,
      List.sum_cons, ← countP_written]
    omega

/-- The text of an attribute is one piece, which is read as the attribute. -/
structure Alone (e : String × String) : Prop where
  unbroken : Unbroken none (written e)
  attribute?_eq : attribute? (written e) = some e

/-- A piece that begins like an attribute has its key, or one that is only the beginning of it. -/
theorem key_not_lt_of_attribute? (hkey : KeyText e.1.toList) (h : written e ++ s = u ++ c :: rest)
    (hc : isSeparator c = true) {e' : String × String} (hu : attribute? u = some e') :
    ¬ e.1 < e'.1 := by
  have hne : c ≠ '=' := by
    rintro rfl
    cases hc
  have hentry : e'.1.toList = (binding u).1 := by rw [binding_eq_of_attribute? hu]
  obtain ⟨v, hwritten, -⟩ := exists_written_eq e
  rw [hwritten, List.append_assoc, List.cons_append] at h
  rw [String.lt_iff_toList_lt, hentry]
  rcases List.append_eq_append_iff.mp h with ⟨a, rfl, ha⟩ | ⟨a, hk, ha⟩
  · cases a with
    | nil => exact absurd (List.head_eq_of_cons_eq ha).symm hne
    | cons d a =>
      obtain rfl := List.head_eq_of_cons_eq ha
      rw [binding_append hkey.chars, hkey.unblanked.trim_eq]
      exact lt_irrefl _
  · have hchars : '=' ∉ u := fun hmem => hkey.chars (hk ▸ List.mem_append_left a hmem)
    have hhead : ∀ c ∈ u.head?, Text.isBlank c = false := by
      intro c hc
      refine hkey.unblanked.head c ?_
      rw [hk, List.head?_append, Option.mem_def.mp hc, Option.some_or]
      rfl
    have hprefix : Text.trim u <+: e.1.toList := by
      rw [Text.trim, Text.trimStart, Text.dropWhile_eq_self hhead, hk]
      exact (Text.trimEnd_isPrefix u).trans (List.prefix_append u a)
    rw [binding_of_not_mem hchars]
    exact hprefix.le

/-- Two beginnings of a text that a separator ends are the same when they hold equally many. -/
theorem eq_of_countP_eq {r : List Char} (h : s ++ r = u ++ c :: rest) (hc : isSeparator c = true)
    (hr : ∀ d ∈ r.head?, isSeparator d = true)
    (hcount : u.countP isSeparator = s.countP isSeparator) : u = s ∧ r = c :: rest := by
  rcases List.append_eq_append_iff.mp h with ⟨a, rfl, ha⟩ | ⟨a, rfl, ha⟩
  · cases a with
    | nil => exact ⟨List.append_nil _, ha⟩
    | cons d a =>
      have hd : isSeparator d = true := hr d (by rw [ha]; rfl)
      rw [List.countP_append, List.countP_cons_of_pos hd] at hcount
      omega
  · cases a with
    | nil => exact ⟨(List.append_nil _).symm, ha.symm⟩
    | cons d a =>
      obtain rfl := List.head_eq_of_cons_eq ha
      rw [List.countP_append, List.countP_cons_of_pos hc] at hcount
      omega

theorem nodup_of_keys {l : List (String × String)} (h : l.Pairwise (·.1 < ·.1)) : l.Nodup :=
  h.imp fun hlt heq => absurd (congrArg Prod.fst heq) (ne_of_lt hlt)

/-- When every attribute is read, the first piece of their row is the first attribute. -/
theorem eq_written_of_cut {l : List (String × String)} (hl : (e :: l).Pairwise (·.1 < ·.1))
    (hkey : KeyText e.1.toList) (hcut : written e ++ row l = u ++ c :: rest)
    (hc : isSeparator c = true) (hread : e :: l ⊆ (attribute? u).toList ++ listed rest) :
    u = written e ∧ row l = c :: rest ∧ attribute? u = some e ∧ l ⊆ listed rest := by
  obtain ⟨hfirst, hmore⟩ := List.pairwise_cons.mp hl
  have hcount : (written e).countP isSeparator + (row l).countP isSeparator =
      u.countP isSeparator + (rest.countP isSeparator + 1) := by
    rw [← List.countP_append, hcut, List.countP_append, List.countP_cons_of_pos hc]
  have hweight := countP_written e
  rw [countP_row] at hcount
  -- Without the first piece the others hold too few separators.
  have hused : ¬ e :: l ⊆ listed rest := by
    intro hsub
    have hsum := sum_weight_le (nodup_of_keys hl) hsub
    rw [List.map_cons, List.sum_cons] at hsum
    omega
  have hentry : attribute? u = some e := by
    cases hu : attribute? u with
    | none =>
      rw [hu, Option.toList_none, List.nil_append] at hread
      exact absurd hread hused
    | some e' =>
      rw [hu, Option.toList_some, List.singleton_append] at hread
      have hmem : e' ∈ e :: l := by
        by_contra hmem
        refine hused fun d hd => (List.mem_cons.mp (hread hd)).resolve_left ?_
        rintro rfl
        exact hmem hd
      rcases List.mem_cons.mp hmem with rfl | hmem
      · rfl
      · exact absurd (hfirst e' hmem) (key_not_lt_of_attribute? hkey hcut hc hu)
  have hrest : l ⊆ listed rest := by
    intro d hd
    have hmem := hread (List.mem_cons_of_mem e hd)
    rw [hentry, Option.toList_some, List.singleton_append] at hmem
    refine (List.mem_cons.mp hmem).resolve_left ?_
    rintro rfl
    exact lt_irrefl _ (hfirst d hd)
  have hsum := sum_weight_le (nodup_of_keys hmore) hrest
  have hpiece := weight_le_of_attribute? hentry
  rw [pieceWeight] at hpiece
  have hsame : u.countP isSeparator = (written e).countP isSeparator := by omega
  obtain ⟨hu, hrow⟩ := eq_of_countP_eq hcut hc (isSeparator_head?_row l) hsame
  exact ⟨hu, hrow, hentry, hrest⟩

theorem alone_of_subset_listed {l : List (String × String)} (hl : l.Pairwise (·.1 < ·.1))
    (hkeys : ∀ e ∈ l, KeyText e.1.toList) (hread : l ⊆ listed (row l)) :
    (∀ e ∈ l, Alone e) ∧ ∀ e ∈ l.dropLast, openQuote none (written e) = none := by
  induction l with
  | nil => exact ⟨nofun, nofun⟩
  | cons e l ih =>
    rw [row_cons, listed_separator isSeparator_space] at hread
    obtain ⟨hkey, hkeys⟩ := List.forall_mem_cons.mp hkeys
    rcases unbroken_or_exists_cut none (written e ++ row l) with
      h | ⟨u, c, rest, hcut, hu, hopen, hc⟩
    · -- One piece is one attribute.
      rw [h.listed_eq] at hread
      have hentry : attribute? (written e ++ row l) = some e :=
        Option.mem_toList.mp (hread List.mem_cons_self)
      have hnil : l = [] := by
        refine List.eq_nil_iff_forall_not_mem.mpr fun d hd => ?_
        have hsame := Option.mem_toList.mp (hread (List.mem_cons_of_mem e hd))
        rw [hentry] at hsame
        obtain rfl := Option.some.inj hsame
        exact lt_irrefl _ ((List.pairwise_cons.mp hl).1 e hd)
      subst hnil
      rw [row, List.flatMap_nil, List.append_nil] at h hentry
      exact ⟨List.forall_mem_singleton.mpr ⟨h, hentry⟩, nofun⟩
    · have hsplit : listed (written e ++ row l) = (attribute? u).toList ++ listed rest := by
        rw [hcut, hu.listed_append hopen (by rintro d ⟨⟩; exact hc), listed_separator hc]
      rw [hsplit] at hread
      obtain ⟨rfl, hrow, hentry, hrest⟩ := eq_written_of_cut hl hkey hcut hc hread
      rw [← listed_separator hc, ← hrow] at hrest
      obtain ⟨halone, hclosed⟩ := ih hl.of_cons hkeys hrest
      refine ⟨List.forall_mem_cons.mpr ⟨⟨hu, hentry⟩, halone⟩, ?_⟩
      have hne : l ≠ [] := by
        rintro rfl
        cases hrow
      rw [List.dropLast_cons_of_ne_nil hne]
      exact List.forall_mem_cons.mpr ⟨hopen, hclosed⟩

/-- Attributes that are read alone and leave no quote open are read from their row. -/
theorem listed_row {l : List (String × String)} (h : ∀ e ∈ l, Alone e)
    (hclosed : ∀ e ∈ l.dropLast, openQuote none (written e) = none) : listed (row l) = l := by
  induction l with
  | nil => rfl
  | cons e l ih =>
    obtain ⟨he, hl⟩ := List.forall_mem_cons.mp h
    rw [row_cons, listed_separator isSeparator_space]
    by_cases hnil : l = []
    · subst hnil
      rw [row, List.flatMap_nil, List.append_nil, he.unbroken.listed_eq, he.attribute?_eq,
        Option.toList_some]
    · rw [List.dropLast_cons_of_ne_nil hnil] at hclosed
      obtain ⟨hopen, hclosed⟩ := List.forall_mem_cons.mp hclosed
      rw [he.unbroken.listed_append hopen (isSeparator_head?_row l), he.attribute?_eq,
        ih hl hclosed]
      rfl

/-! ### Attributes that survive -/

/-- Each attribute is read back by itself, and only the last may leave a quote open. -/
structure Rewritable (d : Dict String) : Prop where
  alone : ∀ e ∈ d.entries, read (written e) = Dict.empty.insert e.1 e.2
  closed : ∀ e ∈ d.entries.dropLast, openQuote none (written e) = none

theorem alone_iff (hkey : KeyText e.1.toList) :
    Alone e ↔ read (written e) = Dict.empty.insert e.1 e.2 := by
  constructor
  · intro h
    rw [read_eq_ofList_listed, h.unbroken.listed_eq, h.attribute?_eq]
    rfl
  · intro h
    have hread : [e] ⊆ listed (row [e]) := by
      rw [row_cons, row, List.flatMap_nil, List.append_nil, listed_separator isSeparator_space]
      have he : e ∈ listed (written e) := mem_listed_of_mem_read (h ▸ List.mem_singleton_self e)
      exact List.cons_subset.mpr ⟨he, List.nil_subset _⟩
    exact (alone_of_subset_listed (List.pairwise_singleton _ e)
      (List.forall_mem_singleton.mpr hkey) hread).1 e (List.mem_singleton_self e)

/-- A row of attributes is read back just when the attributes survive one by one. -/
theorem read_row_eq_iff {d : Dict String} (hkeys : ∀ e ∈ d.entries, KeyText e.1.toList) :
    read (row d.entries) = d ↔ Rewritable d := by
  constructor
  · intro h
    have hread : d.entries ⊆ listed (row d.entries) := by
      intro e he
      apply mem_listed_of_mem_read
      rwa [h]
    obtain ⟨halone, hclosed⟩ :=
      alone_of_subset_listed (List.pairwise_map.mp d.ordered) hkeys hread
    exact ⟨fun e he => (alone_iff (hkeys e he)).mp (halone e he), hclosed⟩
  · intro h
    have halone : ∀ e ∈ d.entries, Alone e :=
      fun e he => (alone_iff (hkeys e he)).mpr (h.alone e he)
    rw [read_eq_ofList_listed, listed_row halone h.closed, Dict.ofList_entries]

/-! ### Plain attributes -/

/-- A bare key, and a value without tabs, quotes and blanks at its ends. -/
structure Plain (e : String × String) : Prop where
  key_ne_empty : e.1 ≠ ""
  key_bare : Bare e.1.toList
  key_chars : '=' ∉ e.1.toList
  value_chars : ∀ c ∈ e.2.toList, c ≠ '\t' ∧ isQuote c = false
  value_unblanked : Text.Unblanked e.2.toList

/-- What is written of a plain attribute is well-formed, with or without quotes. -/
theorem Plain.exists_item (h : Plain e) : ∃ item : Item, item.WellFormed ∧
    item.text = written e ∧ item.key = e.1 ∧ item.form.value = e.2 := by
  unfold written Tag.attributeText
  split
  next =>
    have hvalue : '\x22' ∉ e.2.toList := fun hmem => absurd (h.value_chars _ hmem).2 (by decide)
    refine ⟨⟨e.1, .quoted '\x22' e.2⟩, ⟨h.key_ne_empty, h.key_bare, h.key_chars, ?_⟩, ?_, rfl, rfl⟩
    · exact .quoted (by decide) hvalue
    · simp [Item.text, ValueForm.text, String.toList_append]
  next hplain =>
    refine ⟨⟨e.1, .plain e.2⟩, ⟨h.key_ne_empty, h.key_bare, h.key_chars, ?_⟩, ?_, rfl, rfl⟩
    · refine .plain ⟨fun c hc => ⟨?_, (h.value_chars c hc).2⟩, h.value_unblanked⟩
      simp only [List.any_eq_true, not_exists, not_and, Bool.or_eq_true, decide_eq_true_eq,
        not_or] at hplain
      simp [isSeparator, hplain c hc, (h.value_chars c hc).1]
    · simp [Item.text, ValueForm.text, String.toList_append]

theorem rewritable_of_plain {d : Dict String} (h : ∀ e ∈ d.entries, Plain e) : Rewritable d where
  alone := by
    intro e he
    obtain ⟨item, hitem, htext, hkey, hvalue⟩ := (h e he).exists_item
    have hlists : Lists [item] (written e) := ⟨[], item.text, nofun, htext.symm, .last item⟩
    rw [read_of_lists hlists (List.forall_mem_singleton.mpr hitem), List.map_singleton, hkey,
      hvalue]
    rfl
  closed := by
    intro e he
    obtain ⟨item, hitem, htext, -, -⟩ := (h e (List.mem_of_mem_dropLast he)).exists_item
    rw [← htext, hitem.whole_text.closed]

end TagAtlas.Attributes

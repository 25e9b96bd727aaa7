import TagAtlas.Json.Printer
import TagAtlas.Json.Reader

/-!
# Reading printed texts and numbers

A printed text reads back as itself. A number is read up to the first character that no number
continues with, so what is cut into tokens by itself is cut alike in front of such a character. A
printed natural number reads back as itself when it fits in 64 bits.
-/

namespace TagAtlas.Json

/-- What was read and what is left, without the proof that it is no longer. -/
def bare {α : Type} {s : List Char} (p : α × Rest s) : α × List Char := (p.1, p.2.1)

theorem map_bare_eq_some_iff {α : Type} {s : List Char} {r : Option (α × Rest s)}
    {p : α × List Char} : r.map bare = some p ↔ ∃ q, r = some q ∧ q.1 = p.1 ∧ q.2.1 = p.2 := by
  simp only [Option.map_eq_some_iff, bare, Prod.ext_iff]

/-! ### Texts -/

theorem hexValue?_hexDigit : ∀ n < 16, hexValue? (hexDigit n) = some n := by decide

theorem escapeChar_cases (c : Char) :
    (∃ l, escapeChar c = ['\\', l] ∧ escapeLetter? l = some c ∧ l ≠ 'u') ∨
      (c.toNat < 32 ∧ escapeChar c =
        ['\\', 'u', '0', '0', hexDigit (c.toNat / 16), hexDigit (c.toNat % 16)]) ∨
      (32 ≤ c.toNat ∧ c ≠ '\x22' ∧ c ≠ '\\' ∧ escapeChar c = [c]) := by
  have hchar : ∀ n, c.toNat = n → c = Char.ofNat n := by
    rintro n rfl
    exact (Char.ofNat_toNat c).symm
  unfold escapeChar
  split
  next h => exact .inl ⟨_, rfl, by rw [h]; rfl, by decide⟩
  next hquote =>
  split
  next h => exact .inl ⟨_, rfl, by rw [h]; rfl, by decide⟩
  next hslash =>
  split
  next h => exact .inl ⟨_, rfl, by rw [h]; rfl, by decide⟩
  split
  next h => exact .inl ⟨_, rfl, by rw [h]; rfl, by decide⟩
  split
  next h => exact .inl ⟨_, rfl, by rw [h]; rfl, by decide⟩
  split
  next h => exact .inl ⟨_, rfl, by rw [hchar _ h]; rfl, by decide⟩
  split
  next h => exact .inl ⟨_, rfl, by rw [hchar _ h]; rfl, by decide⟩
  split
  next h => exact .inr (.inl ⟨h, rfl⟩)
  next h => exact .inr (.inr ⟨by omega, hquote, hslash, rfl⟩)

variable {s text rest : List Char} {pieces : List Piece}

theorem readString?_escapeChar (c : Char) (h : (readString? s).map bare = some (pieces, rest)) :
    ∃ piece, (readString? (escapeChar c ++ s)).map bare = some (piece :: pieces, rest) ∧
      spelledBy? (piece :: pieces) = (spelledBy? pieces).map (c :: ·) := by
  obtain ⟨p, hp, rfl, rfl⟩ := map_bare_eq_some_iff.mp h
  obtain ⟨l, hesc, hletter, hu⟩ | ⟨hlow, hesc⟩ | ⟨hlow, hquote, hslash, hesc⟩ := escapeChar_cases c
  · refine ⟨.char c, ?_, rfl⟩
    rw [hesc, List.cons_append, List.cons_append, List.nil_append,
      readString?.eq_4 _ _ (fun _ _ _ _ _ hl _ => hu hl), hletter, hp]
    rfl
  · have hhigh := hexValue?_hexDigit (c.toNat / 16) (by omega)
    have hrest := hexValue?_hexDigit (c.toNat % 16) (Nat.mod_lt _ (by omega))
    have hquad : hexQuad? '0' '0' (hexDigit (c.toNat / 16)) (hexDigit (c.toNat % 16)) =
        some c.toNat := by
      have hzero : hexValue? '0' = some 0 := by decide
      simp only [hexQuad?, hzero, hhigh, hrest, Option.bind_eq_bind, Option.bind_some,
        Option.pure_def]
      exact congrArg some (by omega)
    have hnotLow : ¬ isLowHalf c.toNat = true := by simp [isLowHalf]; omega
    have hnotHigh : ¬ isHighHalf c.toNat = true := by simp [isHighHalf]; omega
    refine ⟨.unit c.toNat, ?_, ?_⟩
    · rw [hesc]
      simp only [List.cons_append, List.nil_append]
      rw [readString?.eq_3, hquad]
      simp only [hp, Option.map_some, bare]
    · rw [spelledBy?.eq_def]
      simp only [if_neg hnotLow, if_neg hnotHigh, Char.ofNat_toNat]
  · refine ⟨.char c, ?_, rfl⟩
    rw [hesc, List.cons_append, List.nil_append, readString?.eq_5 _ _ hquote
      (fun _ _ _ _ _ hc _ => hslash hc) (fun _ _ hc _ => hslash hc), hp, if_neg]
    · rfl
    · simp only [Bool.or_eq_true, decide_eq_true_eq, not_or]
      exact ⟨by omega, hslash⟩

theorem readString?_escaped (text rest : List Char) : ∃ pieces,
    (readString? (text.flatMap escapeChar ++ '\x22' :: rest)).map bare = some (pieces, rest) ∧
      spelledBy? pieces = some text := by
  induction text with
  | nil => exact ⟨[], rfl, rfl⟩
  | cons c text ih =>
    obtain ⟨pieces, hread, hspelled⟩ := ih
    obtain ⟨piece, hpiece, hmore⟩ := readString?_escapeChar c hread
    rw [List.flatMap_cons, List.append_assoc]
    exact ⟨piece :: pieces, hpiece, by rw [hmore, hspelled, Option.map_some]⟩

theorem tokens?_quoted (text : String) (rest : List Char) :
    tokens? ((quoted text).toList ++ rest) =
      (tokens? rest).map (.value (.string text) :: ·) := by
  obtain ⟨pieces, hread, hspelled⟩ := readString?_escaped text.toList rest
  obtain ⟨p, hp, hpieces, hrest⟩ := map_bare_eq_some_iff.mp hread
  unfold quoted
  rw [String.toList_ofList, List.cons_append, List.cons_append, List.append_assoc,
    List.cons_append, List.nil_append, tokens?.eq_15, hp]
  simp only [hpieces, hrest, Token.ofPieces, hspelled, String.ofList_toList]

/-! ### Numbers with something after them -/

/-- No number continues with the first character. -/
def EndsNumber (s : List Char) : Prop :=
  ∀ c ∈ s.head?, c.isDigit = false ∧ c ∉ ['.', 'e', 'E', '+', '-']

def followed {α : Type} {s : List Char} (rest : List Char) (p : α × Rest s) : α × List Char :=
  (p.1, p.2.1 ++ rest)

theorem map_bare_eq_followed_iff {α : Type} {t : List Char} {r : Option (α × Rest t)}
    {p : α × Rest s} : r.map bare = some (followed rest p) ↔
      ∃ q, r = some q ∧ q.1 = p.1 ∧ q.2.1 = p.2.1 ++ rest := map_bare_eq_some_iff

/-- A mark inside a number is not the first character of what follows. -/
theorem EndsNumber.exists_cons {c : Char} {t : List Char} (hrest : EndsNumber rest)
    (hc : c ∈ ['.', 'e', 'E', '+', '-']) (h : s ++ rest = c :: t) : ∃ s', s = c :: s' := by
  cases s with
  | nil =>
    rw [List.nil_append] at h
    exact absurd hc (hrest c (h ▸ rfl)).2
  | cons d s => exact ⟨s, by rw [(List.cons.inj h).1]⟩

theorem takeDigits_append (s : List Char) (hrest : EndsNumber rest) :
    bare (takeDigits (s ++ rest)) = followed rest (takeDigits s) := by
  induction s with
  | nil =>
    cases rest with
    | nil => rfl
    | cons c rest => simp [takeDigits, (hrest c rfl).1, bare, followed]
  | cons c s ih =>
    obtain ⟨hdigits, hleft⟩ := Prod.mk.inj ih
    by_cases hc : c.isDigit = true
    · simp only [List.cons_append, takeDigits, hc, if_true, bare, followed, Rest.after]
      rw [hdigits, hleft]
    · simp [takeDigits, hc, bare, followed]

theorem takeFraction?_append (s : List Char) (hrest : EndsNumber rest) :
    (takeFraction? (s ++ rest)).map bare = (takeFraction? s).map (followed rest) := by
  by_cases hpoint : ∃ s', s = '.' :: s'
  · obtain ⟨s, rfl⟩ := hpoint
    obtain ⟨hdigits, hleft⟩ := Prod.mk.inj (takeDigits_append s hrest)
    simp only [List.cons_append, takeFraction?, hdigits]
    split
    · rfl
    · simp [bare, followed, Rest.after, hleft]
  · rw [takeFraction?.eq_2 s fun s' hs => hpoint ⟨s', hs⟩,
      takeFraction?.eq_2 _ fun t ht => hpoint (hrest.exists_cons (by simp) ht)]
    rfl

theorem takePower?_append (s : List Char) (hrest : EndsNumber rest) :
    (takePower? (s ++ rest)).map bare = (takePower? s).map (followed rest) := by
  by_cases hplus : ∃ s', s = '+' :: s'
  · obtain ⟨s, rfl⟩ := hplus
    obtain ⟨hdigits, hleft⟩ := Prod.mk.inj (takeDigits_append s hrest)
    simp only [List.cons_append, takePower?, hdigits]
    split
    · rfl
    · simp [bare, followed, Rest.after, hleft]
  by_cases hminus : ∃ s', s = '-' :: s'
  · obtain ⟨s, rfl⟩ := hminus
    obtain ⟨hdigits, hleft⟩ := Prod.mk.inj (takeDigits_append s hrest)
    simp only [List.cons_append, takePower?, hdigits]
    split
    · rfl
    · simp [bare, followed, Rest.after, hleft]
  · obtain ⟨hdigits, hleft⟩ := Prod.mk.inj (takeDigits_append s hrest)
    rw [takePower?.eq_3 s (fun s' hs => hplus ⟨s', hs⟩) fun s' hs => hminus ⟨s', hs⟩,
      takePower?.eq_3 _ (fun t ht => hplus (hrest.exists_cons (by simp) ht))
        fun t ht => hminus (hrest.exists_cons (by simp) ht)]
    simp only [hdigits]
    split
    · rfl
    · simp [bare, followed, hleft]

theorem takeExponent?_append (s : List Char) (hrest : EndsNumber rest) :
    (takeExponent? (s ++ rest)).map bare = (takeExponent? s).map (followed rest) := by
  -- the letter is not looked at again, so both letters are read alike
  have hletter : ∀ (c : Char) (s : List Char),
      (((takePower? (s ++ rest)).map fun p => (some p.1, p.2.after c)).map bare) =
        (((takePower? s).map fun p => (some p.1, p.2.after c)).map (followed rest)) := by
    intro c s
    have hpower := congrArg (Option.map fun p => (some p.1, p.2)) (takePower?_append s hrest)
    rw [Option.map_map, Option.map_map] at hpower ⊢
    exact hpower
  by_cases hlower : ∃ s', s = 'e' :: s'
  · obtain ⟨s, rfl⟩ := hlower
    exact hletter 'e' s
  by_cases hupper : ∃ s', s = 'E' :: s'
  · obtain ⟨s, rfl⟩ := hupper
    exact hletter 'E' s
  · rw [takeExponent?.eq_3 s (fun s' hs => hlower ⟨s', hs⟩) fun s' hs => hupper ⟨s', hs⟩,
      takeExponent?.eq_3 _ (fun t ht => hlower (hrest.exists_cons (by simp) ht))
        fun t ht => hupper (hrest.exists_cons (by simp) ht)]
    rfl

/-- A number is read up to where it ends, whatever follows. -/
theorem readNumber?_append (negative : Bool) (d : Char) (s : List Char) (hrest : EndsNumber rest) :
    (readNumber? negative d (s ++ rest)).map bare =
      (readNumber? negative d s).map (followed rest) := by
  obtain ⟨hdigits, hleft⟩ := Prod.mk.inj (takeDigits_append s hrest)
  have hfraction := takeFraction?_append (takeDigits s).2.1 hrest
  change (takeDigits (s ++ rest)).2.1 = (takeDigits s).2.1 ++ rest at hleft
  rw [← hleft] at hfraction
  unfold readNumber?
  simp only [hdigits]
  split
  · rfl
  cases hf : takeFraction? (takeDigits s).2.1 with
  | none =>
    rw [hf, Option.map_none, Option.map_eq_none_iff] at hfraction
    rw [hfraction]
    rfl
  | some f =>
    rw [hf, Option.map_some] at hfraction
    obtain ⟨f', hf', hplaces, hleft'⟩ := map_bare_eq_followed_iff.mp hfraction
    have hexponent := takeExponent?_append f.2.1 hrest
    rw [← hleft'] at hexponent
    simp only [hf', hplaces]
    cases he : takeExponent? f.2.1 with
    | none =>
      rw [he, Option.map_none, Option.map_eq_none_iff] at hexponent
      rw [hexponent]
      rfl
    | some e =>
      rw [he, Option.map_some] at hexponent
      obtain ⟨e', he', hpower, hleft''⟩ := map_bare_eq_followed_iff.mp hexponent
      simp only [he', hpower, Option.map_some]
      exact congrArg some (Prod.ext rfl hleft'')

/-! ### Tokens with something after them -/

theorem readString?_append {s : List Char} {p : List Piece × Rest s} (h : readString? s = some p)
    (rest : List Char) : (readString? (s ++ rest)).map bare = some (followed rest p) := by
  fun_induction readString? s
  case case2 s =>
    cases h
    rfl
  case case4 hunit ih =>
    obtain ⟨q, hq, rfl⟩ := Option.map_eq_some_iff.mp h
    obtain ⟨q', hq', hpieces, hleft⟩ := map_bare_eq_followed_iff.mp (ih hq)
    simp only [List.cons_append, readString?, hunit, hq', Option.map_some, bare, followed, hpieces,
      hleft]
  case case6 c s hu e hletter ih =>
    obtain ⟨q, hq, rfl⟩ := Option.map_eq_some_iff.mp h
    obtain ⟨q', hq', hpieces, hleft⟩ := map_bare_eq_followed_iff.mp (ih hq)
    have hne : c ≠ 'u' := by
      rintro rfl
      cases hletter
    rw [List.cons_append, List.cons_append, readString?.eq_4 _ _ fun _ _ _ _ _ hc _ => hne hc,
      hletter]
    simp only [hq', Option.map_some, bare, followed, hpieces, hleft]
  case case8 c s hquote _ _ hplain ih =>
    obtain ⟨q, hq, rfl⟩ := Option.map_eq_some_iff.mp h
    obtain ⟨q', hq', hpieces, hleft⟩ := map_bare_eq_followed_iff.mp (ih hq)
    have hslash : c ≠ '\\' := by
      rintro rfl
      simp at hplain
    rw [List.cons_append, readString?.eq_5 _ _ hquote (fun _ _ _ _ _ hc _ => hslash hc)
      fun _ _ hc _ => hslash hc, if_neg hplain]
    simp only [hq', Option.map_some, bare, followed, Rest.after, hpieces, hleft]
  all_goals cases h

theorem tokens?_of_isDigit {d : Char} (hd : d.isDigit = true) (s : List Char) :
    tokens? (d :: s) = ((readNumber? false d s).map bare).bind fun p =>
      (tokens? p.2).map (.value p.1 :: ·) := by
  have hne : ∀ c : Char, c.isDigit = false → d ≠ c := by
    rintro c hc rfl
    simp [hd] at hc
  rw [tokens?.eq_17 d s (hne _ rfl) (hne _ rfl) (hne _ rfl) (hne _ rfl) (hne _ rfl) (hne _ rfl)
    (hne _ rfl) (hne _ rfl) (hne _ rfl) (hne _ rfl) (fun _ h => absurd h (hne _ rfl))
    (fun _ h => absurd h (hne _ rfl)) (fun _ h => absurd h (hne _ rfl)) (hne _ rfl)
    (fun _ _ h => absurd h (hne _ rfl)), if_pos hd]
  cases readNumber? false d s <;> rfl

/-- A text that is cut into tokens by itself is cut alike in front of what continues no number. -/
theorem tokens?_append {s : List Char} {ts : List Token} (h : tokens? s = some ts)
    (hrest : EndsNumber rest) : tokens? (s ++ rest) = (tokens? rest).map (ts ++ ·) := by
  fun_induction tokens? s generalizing ts
  case case1 =>
    cases h
    simp
  case case16 s p hp ih =>
    obtain ⟨later, hlater, rfl⟩ := Option.map_eq_some_iff.mp h
    obtain ⟨q, hq, hpieces, hleft⟩ := map_bare_eq_followed_iff.mp (readString?_append hp rest)
    rw [List.cons_append, tokens?.eq_15, hq]
    simp only [hpieces, hleft, ih hlater, Option.map_map]
    rfl
  case case18 c s hc p hp ih =>
    obtain ⟨later, hlater, rfl⟩ := Option.map_eq_some_iff.mp h
    have hread := readNumber?_append true c s hrest
    rw [hp, Option.map_some] at hread
    obtain ⟨q, hq, hnumber, hleft⟩ := map_bare_eq_followed_iff.mp hread
    rw [List.cons_append, List.cons_append, tokens?.eq_16, if_pos hc, hq]
    simp only [hnumber, hleft, ih hlater, Option.map_map]
    rfl
  case case21 c s _ _ _ _ _ _ _ _ _ _ _ _ _ _ _ hc p hp ih =>
    obtain ⟨later, hlater, rfl⟩ := Option.map_eq_some_iff.mp h
    have hread := readNumber?_append false c s hrest
    rw [hp, Option.map_some] at hread
    rw [List.cons_append, tokens?_of_isDigit hc, hread]
    simp only [Option.bind_some, followed, ih hlater, Option.map_map]
    rfl
  case case2 ih => rw [List.cons_append, tokens?.eq_2, ih h]
  case case3 ih => rw [List.cons_append, tokens?.eq_3, ih h]
  case case4 ih => rw [List.cons_append, tokens?.eq_4, ih h]
  case case5 ih => rw [List.cons_append, tokens?.eq_5, ih h]
  case case6 ih | case7 ih | case8 ih | case9 ih | case10 ih | case11 ih | case12 ih | case13 ih |
      case14 ih =>
    obtain ⟨later, hlater, rfl⟩ := Option.map_eq_some_iff.mp h
    simp only [List.cons_append, tokens?, ih hlater, Option.map_map]
    rfl
  all_goals cases h

/-! ### Natural numbers -/

theorem takeDigits_of_isDigit {ds : List Char} (hds : ∀ c ∈ ds, c.isDigit = true) :
    bare (takeDigits ds) = (ds, []) := by
  induction ds with
  | nil => rfl
  | cons d ds ih =>
    have hd : d.isDigit = true := hds d List.mem_cons_self
    obtain ⟨hdigits, hleft⟩ := Prod.mk.inj (ih fun c hc => hds c (List.mem_cons_of_mem _ hc))
    simp only [takeDigits, hd, if_true, bare, Rest.after]
    rw [hdigits, hleft]

theorem readNumber?_digits (negative : Bool) {d : Char} {ds : List Char}
    (hds : ∀ c ∈ ds, c.isDigit = true) (hzero : d = '0' → ds = []) :
    (readNumber? negative d ds).map bare =
      some (((number? negative (d :: ds) none none).map .number).getD .skipped, []) := by
  obtain ⟨hdigits, hleft⟩ := Prod.mk.inj (takeDigits_of_isDigit hds)
  have hlead : ¬ (decide (d = '0') && !(takeDigits ds).1.isEmpty) = true := by
    rw [hdigits]
    by_cases h0 : d = '0'
    · simp [hzero h0]
    · simp [h0]
  have hfraction : takeFraction? (takeDigits ds).2.1 = some (none, ⟨_, Nat.le_refl _⟩) :=
    takeFraction?.eq_2 _ (by simp [hleft])
  have hexponent : takeExponent? (takeDigits ds).2.1 = some (none, ⟨_, Nat.le_refl _⟩) :=
    takeExponent?.eq_3 _ (by simp [hleft]) (by simp [hleft])
  unfold readNumber?
  dsimp only
  rw [if_neg hlead, hfraction]
  dsimp only
  rw [hexponent]
  simp only [Option.map_some, bare, hdigits, hleft]

def rereadNat (n : Nat) : Json :=
  if n < 0x10000000000000000 then .ofNat n else ((nearest? n 0).map .ofFloat).getD .skipped

theorem number?_digits (n : Nat) :
    ((number? false (Decimal.digits n) none none).map .number).getD .skipped = rereadNat n := by
  have hvalue : Decimal.ofDigits (Decimal.digits n) = n := Nat.ofDigitChars_ten_toDigits
  simp only [number?, hvalue, rereadNat, Bool.false_eq_true, if_false]
  split
  · rfl
  · rw [Option.map_map]
    rfl

theorem digits_cases (n : Nat) : ∃ d ds, Decimal.digits n = d :: ds ∧ d.isDigit = true ∧
    (∀ c ∈ ds, c.isDigit = true) ∧ (d = '0' → ds = []) := by
  -- the first digit of `n` is that of `n / 10`, down to a single digit
  have hlead : ∃ d ds, Nat.toDigits 10 n = d :: ds ∧ (d = '0' → n = 0) := by
    induction n using Nat.strongRecOn with
    | ind n ih =>
      by_cases hn : n < 10
      · have hzero : ∀ m < 10, Nat.digitChar m = '0' → m = 0 := by decide
        exact ⟨_, [], Nat.toDigits_of_lt_base hn, hzero n hn⟩
      · obtain ⟨d, ds, hds, hd⟩ := ih (n / 10) (by omega)
        refine ⟨d, ds ++ [(n % 10).digitChar], ?_, fun h => ?_⟩
        · rw [Nat.toDigits_of_base_le (by omega) (by omega), hds, List.cons_append]
        · have := hd h
          omega
  obtain ⟨d, ds, hds, hzero⟩ := hlead
  have hall : ∀ c ∈ d :: ds, c.isDigit = true := by
    intro c hc
    rw [← hds] at hc
    exact Nat.isDigit_of_mem_toDigits (by omega) (by omega) hc
  refine ⟨d, ds, hds, hall d List.mem_cons_self, fun c hc => hall c (List.mem_cons_of_mem _ hc), ?_⟩
  intro hd
  rw [hzero hd, Nat.toDigits_zero] at hds
  exact (List.cons.inj hds).2.symm

theorem tokens?_repr (n : Nat) (hrest : EndsNumber rest) :
    tokens? ((Nat.repr n).toList ++ rest) = (tokens? rest).map (.value (rereadNat n) :: ·) := by
  obtain ⟨d, ds, hdigits, hd, hds, hzero⟩ := digits_cases n
  have hrepr : (Nat.repr n).toList = d :: ds := Nat.toList_repr.trans hdigits
  have hread : (readNumber? false d (ds ++ rest)).map bare = some (rereadNat n, rest) := by
    have happend := readNumber?_append false d ds hrest
    have hdigitsOnly := congrArg (Option.map fun p => (p.1, p.2 ++ rest))
      (readNumber?_digits false hds hzero)
    rw [Option.map_map, ← hdigits, number?_digits] at hdigitsOnly
    exact happend.trans hdigitsOnly
  rw [hrepr, List.cons_append, tokens?_of_isDigit hd, hread, Option.bind_some]

end TagAtlas.Json

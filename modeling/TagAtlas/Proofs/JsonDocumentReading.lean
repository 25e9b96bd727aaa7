import TagAtlas.Proofs.JsonNumberReading

/-!
# Reading printed documents

A compact document is read token by token, and the tokens are put together as they were taken
apart. So it reads back as itself, up to natural numbers beyond 64 bits, as long as its real numbers
do.
-/

namespace TagAtlas.Json

/-- A document of natural numbers and real ones that read back. -/
inductive Plain : Json → Prop
  | null : Plain .null
  | bool (b : Bool) : Plain (.bool b)
  | nat (n : Nat) : Plain (.ofNat n)
  | real {x : Float} (h : ReadsBack x) : Plain (.ofFloat x)
  | string (text : String) : Plain (.string text)
  | array {items : List Json} (h : ∀ v ∈ items, Plain v) : Plain (.array items)
  | object {members : List (String × Json)} (h : ∀ m ∈ members, Plain m.2) :
      Plain (.object members)

mutual
/-- What a plain document reads back as. -/
def reread : Json → Json
  | .number (.whole n) => rereadNat n.toNat
  | .array items => .array (rereadItems items)
  | .object members => .object (rereadMembers members)
  | v => v

def rereadItems : List Json → List Json
  | [] => []
  | v :: rest => reread v :: rereadItems rest

def rereadMembers : List (String × Json) → List (String × Json)
  | [] => []
  | (key, v) :: rest => (key, reread v) :: rereadMembers rest
end

mutual
def toTokens : Json → List Token
  | .array items => .openArray :: (itemTokens items ++ [.closeArray])
  | .object members => .openObject :: (memberTokens members ++ [.closeObject])
  | v => [.value v]

def itemTokens : List Json → List Token
  | [] => []
  | [v] => toTokens v
  | v :: rest => toTokens v ++ .comma :: itemTokens rest

def memberTokens : List (String × Json) → List Token
  | [] => []
  | [(key, v)] => .value (.string key) :: .colon :: toTokens v
  | (key, v) :: rest =>
    .value (.string key) :: .colon :: (toTokens v ++ .comma :: memberTokens rest)
end

theorem reread_ofNat (n : Nat) : reread (.ofNat n) = rereadNat n := by
  rw [ofNat, reread, Int.toNat_natCast]

theorem reread_ofNat_of_lt {n : Nat} (h : n < 0x10000000000000000) :
    reread (.ofNat n) = .ofNat n := by
  rw [reread_ofNat, rereadNat, if_pos h]

theorem toTokens_rereadNat (n : Nat) : toTokens (rereadNat n) = [.value (rereadNat n)] := by
  unfold rereadNat
  split
  · rfl
  · cases nearest? n 0 <;> rfl

theorem reread_array (items : List Json) : reread (.array items) = .array (items.map reread) := by
  have hitems : rereadItems items = items.map reread := by
    induction items with
    | nil => rfl
    | cons v items ih => rw [rereadItems, ih, List.map_cons]
  rw [reread, hitems]

theorem reread_object (members : List (String × Json)) :
    reread (.object members) = .object (members.map fun m => (m.1, reread m.2)) := by
  have hmembers : rereadMembers members = members.map fun m => (m.1, reread m.2) := by
    induction members with
    | nil => rfl
    | cons m members ih => rw [rereadMembers, ih, List.map_cons]
  rw [reread, hmembers]

/-! ### Tokens of a compact document -/

/-- The text of a document is cut into the tokens of what it reads back as. -/
def Tokenizes (v : Json) : Prop :=
  ∀ rest, EndsNumber rest →
    tokens? ((compact v).toList ++ rest) = (tokens? rest).map (toTokens (reread v) ++ ·)

theorem endsNumber_cons {c : Char} (h : c.isDigit = false ∧ c ∉ ['.', 'e', 'E', '+', '-'])
    (rest : List Char) : EndsNumber (c :: rest) := by
  intro c' hc
  cases hc
  exact h

theorem tokens?_compactItems {items : List Json} (h : ∀ v ∈ items, Tokenizes v)
    (rest : List Char) : tokens? ((compactItems items).toList ++ ']' :: rest) =
      (tokens? rest).map (itemTokens (items.map reread) ++ .closeArray :: ·) := by
  induction items with
  | nil =>
    rw [compactItems]
    exact tokens?.eq_7 rest
  | cons v items ih =>
    have hv := h v List.mem_cons_self
    have ih := ih fun u hu => h u (List.mem_cons_of_mem _ hu)
    -- a comma or a bracket follows the item, so a number ends there
    cases items with
    | nil =>
      rw [compactItems, hv _ (endsNumber_cons (by decide) _), tokens?.eq_7]
      simp [itemTokens, Function.comp_def]
    | cons u items =>
      have htext : (compactItems (v :: u :: items)).toList ++ ']' :: rest =
          (compact v).toList ++ ',' :: ((compactItems (u :: items)).toList ++ ']' :: rest) := by
        simp [compactItems]
      rw [htext, hv _ (endsNumber_cons (by decide) _), tokens?.eq_10, ih]
      simp [itemTokens, Function.comp_def]

theorem tokens?_compactMembers {members : List (String × Json)} (h : ∀ m ∈ members, Tokenizes m.2)
    (rest : List Char) : tokens? ((compactMembers members).toList ++ '\x7d' :: rest) =
      (tokens? rest).map
        (memberTokens (members.map fun m => (m.1, reread m.2)) ++ .closeObject :: ·) := by
  induction members with
  | nil =>
    rw [compactMembers]
    exact tokens?.eq_9 rest
  | cons m members ih =>
    obtain ⟨key, v⟩ := m
    have hv : Tokenizes v := h (key, v) List.mem_cons_self
    have ih := ih fun u hu => h u (List.mem_cons_of_mem _ hu)
    cases members with
    | nil =>
      have htext : (compactMembers [(key, v)]).toList ++ '\x7d' :: rest =
          (quoted key).toList ++ ':' :: ((compact v).toList ++ '\x7d' :: rest) := by
        simp [compactMembers]
      rw [htext, tokens?_quoted, tokens?.eq_11, hv _ (endsNumber_cons (by decide) _), tokens?.eq_9]
      simp [memberTokens, Function.comp_def]
    | cons u members =>
      have htext : (compactMembers ((key, v) :: u :: members)).toList ++ '\x7d' :: rest =
          (quoted key).toList ++ ':' :: ((compact v).toList ++
            ',' :: ((compactMembers (u :: members)).toList ++ '\x7d' :: rest)) := by
        simp [compactMembers]
      rw [htext, tokens?_quoted, tokens?.eq_11, hv _ (endsNumber_cons (by decide) _),
        tokens?.eq_10, ih]
      simp [memberTokens, Function.comp_def]

theorem Plain.tokenizes {v : Json} (h : Plain v) : Tokenizes v := by
  induction h with
  | null =>
    intro rest _
    exact tokens?.eq_12 rest
  | bool b =>
    intro rest _
    cases b with
    | true => exact tokens?.eq_13 rest
    | false => exact tokens?.eq_14 rest
  | nat n =>
    intro rest hrest
    have htext : compact (.ofNat n) = Nat.repr n := by
      simp [ofNat, compact, Number.text]
    rw [htext, tokens?_repr n hrest, reread_ofNat, toTokens_rereadNat]
    rfl
  | real h =>
    intro rest hrest
    exact h.tokens?_append hrest
  | string text =>
    intro rest _
    rw [compact, tokens?_quoted]
    rfl
  | @array items h ih =>
    intro rest hrest
    have htext : (compact (.array items)).toList ++ rest =
        '[' :: ((compactItems items).toList ++ ']' :: rest) := by
      simp [compact]
    rw [htext, tokens?.eq_6, tokens?_compactItems ih, reread_array]
    simp [toTokens, Function.comp_def]
  | @object members h ih =>
    intro rest hrest
    have htext : (compact (.object members)).toList ++ rest =
        '\x7b' :: ((compactMembers members).toList ++ '\x7d' :: rest) := by
      simp [compact]
    rw [htext, tokens?.eq_8, tokens?_compactMembers ih, reread_object]
    simp [toTokens, Function.comp_def]

/-! ### Putting tokens together -/

/-- The tokens of a document put it where it belongs. -/
def Assembles (v : Json) : Prop :=
  ∀ (wanted : Wanted) (stack : List Open) (result : Json) (rest : List Token),
    wanted = .value ∨ wanted = .firstItem →
      (toTokens v ++ rest).foldlM Partial.step ⟨wanted, stack, result⟩ =
        rest.foldlM Partial.step (.finish v stack)

theorem assembles_of_value {v : Json} (h : toTokens v = [.value v]) : Assembles v := by
  rintro wanted stack result rest (rfl | rfl) <;> rw [h] <;> rfl

theorem foldlM_itemTokens {items : List Json} (h : ∀ v ∈ items, Assembles v) (hne : items ≠ [])
    (before : List Json) {stack : List Open} (rest : List Token) {wanted : Wanted}
    (hw : wanted = .value ∨ wanted = .firstItem) :
    (itemTokens items ++ .closeArray :: rest).foldlM Partial.step
        ⟨wanted, .array before :: stack, .null⟩ =
      rest.foldlM Partial.step (.finish (.array (before.reverse ++ items)) stack) := by
  induction items generalizing before wanted with
  | nil => exact absurd rfl hne
  | cons v items ih =>
    have hv := h v List.mem_cons_self wanted (.array before :: stack) .null
    cases items with
    | nil =>
      rw [itemTokens, hv _ hw]
      simp [Partial.finish, Partial.step]
    | cons u items =>
      have hrest := ih (fun t ht => h t (List.mem_cons_of_mem _ ht)) (by simp) (v :: before)
        (.inl rfl)
      have htokens : itemTokens (v :: u :: items) ++ .closeArray :: rest =
          toTokens v ++ .comma :: (itemTokens (u :: items) ++ .closeArray :: rest) := by
        simp [itemTokens]
      rw [htokens, hv _ hw]
      simpa [Partial.finish, Partial.step] using hrest

theorem foldlM_memberTokens {members : List (String × Json)} (h : ∀ m ∈ members, Assembles m.2)
    (hne : members ≠ []) (before : List (String × Json)) (key : String) {stack : List Open}
    (rest : List Token) {wanted : Wanted} (hw : wanted = .key ∨ wanted = .firstKey) :
    (memberTokens members ++ .closeObject :: rest).foldlM Partial.step
        ⟨wanted, .object (some before) key :: stack, .null⟩ =
      rest.foldlM Partial.step (.finish (.object (before.reverse ++ members)) stack) := by
  induction members generalizing before key wanted with
  | nil => exact absurd rfl hne
  | cons m members ih =>
    obtain ⟨name, v⟩ := m
    have hv := h (name, v) List.mem_cons_self .value (.object (some before) name :: stack) .null
    have hname : ∀ later : List Token,
        (.value (.string name) :: .colon :: later).foldlM Partial.step
          ⟨wanted, .object (some before) key :: stack, .null⟩ =
        later.foldlM Partial.step ⟨.value, .object (some before) name :: stack, .null⟩ := by
      intro later
      rcases hw with rfl | rfl <;> rfl
    cases members with
    | nil =>
      rw [memberTokens, List.cons_append, List.cons_append, hname, hv _ (.inl rfl)]
      simp [Partial.finish, Partial.step]
    | cons u members =>
      have hrest := ih (fun t ht => h t (List.mem_cons_of_mem _ ht)) (by simp)
        ((name, v) :: before) name (.inl rfl)
      have htokens : memberTokens ((name, v) :: u :: members) ++ .closeObject :: rest =
          .value (.string name) :: .colon :: (toTokens v ++
            .comma :: (memberTokens (u :: members) ++ .closeObject :: rest)) := by
        simp [memberTokens]
      rw [htokens, hname, hv _ (.inl rfl)]
      simpa [Partial.finish, Partial.step] using hrest

theorem assembles_array {items : List Json} (h : ∀ v ∈ items, Assembles v) :
    Assembles (.array items) := by
  intro wanted stack result rest hw
  have hopen : (toTokens (.array items) ++ rest).foldlM Partial.step ⟨wanted, stack, result⟩ =
      (itemTokens items ++ .closeArray :: rest).foldlM Partial.step
        ⟨.firstItem, .array [] :: stack, .null⟩ := by
    rcases hw with rfl | rfl <;> simp [toTokens, Partial.step]
  rw [hopen]
  cases items with
  | nil => simp [itemTokens, Partial.step]
  | cons v items => exact foldlM_itemTokens h (by simp) [] rest (.inr rfl)

theorem assembles_object {members : List (String × Json)} (h : ∀ m ∈ members, Assembles m.2) :
    Assembles (.object members) := by
  intro wanted stack result rest hw
  have hopen : (toTokens (.object members) ++ rest).foldlM Partial.step ⟨wanted, stack, result⟩ =
      (memberTokens members ++ .closeObject :: rest).foldlM Partial.step
        ⟨.firstKey, .object (some []) "" :: stack, .null⟩ := by
    rcases hw with rfl | rfl <;> simp [toTokens, Partial.step]
  rw [hopen]
  cases members with
  | nil => simp [memberTokens, Partial.step]
  | cons m members => exact foldlM_memberTokens h (by simp) [] "" rest (.inr rfl)

theorem Plain.assembles {v : Json} (h : Plain v) : Assembles (reread v) := by
  induction h with
  | null | bool | string | real => exact assembles_of_value rfl
  | nat n =>
    rw [reread_ofNat]
    exact assembles_of_value (toTokens_rereadNat n)
  | array _ ih =>
    rw [reread_array]
    exact assembles_array (List.forall_mem_map.mpr ih)
  | object _ ih =>
    rw [reread_object]
    exact assembles_object (List.forall_mem_map.mpr ih)

/-- A plain document is read. -/
theorem parse?_compact {v : Json} (h : Plain v) : parse? (compact v) = some (reread v) := by
  have htokens := h.tokenizes [] (by simp [EndsNumber])
  have hfold := h.assembles .value [] .null [] (.inl rfl)
  rw [List.append_nil] at htokens hfold
  rw [parse?, htokens, tokens?.eq_1, Option.map_some, List.append_nil, Option.bind_some, ofTokens?,
    hfold]
  rfl

end TagAtlas.Json

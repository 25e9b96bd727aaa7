import TagAtlas.Proofs.JsonDocumentReading

/-!
# Reading indented documents

The two layouts of a document differ by line ends and spaces between tokens, which a reader skips.
So an indented document reads back like a compact one.
-/

namespace TagAtlas.Json

variable {v : Json} {s t : List Char}

theorem tokens?_lineStart (level : Nat) (rest : List Char) :
    tokens? ((lineStart level).toList ++ rest) = tokens? rest := by
  have hspaces : ∀ n, tokens? (List.replicate n ' ' ++ rest) = tokens? rest := by
    intro n
    induction n with
    | zero => rfl
    | succ n ih =>
      rw [List.replicate_succ, List.cons_append, tokens?.eq_2]
      exact ih
  rw [lineStart, String.toList_ofList, List.cons_append, tokens?.eq_4]
  exact hspaces _

theorem endsNumber_lineStart (level : Nat) (rest : List Char) :
    EndsNumber ((lineStart level).toList ++ rest) := by
  rw [lineStart, String.toList_ofList, List.cons_append]
  exact endsNumber_cons (by decide) _

/-- What follows a document counts by its tokens only. -/
theorem Tokenizes.congr (h : Tokenizes v) (hs : EndsNumber s) (ht : EndsNumber t)
    (hst : tokens? s = tokens? t) :
    tokens? ((compact v).toList ++ s) = tokens? ((compact v).toList ++ t) := by
  rw [h s hs, h t ht, hst]

/-- An indented document is cut into the tokens of the compact one. -/
def Indents (v : Json) : Prop :=
  ∀ level rest, EndsNumber rest →
    tokens? ((indented level v).toList ++ rest) = tokens? ((compact v).toList ++ rest)

theorem tokens?_indentedItems {items : List Json} (hne : items ≠ [])
    (h : ∀ v ∈ items, Tokenizes v ∧ Indents v) (level : Nat) (hs : EndsNumber s)
    (ht : EndsNumber t) (hst : tokens? s = tokens? t) :
    tokens? ((indentedItems level items).toList ++ s) =
      tokens? ((compactItems items).toList ++ t) := by
  induction items with
  | nil => exact absurd rfl hne
  | cons v items ih =>
    obtain ⟨hv, hindent⟩ := h v List.mem_cons_self
    cases items with
    | nil =>
      rw [indentedItems, compactItems, String.toList_append, List.append_assoc, tokens?_lineStart,
        hindent level s hs]
      exact hv.congr hs ht hst
    | cons u items =>
      have ih := ih (by simp) fun w hw => h w (List.mem_cons_of_mem _ hw)
      have hlong : (indentedItems level (v :: u :: items)).toList ++ s =
          (lineStart level).toList ++ ((indented level v).toList ++
            ',' :: ((indentedItems level (u :: items)).toList ++ s)) := by
        simp [indentedItems]
      have hshort : (compactItems (v :: u :: items)).toList ++ t =
          (compact v).toList ++ ',' :: ((compactItems (u :: items)).toList ++ t) := by
        simp [compactItems]
      have hcomma : ∀ rest, EndsNumber (',' :: rest) := endsNumber_cons (by decide)
      rw [hlong, hshort, tokens?_lineStart, hindent level _ (hcomma _)]
      exact hv.congr (hcomma _) (hcomma _) (by rw [tokens?.eq_10, tokens?.eq_10, ih])

theorem tokens?_indentedMembers {members : List (String × Json)} (hne : members ≠ [])
    (h : ∀ m ∈ members, Tokenizes m.2 ∧ Indents m.2) (level : Nat) (hs : EndsNumber s)
    (ht : EndsNumber t) (hst : tokens? s = tokens? t) :
    tokens? ((indentedMembers level members).toList ++ s) =
      tokens? ((compactMembers members).toList ++ t) := by
  induction members with
  | nil => exact absurd rfl hne
  | cons m members ih =>
    obtain ⟨key, v⟩ := m
    obtain ⟨hv, hindent⟩ : Tokenizes v ∧ Indents v := h (key, v) List.mem_cons_self
    cases members with
    | nil =>
      have hlong : (indentedMembers level [(key, v)]).toList ++ s =
          (lineStart level).toList ++ ((quoted key).toList ++
            ':' :: ' ' :: ((indented level v).toList ++ s)) := by
        simp [indentedMembers]
      have hshort : (compactMembers [(key, v)]).toList ++ t =
          (quoted key).toList ++ ':' :: ((compact v).toList ++ t) := by
        simp [compactMembers]
      rw [hlong, hshort, tokens?_lineStart, tokens?_quoted, tokens?_quoted, tokens?.eq_11,
        tokens?.eq_11, tokens?.eq_2, hindent level s hs, hv.congr hs ht hst]
    | cons u members =>
      have ih := ih (by simp) fun w hw => h w (List.mem_cons_of_mem _ hw)
      have hlong : (indentedMembers level ((key, v) :: u :: members)).toList ++ s =
          (lineStart level).toList ++ ((quoted key).toList ++
            ':' :: ' ' :: ((indented level v).toList ++
              ',' :: ((indentedMembers level (u :: members)).toList ++ s))) := by
        simp [indentedMembers]
      have hshort : (compactMembers ((key, v) :: u :: members)).toList ++ t =
          (quoted key).toList ++ ':' :: ((compact v).toList ++
            ',' :: ((compactMembers (u :: members)).toList ++ t)) := by
        simp [compactMembers]
      have hcomma : ∀ rest, EndsNumber (',' :: rest) := endsNumber_cons (by decide)
      have hitem := hv.congr (hcomma ((indentedMembers level (u :: members)).toList ++ s))
        (hcomma ((compactMembers (u :: members)).toList ++ t))
        (by rw [tokens?.eq_10, tokens?.eq_10, ih])
      rw [hlong, hshort, tokens?_lineStart, tokens?_quoted, tokens?_quoted, tokens?.eq_11,
        tokens?.eq_11, tokens?.eq_2, hindent level _ (hcomma _), hitem]

theorem Plain.indents (h : Plain v) : Indents v := by
  induction h with
  | null => exact fun _ _ _ => rfl
  | bool => exact fun _ _ _ => rfl
  | nat => exact fun _ _ _ => rfl
  | real => exact fun _ _ _ => rfl
  | string => exact fun _ _ _ => rfl
  | array h ih =>
    intro level rest hrest
    rename_i items
    cases items with
    | nil => rfl
    | cons v items =>
      have hlong : (indented level (.array (v :: items))).toList ++ rest =
          '[' :: ((indentedItems (level + 1) (v :: items)).toList ++
            ((lineStart level).toList ++ ']' :: rest)) := by
        simp [indented]
      have hshort : (compact (.array (v :: items))).toList ++ rest =
          '[' :: ((compactItems (v :: items)).toList ++ ']' :: rest) := by
        simp [compact]
      rw [hlong, hshort, tokens?.eq_6, tokens?.eq_6, tokens?_indentedItems (by simp)
        (fun u hu => ⟨(h u hu).tokenizes, ih u hu⟩) (level + 1) (endsNumber_lineStart _ _)
        (endsNumber_cons (by decide) _) (tokens?_lineStart _ _)]
  | object h ih =>
    intro level rest hrest
    rename_i members
    cases members with
    | nil => rfl
    | cons m members =>
      have hlong : (indented level (.object (m :: members))).toList ++ rest =
          '\x7b' :: ((indentedMembers (level + 1) (m :: members)).toList ++
            ((lineStart level).toList ++ '\x7d' :: rest)) := by
        simp [indented]
      have hshort : (compact (.object (m :: members))).toList ++ rest =
          '\x7b' :: ((compactMembers (m :: members)).toList ++ '\x7d' :: rest) := by
        simp [compact]
      rw [hlong, hshort, tokens?.eq_8, tokens?.eq_8, tokens?_indentedMembers (by simp)
        (fun u hu => ⟨(h u hu).tokenizes, ih u hu⟩) (level + 1) (endsNumber_lineStart _ _)
        (endsNumber_cons (by decide) _) (tokens?_lineStart _ _)]

/-- An indented plain document is read. -/
theorem parse?_pretty (h : Plain v) : parse? (pretty v) = some (reread v) := by
  have htokens := h.indents 0 [] (by simp [EndsNumber])
  rw [List.append_nil, List.append_nil] at htokens
  have hsame : parse? (pretty v) = parse? (compact v) := by
    rw [parse?, pretty, htokens, parse?]
  rw [hsame, parse?_compact h]

end TagAtlas.Json

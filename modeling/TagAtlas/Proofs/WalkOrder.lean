import TagAtlas.Proofs.SummaryDocuments
import TagAtlas.Proofs.TreeWalk

/-!
# Walks in the order of bytes

The bytes of texts are in the order of their characters: a greater character has a greater lead byte,
or the same number of bytes of which the first that differs is greater. So a walk, which goes by
characters, meets files in the order of the bytes of their paths, and leaving entries out does not
change the order of the others.
-/

namespace TagAtlas

/-! ### Bytes of characters -/

/-- What is spelled of a greater number comes later, whatever follows. -/
def Rises (spell : Nat → List UInt8) (bound : Nat) : Prop :=
  ∀ m n, m < n → n < bound → ∀ x y, spell m ++ x < spell n ++ y

theorem cons_ofNat_lt {m n : Nat} (hmn : m < n) (hn : n < 256) (x y : List UInt8) :
    UInt8.ofNat m :: x < UInt8.ofNat n :: y := by
  refine List.cons_lt_cons_iff.mpr (.inl ?_)
  rw [UInt8.lt_iff_toNat_lt, UInt8.toNat_ofNat_of_lt' hn, UInt8.toNat_ofNat_of_lt' (hmn.trans hn)]
  exact hmn

theorem rises_lead (size base : Nat) (h : size + base ≤ 256) :
    Rises (fun v => [UInt8.ofNat (v % size + base)]) size := by
  intro m n hmn hn x y
  rw [List.singleton_append, List.singleton_append, Nat.mod_eq_of_lt hn,
    Nat.mod_eq_of_lt (hmn.trans hn)]
  exact cons_ofNat_lt (by omega) (by omega) x y

/-- One more byte for the last six bits. -/
theorem Rises.next {spell : Nat → List UInt8} {bound : Nat} (h : Rises spell bound) :
    Rises (fun v => spell (v / 64) ++ [UInt8.ofNat (v % 64 + 128)]) (bound * 64) := by
  intro m n hmn hn x y
  rw [List.append_assoc, List.append_assoc, List.singleton_append, List.singleton_append]
  rcases Nat.lt_or_eq_of_le (Nat.div_le_div_right hmn.le) with hlt | heq
  · exact h _ _ hlt (Nat.div_lt_of_lt_mul (Nat.mul_comm bound 64 ▸ hn)) _ _
  · rw [heq]
    exact List.append_left_lt (cons_ofNat_lt (by omega) (by omega) x y)

/-- The bytes of a greater character come later. -/
theorem utf8EncodeChar_lt {c d : Char} (h : c < d) (x y : List UInt8) :
    String.utf8EncodeChar c ++ x < String.utf8EncodeChar d ++ y := by
  have hlt : c.val.toNat < d.val.toNat := UInt32.lt_iff_toNat_lt.mp h
  have hd : d.val.toNat < 0x110000 := by
    have hvalid := d.valid
    simp only [UInt32.isValidChar, Nat.isValidChar] at hvalid
    omega
  have hlead : ∀ {m n : Nat}, m < n ∧ n < 256 → ∀ s t : List UInt8,
      UInt8.ofNat m :: s ++ x < UInt8.ofNat n :: t ++ y :=
    fun hmn s t => cons_ofNat_lt hmn.1 hmn.2 (s ++ x) (t ++ y)
  unfold String.utf8EncodeChar
  generalize c.val.toNat = m at hlt
  generalize d.val.toNat = n at hlt hd
  dsimp only
  -- a greater character does not have fewer bytes
  split_ifs <;> try omega
  · exact hlead (by omega) [] []
  · exact hlead (by omega) [] _
  · exact hlead (by omega) [] _
  · exact hlead (by omega) [] _
  · exact (rises_lead 32 192 (by decide)).next m n hlt (by omega) x y
  · exact hlead (by omega) _ _
  · exact hlead (by omega) _ _
  · have hrises := (rises_lead 16 224 (by decide)).next.next
    simpa [Nat.div_div_eq_div_mul] using hrises m n hlt (by omega) x y
  · exact hlead (by omega) _ _
  · have hrises := (rises_lead 8 240 (by decide)).next.next.next
    simpa [Nat.div_div_eq_div_mul] using hrises m n hlt (by omega) x y

theorem flatMap_utf8EncodeChar_lt {l m : List Char} (h : l < m) :
    l.flatMap String.utf8EncodeChar < m.flatMap String.utf8EncodeChar := by
  induction l generalizing m with
  | nil =>
    cases m with
    | nil => exact absurd h (List.not_lt_nil _)
    | cons d m =>
      obtain ⟨b, bytes, hbytes⟩ := List.exists_cons_of_ne_nil (String.utf8EncodeChar_ne_nil (c := d))
      rw [List.flatMap_nil, List.flatMap_cons, hbytes]
      exact List.nil_lt_cons _ _
  | cons c l ih =>
    cases m with
    | nil => exact absurd h (List.not_lt_nil _)
    | cons d m =>
      rw [List.flatMap_cons, List.flatMap_cons]
      rcases List.cons_lt_cons_iff.mp h with hcd | ⟨rfl, hrest⟩
      · exact utf8EncodeChar_lt hcd _ _
      · exact List.append_left_lt (ih hrest)

namespace Fingerprint

/-- Texts are in the order of their bytes. -/
theorem textBytes_lt_iff {a b : String} : textBytes a < textBytes b ↔ a < b := by
  have hlt : ∀ {a b : String}, a < b → textBytes a < textBytes b := by
    intro a b h
    rw [textBytes_eq, textBytes_eq]
    exact flatMap_utf8EncodeChar_lt (String.lt_iff_toList_lt.mp h)
  refine ⟨fun h => ?_, hlt⟩
  rcases lt_trichotomy a b with hab | rfl | hba
  · exact hab
  · exact absurd h (List.lt_irrefl _)
  · exact absurd h (List.lt_asymm (hlt hba))

theorem textBytes_le_iff {a b : String} : textBytes a ≤ textBytes b ↔ a ≤ b := by
  rw [← List.not_lt, textBytes_lt_iff, not_lt]

end Fingerprint

/-! ### Walks -/

def Pruning.none : Pruning Unit := ⟨fun _ _ _ => (), fun _ _ _ => true⟩

namespace Tree

open Fingerprint (textBytes)

variable {σ : Type} {p : Pruning σ} {known : σ} {path : List String} {t : Tree} {m : Met}

theorem keptAlong_none (t : Tree) (path names : List String) :
    t.KeptAlong Pruning.none () path names := by
  induction names generalizing t path with
  | nil => trivial
  | cons name names ih => exact fun c _ => ⟨rfl, ih c _⟩

/-- A walk that leaves nothing out meets every file. -/
theorem mem_walk_none_iff (h : t.Named) : m ∈ t.walk Pruning.none () path ↔
    ∃ rest, m.path = path ++ rest ∧ t.at? rest = some (.file m.data) := by
  rw [mem_walk_iff h]
  exact exists_congr fun rest => and_congr_right fun _ =>
    and_iff_left (keptAlong_none t path rest)

theorem walk_sublist (h : t.Named) (p : Pruning σ) (known : σ) (path : List String) :
    (t.walk p known path).Sublist (t.walk Pruning.none () path) := by
  have : Std.Asymm fun a b : Met => a.below path.length < b.below path.length :=
    ⟨fun _ _ => lt_asymm⟩
  refine sublist_of_pairwise (walk_pairwise h) (walk_pairwise h) fun m hm => ?_
  obtain ⟨rest, hpath, hat, -⟩ := (mem_walk_iff h).mp hm
  exact (mem_walk_none_iff h).mpr ⟨rest, hpath, hat⟩

/-- A walk goes by bytes: by those of the places of siblings, and so by those of whole paths. What
it leaves out does not change the order of what it meets. -/
structure WalksByBytes (t : Tree) (p : Pruning σ) (known : σ) (path : List String) : Prop where
  siblings : ∀ a b : Visited, a.precedes b = true ↔ textBytes a.key ≤ textBytes b.key
  files : (t.walk p known path).Pairwise fun a b =>
    textBytes (a.below path.length) < textBytes (b.below path.length)
  pruned : (t.walk p known path).Sublist (t.walk Pruning.none () path)
  complete : ∀ m, m ∈ t.walk Pruning.none () path ↔
    ∃ rest, m.path = path ++ rest ∧ t.at? rest = some (.file m.data)

/-- A walk through a tree whose names fall apart and hold no slash goes by bytes. -/
theorem walksByBytes (h : t.Named) (p : Pruning σ) (known : σ) (path : List String) :
    WalksByBytes t p known path where
  siblings a b := by rw [Visited.precedes, decide_eq_true_iff, Fingerprint.textBytes_le_iff]
  files := (walk_pairwise h).imp Fingerprint.textBytes_lt_iff.mpr
  pruned := walk_sublist h p known path
  complete _ := mem_walk_none_iff h

/-- A file and two folders whose names begin alike, listed in no order. -/
def alike : Tree :=
  let data : StoredFile := ⟨.empty, 5⟩
  .folder [("ba", .folder [("c.go", .file data)]), ("b", .folder [("é.go", .file data)]),
    ("b.go", .file data)]

def withoutLonger : Pruning Unit := ⟨fun _ _ _ => (), fun _ here _ => here ≠ ["ba"]⟩

/-- A dot comes before the slash of a folder. -/
theorem walksByBytes_alike :
    alike.Named ∧ WalksByBytes alike withoutLonger () [] ∧
      (alike.walk withoutLonger () []).map Met.path = [["b.go"], ["b", "é.go"]] := by
  have hnamed : alike.Named := by
    refine .folder (by decide) (by decide) ?_
    simp only [List.forall_mem_cons]
    refine ⟨.folder (by decide) (by decide) ?_, .folder (by decide) (by decide) ?_, .file _,
      List.forall_mem_nil _⟩
    · exact List.forall_mem_singleton.mpr (.file _)
    · exact List.forall_mem_singleton.mpr (.file _)
  exact ⟨hnamed, walksByBytes hnamed _ _ _, by cbv⟩

end Tree

end TagAtlas

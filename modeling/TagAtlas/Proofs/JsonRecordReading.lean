import TagAtlas.Proofs.JsonLayoutReading
import TagAtlas.Proofs.SummaryDocuments

/-!
# Reading records

What is written of a record is read field by field: an absent value writes no field, and a list or
dictionary is read entry by entry.
-/

namespace TagAtlas

namespace Json

variable {α : Type} {write : α → Json} {read : Json → Option α}

theorem list?_map {l : List α} (h : ∀ a ∈ l, read (write a) = some a) :
    list? read (.array (l.map write)) = some l := by
  unfold list?
  dsimp only
  induction l with
  | nil => rfl
  | cons a l ih =>
    rw [List.map_cons, List.mapM_cons, h a List.mem_cons_self,
      ih fun b hb => h b (List.mem_cons_of_mem _ hb)]
    rfl

theorem list?_ofStrings (texts : List String) : list? string? (ofStrings texts) = some texts :=
  list?_map fun _ _ => rfl

theorem dict?_ofDict {d : Dict α} (h : ∀ a ∈ d.values, read (write a) = some a) :
    dict? read (ofDict write d) = some d := by
  have hmembers : ∀ l : List (String × α), (∀ e ∈ l, read (write e.2) = some e.2) →
      (l.map fun e => (e.1, write e.2)).mapM (fun m => (read m.2).map (m.1, ·)) = some l := by
    intro l hl
    induction l with
    | nil => rfl
    | cons e l ih =>
      rw [List.map_cons, List.mapM_cons, hl e List.mem_cons_self,
        ih fun b hb => hl b (List.mem_cons_of_mem _ hb)]
      rfl
  have hentries := hmembers d.entries fun e he => h e.2 (List.mem_map.mpr ⟨e, he, rfl⟩)
  simp only [dict?, ofDict, hentries, Option.map_some, Dict.ofList_entries]

theorem nat?_ofNat {bound n : Nat} (h : n < bound) : nat? bound (.ofNat n) = some n := by
  have hlt : (n : Int) < bound := Int.ofNat_lt.mpr h
  simp only [nat?, ofNat, hlt, Int.natCast_nonneg, decide_true, Bool.and_self, if_true,
    Int.toNat_natCast]

theorem word32?_ofNat {n : Nat} (h : n < 0x100000000) : word32? (.ofNat n) = some n :=
  nat?_ofNat h

theorem word64?_ofNat {n : Nat} (h : n < 0x10000000000000000) : word64? (.ofNat n) = some n :=
  nat?_ofNat h

theorem Record.required_eq {r : Record} {name : String} {v : Json} {a : α}
    (hlookup : r.fields.lookup name = some v) (hread : read v = some a) :
    r.required name read = some a := by
  rw [required, hlookup, Option.bind_some, hread]

theorem Record.defaulted_eq {r : Record} {name : String} {v : Json} {a default : α}
    (hlookup : r.fields.lookup name = some v) (hread : read v = some a) :
    r.defaulted name default read = some a := by
  rw [defaulted, hlookup]
  exact hread

theorem Record.optional_eq {r : Record} {name : String} {o : Option α}
    (hlookup : r.fields.lookup name = o.map write) (hread : ∀ a ∈ o, read (write a) = some a)
    (hnull : read .null = none) : r.optional name read = some o := by
  rw [optional, hlookup]
  cases o with
  | none => rfl
  | some a =>
    have ha : read (write a) = some a := hread a rfl
    have hne : write a ≠ .null := fun h => by
      rw [h, hnull] at ha
      cases ha
    rw [Option.map_some]
    split
    · contradiction
    · rename_i hnone
      exact absurd (Option.some.inj hnone) hne
    · rename_i hsome
      rw [← Option.some.inj hsome, ha, Option.map_some]

theorem Record.optional_string {r : Record} {name : String} {o : Option String}
    (hlookup : r.fields.lookup name = o.map .string) : r.optional name string? = some o :=
  optional_eq hlookup (fun _ _ => rfl) rfl

theorem record?_object {members : List (String × Json)} {names : List String}
    (h : (names.all fun n => (members.filter (·.1 = n)).length ≤ 1) = true) :
    (object members).record? names = some ⟨members, false⟩ :=
  if_pos h

/-! ### Documents that are read as they are -/

/-- A document that is read, when it was printed, as it is. -/
structure Stable (v : Json) : Prop where
  plain : Plain v
  reread : reread v = v

namespace Stable

variable {v : Json}

theorem string (text : String) : Stable (.string text) := ⟨.string text, rfl⟩

theorem nat {n : Nat} (h : n < 0x10000000000000000) : Stable (.ofNat n) :=
  ⟨.nat n, reread_ofNat_of_lt h⟩

theorem real {x : Float} (h : ReadsBack x) : Stable (.ofFloat x) := ⟨.real h, rfl⟩

theorem map {l : List α} (h : ∀ a ∈ l, Stable (write a)) : Stable (.array (l.map write)) := by
  have hitems : ∀ v ∈ l.map write, Stable v := List.forall_mem_map.mpr h
  have hsame : (l.map write).map Json.reread = l.map write :=
    (List.map_congr_left fun v hv => (hitems v hv).reread).trans (List.map_id' _)
  exact ⟨.array fun v hv => (hitems v hv).plain, by rw [reread_array, hsame]⟩

theorem object {members : List (String × Json)} (h : ∀ m ∈ members, Stable m.2) :
    Stable (.object members) := by
  have hmember : ∀ m ∈ members, (m.1, m.2.reread) = m := fun m hm => Prod.ext rfl (h m hm).reread
  have hsame : (members.map fun m => (m.1, m.2.reread)) = members :=
    (List.map_congr_left hmember).trans (List.map_id' _)
  exact ⟨.object fun m hm => (h m hm).plain, by rw [reread_object, hsame]⟩

theorem field? {key : String} {o : Option α} (h : ∀ a ∈ o, Stable (write a)) :
    ∀ m ∈ Json.field? key write o, Stable m.2 := by
  cases o with
  | none => exact List.forall_mem_nil _
  | some a => exact List.forall_mem_singleton.mpr (h a rfl)

theorem ofStrings (texts : List String) : Stable (ofStrings texts) := map fun text _ => string text

theorem ofDict {d : Dict α} (h : ∀ a ∈ d.values, Stable (write a)) : Stable (ofDict write d) := by
  refine .object fun m hm => ?_
  obtain ⟨e, he, rfl⟩ := List.mem_map.mp hm
  exact h e.2 (List.mem_map.mpr ⟨e, he, rfl⟩)

theorem parse?_pretty (h : Stable v) : parse? v.pretty = some v := by
  rw [Json.parse?_pretty h.plain, h.reread]

end Stable

end Json

theorem DependencyKind.choice?_name (k : DependencyKind) :
    Json.choice? DependencyKind.named (.string k.name) = some k := by
  cases k <;> decide

end TagAtlas

import TagAtlas.Access.Synthesis
import TagAtlas.Proofs.Fingerprints

/-!
# What the ids of policies tell

The id of a note's policy is the digest of four parts with a zero behind each of the first three.
Without zeros in the first part and in the third, every part can be found again, even if there are
zeros in the second: the first part ends at the first zero, the line takes the last four bytes, and
the third part begins behind the last zero before that.
-/

namespace TagAtlas

/-! ### Parts that a mark separates -/

section Marks

variable {α : Type} {x : α} {a b s t : List α}

theorem append_cons_inj_left (ha : x ∉ a) (hb : x ∉ b) :
    a ++ x :: s = b ++ x :: t ↔ a = b ∧ s = t := by
  induction a generalizing b with
  | nil =>
    cases b with
    | nil => simp
    | cons y b => simp [List.ne_of_not_mem_cons hb]
  | cons z a ih =>
    cases b with
    | nil => simp [(List.ne_of_not_mem_cons ha).symm]
    | cons y b =>
      have hrest := ih (List.not_mem_of_not_mem_cons ha) (List.not_mem_of_not_mem_cons hb)
      simp [hrest, and_assoc]

theorem append_cons_inj_right (hs : x ∉ s) (ht : x ∉ t) :
    a ++ x :: s = b ++ x :: t ↔ a = b ∧ s = t := by
  have hreversed := append_cons_inj_left (s := a.reverse) (t := b.reverse)
    (mt List.mem_reverse.mp hs) (mt List.mem_reverse.mp ht)
  rw [← List.reverse_inj]
  simpa [and_comm] using hreversed

end Marks

namespace Fingerprint

/-- Only the zero character has a zero among its bytes: a character of several bytes has marks in
all of them. -/
theorem eq_nul_of_zero_mem {c : Char} (h : 0 ∈ String.utf8EncodeChar c) : c = '\x00' := by
  have hmarked : ∀ {v mark : Nat}, v < mark → mark < 256 - v → 0 ≠ UInt8.ofNat (v + mark) := by
    intro v mark hv hmark hzero
    have hsum : 0 = (v + mark) % 256 := by simpa using congrArg UInt8.toNat hzero
    omega
  apply Char.ext
  apply UInt32.toNat_inj.mp
  change c.val.toNat = 0
  unfold String.utf8EncodeChar at h
  generalize c.val.toNat = v at h ⊢
  dsimp only at h
  split_ifs at h
  · have hsame : 0 = v % 256 := by
      simpa using congrArg UInt8.toNat (List.mem_singleton.mp h)
    omega
  all_goals simp (disch := omega) only [List.mem_cons, hmarked, List.not_mem_nil, or_self] at h

theorem zero_not_mem_textBytes {s : String} (h : '\x00' ∉ s.toList) : 0 ∉ textBytes s := by
  rw [textBytes_eq]
  intro hzero
  obtain ⟨c, hc, hbyte⟩ := List.mem_flatMap.mp hzero
  exact h (eq_nul_of_zero_mem hbyte ▸ hc)

end Fingerprint

namespace SecurityNote

open Fingerprint

variable {n n' : SecurityNote}

/-- No zero character is in the module or in the path, and the line is a number of 32 bits. Nothing
is asked of the resource. -/
structure Separable (n : SecurityNote) : Prop where
  moduleName : '\x00' ∉ n.moduleName.toList
  file : ∀ path, n.file = some path → '\x00' ∉ path.toList
  line : n.line < 2 ^ 32

namespace Separable

theorem zero_not_mem_module (h : n.Separable) : 0 ∉ textBytes n.moduleName :=
  zero_not_mem_textBytes h.moduleName

theorem zero_not_mem_file (h : n.Separable) : 0 ∉ textBytes (n.file.getD "") := by
  apply zero_not_mem_textBytes
  cases hfile : n.file with
  | none => exact List.not_mem_nil
  | some path => exact h.file path hfile

end Separable

/-- The digested bytes without the line. -/
theorem preimage_eq_append (n : SecurityNote) : n.preimage =
    (textBytes n.moduleName ++ 0 :: (textBytes n.policyResource ++
      0 :: textBytes (n.file.getD ""))) ++ 0 :: littleEndian 4 n.line := by
  simp [preimage]

/-- The same bytes are digested for two notes just when they agree in module, resource, path and
line, where no path is as good as an empty one. -/
theorem preimage_eq_iff_of_separable (h : n.Separable) (h' : n'.Separable) :
    n.preimage = n'.preimage ↔ n.moduleName = n'.moduleName ∧
      n.policyResource = n'.policyResource ∧ n.file.getD "" = n'.file.getD "" ∧
        n.line = n'.line := by
  constructor
  · intro hsame
    rw [preimage_eq_append, preimage_eq_append] at hsame
    -- the line has a fixed length, the module ends at the first zero, the path begins at the last
    obtain ⟨htexts, hline⟩ := append_littleEndian_inj.mp hsame
    obtain ⟨hmodule, hrest⟩ :=
      (append_cons_inj_left h.zero_not_mem_module h'.zero_not_mem_module).mp htexts
    obtain ⟨hresource, hfile⟩ :=
      (append_cons_inj_right h.zero_not_mem_file h'.zero_not_mem_file).mp hrest
    refine ⟨textBytes_inj.mp hmodule, textBytes_inj.mp hresource, textBytes_inj.mp hfile, ?_⟩
    exact (littleEndian_inj h.line h'.line).mp hline
  · rintro ⟨hmodule, hresource, hfile, hline⟩
    rw [preimage, preimage, hmodule, hresource, hfile, hline]

/-- A resource that looks like another one with a path behind it is told apart from it, and a note
without path is not told apart from one with an empty path. -/
theorem preimage_eq_iff_of_separable_nul_resource :
    let note (resource : String) (file : Option String) : SecurityNote :=
      ⟨"billing", file, 256, "security", some resource, ["user"], [], [], .empty, none, none⟩
    (note "a\x00b" none).Separable ∧ (note "a" (some "b")).Separable ∧
      (note "a\x00b" (some "")).Separable ∧
      (note "a\x00b" none).preimage ≠ (note "a" (some "b")).preimage ∧
      (note "a\x00b" none).preimage = (note "a\x00b" (some "")).preimage := by
  intro note
  have hbare : (note "a\x00b" none).Separable := ⟨by decide, by simp [note], by decide⟩
  have hpath : (note "a" (some "b")).Separable := ⟨by decide, by simp [note], by decide⟩
  have hempty : (note "a\x00b" (some "")).Separable := ⟨by decide, by simp [note], by decide⟩
  refine ⟨hbare, hpath, hempty, fun hsame => ?_, ?_⟩
  · have hresource := ((preimage_eq_iff_of_separable hbare hpath).mp hsame).2.1
    revert hresource
    decide
  · exact (preimage_eq_iff_of_separable hbare hempty).mpr ⟨rfl, rfl, rfl, rfl⟩

end SecurityNote

end TagAtlas

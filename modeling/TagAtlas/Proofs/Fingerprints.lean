import Mathlib
import TagAtlas.Cache.Files

/-!
# Fingerprints of files

What a fingerprint is the digest of tells the path of the file, whatever is in the path, as all that
follows it has a fixed length. It tells the modification time too, unless that is before 1970: such
times are all taken for the start of 1970, so a change from one of them to another goes unnoticed.
Fingerprints are the same just when digests are.
-/

namespace TagAtlas

theorem byteArray_toList_eq (bytes : ByteArray) : bytes.toList = bytes.data.toList := by
  have hloop : ∀ i r, ByteArray.toList.loop bytes i r = r.reverse ++ bytes.data.toList.drop i := by
    intro i r
    fun_induction ByteArray.toList.loop bytes i r with
    | case1 i r hi ih =>
      have hdrop : bytes.data.toList.drop i = bytes.get! i :: bytes.data.toList.drop (i + 1) := by
        rw [List.drop_eq_getElem_cons hi]
        exact congrArg (· :: _) (getElem!_pos bytes.data i hi).symm
      rw [ih, hdrop, List.reverse_cons, List.append_assoc, List.singleton_append]
    | case2 i r hi =>
      have hdrop : bytes.data.toList.drop i = [] := List.drop_of_length_le (Nat.le_of_not_lt hi)
      rw [hdrop, List.append_nil]
  exact hloop 0 []

/-- A time that a clock shows: whole seconds in 64 bits with a sign, and nanoseconds. -/
structure Time.IsShown (t : Time) : Prop where
  lower : -(2 ^ 63 * Time.second : Int) ≤ t
  upper : t < 2 ^ 63 * Time.second

theorem Time.IsShown.toNat_lt {t : Time} (h : t.IsShown) : t.toNat < 256 ^ 16 := by
  have hbound : (2 ^ 63 * Time.second : Int) ≤ (256 ^ 16 : Nat) := by decide
  exact (Int.toNat_lt' (by decide)).mpr (lt_of_lt_of_le h.upper hbound)

/-- Times before 1970 count as its start. -/
theorem Time.toNat_eq_toNat_iff {t t' : Int} : t.toNat = t'.toNat ↔ t = t' ∨ t ≤ 0 ∧ t' ≤ 0 := by
  omega

namespace Sha256

theorem digitChar_inj : ∀ m < 16, ∀ n < 16, Nat.digitChar m = Nat.digitChar n → m = n := by decide

/-- Each byte has two digits of its own. -/
theorem hex_inj {a b : List UInt8} : hex a = hex b ↔ a = b := by
  refine ⟨fun h => ?_, congrArg hex⟩
  have hdigits := String.ofList_injective h
  clear h
  induction a generalizing b with
  | nil => cases b with
    | nil => rfl
    | cons y b => cases hdigits
  | cons x a ih => cases b with
    | nil => cases hdigits
    | cons y b =>
      simp only [List.flatMap_cons, List.cons_append, List.nil_append, List.cons.injEq] at hdigits
      obtain ⟨hhigh, hlow, hrest⟩ := hdigits
      have hx := x.toNat_lt
      have hy := y.toNat_lt
      have hdiv := digitChar_inj _ (by omega) _ (by omega) hhigh
      have hmod := digitChar_inj _ (by omega) _ (by omega) hlow
      have hbyte : x = y := UInt8.toNat_inj.mp (by omega)
      rw [hbyte, ih hrest]

end Sha256

namespace Fingerprint

variable {path path' : String} {t t' : Time}

theorem textBytes_eq (s : String) : textBytes s = s.toList.flatMap String.utf8EncodeChar := by
  have hbytes : s.toUTF8 = (s.toList.flatMap String.utf8EncodeChar).toByteArray :=
    String.utf8Encode_toList.symm
  rw [textBytes, byteArray_toList_eq, hbytes, List.toList_data_toByteArray]

theorem textBytes_inj {a b : String} : textBytes a = textBytes b ↔ a = b := by
  refine ⟨fun h => ?_, congrArg textBytes⟩
  rw [textBytes, textBytes, byteArray_toList_eq, byteArray_toList_eq] at h
  exact String.toByteArray_inj.mp (ByteArray.ext (Array.toList_inj.mp h))

theorem length_littleEndian (count n : Nat) : (littleEndian count n).length = count := by
  induction count generalizing n with
  | zero => rfl
  | succ count ih => exact congrArg Nat.succ (ih (n / 256))

/-- So many bytes tell a number that has no more. -/
theorem littleEndian_inj {count m n : Nat} (hm : m < 256 ^ count) (hn : n < 256 ^ count) :
    littleEndian count m = littleEndian count n ↔ m = n := by
  refine ⟨fun h => ?_, congrArg _⟩
  induction count generalizing m n with
  | zero => omega
  | succ count ih =>
    obtain ⟨hbyte, hrest⟩ := List.cons.inj h
    have hmod : m % 256 = n % 256 := by
      simpa using congrArg UInt8.toNat hbyte
    have hdiv : m / 256 = n / 256 := by
      apply ih _ _ hrest
      · exact Nat.div_lt_of_lt_mul (Nat.pow_succ' ▸ hm)
      · exact Nat.div_lt_of_lt_mul (Nat.pow_succ' ▸ hn)
    omega

/-- A number behind a text has a fixed length, so it need not be told where it begins. -/
theorem append_littleEndian_inj {count m n : Nat} {a b : List UInt8} :
    a ++ 0 :: littleEndian count m = b ++ 0 :: littleEndian count n ↔
      a = b ∧ littleEndian count m = littleEndian count n := by
  have hlength : (0 :: littleEndian count m).length = (0 :: littleEndian count n).length := by
    rw [List.length_cons, List.length_cons, length_littleEndian, length_littleEndian]
  constructor
  · intro h
    obtain ⟨htext, hnumber⟩ := List.append_inj' h hlength
    exact ⟨htext, (List.cons.inj hnumber).2⟩
  · rintro ⟨rfl, hnumber⟩
    rw [hnumber]

/-- What a fingerprint is the digest of tells the path of the file. -/
theorem preimage_eq_iff : preimage path t = preimage path' t' ↔
    path = path' ∧ littleEndian 16 t.toNat = littleEndian 16 t'.toNat := by
  rw [preimage, preimage, append_littleEndian_inj, textBytes_inj]

/-- Files whose modification times a clock shows have the same bytes digested just when their paths
are the same, and their times, too, or else neither of these is after the start of 1970. -/
theorem same_iff_of_isShown (ht : t.IsShown) (ht' : t'.IsShown) :
    (preimage path t = preimage path' t' ↔ path = path' ∧ (t = t' ∨ t ≤ 0 ∧ t' ≤ 0)) ∧
      ((Sha256.digest (preimage path t) = Sha256.digest (preimage path' t') →
          preimage path t = preimage path' t') →
        (ofFile path t = ofFile path' t' ↔ path = path' ∧ (t = t' ∨ t ≤ 0 ∧ t' ≤ 0))) := by
  have htimes : littleEndian 16 t.toNat = littleEndian 16 t'.toNat ↔
      t = t' ∨ t ≤ 0 ∧ t' ≤ 0 :=
    (littleEndian_inj ht.toNat_lt ht'.toNat_lt).trans Time.toNat_eq_toNat_iff
  have hpreimages : preimage path t = preimage path' t' ↔
      path = path' ∧ (t = t' ∨ t ≤ 0 ∧ t' ≤ 0) := by
    rw [preimage_eq_iff, htimes]
  refine ⟨hpreimages, fun hapart => ?_⟩
  rw [ofFile, ofFile, Sha256.hex_inj, ← hpreimages]
  exact ⟨hapart, congrArg Sha256.digest⟩

/-- A change a nanosecond before 1970 is taken for one a second before it. -/
theorem same_of_changes_before_1970 :
    Time.IsShown (-1) ∧ Time.IsShown (-1000000000) ∧
      preimage "a.go" (-1) = preimage "a.go" (-1000000000) ∧
      ofFile "a.go" (-1) = ofFile "a.go" (-1000000000) := by
  have hlate : Time.IsShown (-1) := ⟨by decide, by decide⟩
  have hearly : Time.IsShown (-1000000000) := ⟨by decide, by decide⟩
  obtain ⟨hpreimages, hfingerprints⟩ := @same_iff_of_isShown "a.go" "a.go" _ _ hlate hearly
  have hbefore : (-1 : Time) ≤ 0 ∧ (-1000000000 : Time) ≤ 0 := ⟨by decide, by decide⟩
  have hsame := hpreimages.mpr ⟨rfl, .inr hbefore⟩
  exact ⟨hlate, hearly, hsame, (hfingerprints fun _ => hsame).mpr ⟨rfl, .inr hbefore⟩⟩

end Fingerprint

end TagAtlas

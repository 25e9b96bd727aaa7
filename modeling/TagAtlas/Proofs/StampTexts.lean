import TagAtlas.Proofs.TextParts
import TagAtlas.Time.Stamp

/-!
# Texts of stamps

A stamp of the calendar is read back from its text: every number is written with the digits that are
read, and the decimals that a stamp leaves out are zeros.
-/

namespace TagAtlas

open Decimal (digits ofDigits)

theorem Decimal.ofDigits_eq (ds : List Char) : ofDigits ds = Nat.ofDigitChars 10 ds 0 := rfl

/-- Zeros at the end shift a number. -/
theorem Decimal.ofDigits_append_zeros (ds : List Char) (k : Nat) :
    ofDigits (ds ++ List.replicate k '0') = ofDigits ds * 10 ^ k := by
  rw [ofDigits_eq, Nat.ofDigitChars_append, Nat.ofDigitChars_replicate_zero, Nat.mul_comm]
  rfl

namespace Stamp

variable {width n : Nat} {c : Char} {rest : List Char} {s : Stamp}

/-! ### Numbers of so many digits -/

theorem length_digits_le (hwidth : 0 < width) (hn : n < 10 ^ width) : (digits n).length ≤ width :=
  (Nat.length_toDigits_le_iff (by decide) hwidth).mpr hn

theorem length_padded (hwidth : 0 < width) (hn : n < 10 ^ width) :
    (padded width n).length = width := by
  have hlength := length_digits_le hwidth hn
  rw [padded, List.length_append, List.length_replicate]
  omega

theorem isDigit_of_mem_padded (hc : c ∈ padded width n) : c.isDigit = true := by
  rcases List.mem_append.mp hc with hzero | hdigit
  · rw [List.eq_of_mem_replicate hzero]
    rfl
  · exact Nat.isDigit_of_mem_toDigits (by decide) (by decide) hdigit

theorem ofDigits_padded (width n : Nat) : ofDigits (padded width n) = n := by
  rw [padded, Decimal.ofDigits_eq, Nat.ofDigitChars_append, Nat.ofDigitChars_replicate_zero,
    Nat.mul_zero]
  exact Nat.ofDigitChars_ten_toDigits

theorem number?_padded (hwidth : 0 < width) (hn : n < 10 ^ width) (rest : List Char) :
    number? width (padded width n ++ rest) = some (n, rest) := by
  have hlength := length_padded hwidth hn
  have hdigits : (padded width n).all Char.isDigit = true :=
    List.all_eq_true.mpr fun _ => isDigit_of_mem_padded
  rw [number?, List.take_left' hlength, List.drop_left' hlength]
  simp only [hlength, hdigits, decide_true, Bool.and_self, if_true, ofDigits_padded]

theorem mark?_cons_self (c : Char) (marks rest : List Char) :
    mark? (c :: marks) (c :: rest) = some rest := by
  rw [mark?, List.contains_cons, beq_self_eq_true, Bool.true_or, if_pos rfl]

/-! ### Decimals of a second -/

/-- The decimals that are left out are zeros. -/
theorem fraction?_padded (hwidth : 0 < width) (hmost : width ≤ 9) (hn : n < 10 ^ width) :
    fraction? ('.' :: padded width n ++ ['Z']) = some (n * 10 ^ (9 - width), ['Z']) := by
  have hlength := length_padded hwidth hn
  have hend : ∀ c ∈ ['Z'].head?, c.isDigit = false := by
    rintro c ⟨⟩
    rfl
  have htaken : (padded width n ++ ['Z']).takeWhile Char.isDigit = padded width n :=
    Text.takeWhile_append (fun _ => isDigit_of_mem_padded) hend
  have hleft : (padded width n ++ ['Z']).dropWhile Char.isDigit = ['Z'] :=
    Text.dropWhile_append (fun _ => isDigit_of_mem_padded) hend
  have hsome : (padded width n).isEmpty = false := by
    rw [List.isEmpty_eq_false_iff, ← List.length_pos_iff, hlength]
    exact hwidth
  have hnine : (padded width n ++ List.replicate 9 '0').take 9 =
      padded width n ++ List.replicate (9 - width) '0' := by
    rw [List.take_append, List.take_of_length_le (hlength.trans_le hmost), List.take_replicate,
      hlength, Nat.min_eq_left (Nat.sub_le 9 width)]
  rw [List.cons_append, fraction?]
  simp only [htaken, hleft, hsome, hnine, Decimal.ofDigits_append_zeros, ofDigits_padded]
  rfl

theorem fraction?_fraction (hn : n < 1000000000) :
    fraction? (fraction n ++ ['Z']) = some (n, ['Z']) := by
  unfold fraction
  split_ifs with hzero hmillis hmicros
  · rw [hzero]
    rfl
  · have hshift : n / 1000000 * 10 ^ (9 - 3) = n :=
      Nat.div_mul_cancel (Nat.dvd_of_mod_eq_zero hmillis)
    rw [fraction?_padded (by decide : 0 < 3) (by decide) (by omega), hshift]
  · have hshift : n / 1000 * 10 ^ (9 - 6) = n :=
      Nat.div_mul_cancel (Nat.dvd_of_mod_eq_zero hmicros)
    rw [fraction?_padded (by decide : 0 < 6) (by decide) (by omega), hshift]
  · have hshift : n * 10 ^ (9 - 9) = n := Nat.mul_one n
    rw [fraction?_padded (by decide : 0 < 9) (by decide) (by omega), hshift]

/-! ### Whole texts -/

theorem daysIn_le (year month : Nat) : daysIn year month ≤ 31 := by
  unfold daysIn
  split_ifs <;> decide

/-- A stamp of the calendar is what its text names. -/
theorem ofText?_text (h : s.isValid = true) : ofText? s.text = some s := by
  have hfields := h
  simp only [isValid, Bool.and_eq_true, decide_eq_true_eq] at hfields
  obtain ⟨⟨⟨⟨⟨⟨⟨⟨hyear, -⟩, hmonth⟩, -⟩, hday⟩, hhour⟩, hminute⟩, hsecond⟩, hnanosecond⟩ := hfields
  have hdays := daysIn_le s.year s.month
  unfold ofText? text
  rw [String.toList_ofList]
  simp only [List.append_assoc, List.cons_append, List.nil_append, Option.bind_eq_bind,
    Option.bind_eq_some_iff]
  exact ⟨_, number?_padded (by decide) (by omega) _, _, mark?_cons_self ..,
    _, number?_padded (by decide) (by omega) _, _, mark?_cons_self ..,
    _, number?_padded (by decide) (by omega) _, _, mark?_cons_self ..,
    _, number?_padded (by decide) (by omega) _, _, mark?_cons_self ..,
    _, number?_padded (by decide) (by omega) _, _, mark?_cons_self ..,
    _, number?_padded (by decide) (by omega) _, _, fraction?_fraction hnanosecond, if_pos h⟩

end Stamp

end TagAtlas

import Mathlib
import TagAtlas.Json.Token

/-!
# Numbers that are finite

What is read from decimal digits, from a whole number of 64 bits or from a finite number with its
sign turned is finite: rounding moves an exponent by no more bits than the significand has, so that
the largest exponent of the format is not reached.
-/

namespace TagAtlas.Floating

open Float.Model (Format UnpackedFloat)
open Float.Model.UnpackedFloat (Accuracy ExtendedMantissa Sign)

/-- Zero, or a number whose exponent is at most so large. -/
inductive Within (k : Int) : UnpackedFloat → Prop
  | zero (s : Sign) : Within k (.zero s)
  | finite (s : Sign) {m : Nat} {e : Int} (hm : 0 < m) (he : e ≤ k) : Within k (.finite s m e hm)

instance (k : Int) : (u : UnpackedFloat) → Decidable (Within k u)
  | .zero s => .isTrue (.zero s)
  | .finite s m e hm =>
    if he : e ≤ k then .isTrue (.finite s hm he) else .isFalse fun h => by cases h; contradiction
  | .infinity s => .isFalse nofun
  | .notANumber => .isFalse nofun

variable {k l : Int} {u v : UnpackedFloat} {s : Sign} {m n b : Nat} {e : Int}

theorem Within.mono (h : Within k u) (hle : k ≤ l) : Within l u := by
  cases h with
  | zero s => exact .zero s
  | finite s hm he => exact .finite s hm (Int.le_trans he hle)

theorem Within.neg (h : Within k u) : Within k u.neg := by
  cases h with
  | zero s => exact .zero (-s)
  | finite s hm he => exact .finite (-s) hm he

theorem Within.isFinite (h : Within k u) : u.isFinite = true := by
  cases h with
  | zero => rfl
  | finite => rfl

/-! ## Packing and unpacking -/

theorem exponentBias_binary64 : (Format.binary64.exponentBias : Int) = 1023 := by decide

theorem minExponent_binary64 : Format.binary64.minExponent = -1074 := by decide

theorem mantissaBits_binary64 : (Format.binary64.mantissaBits : Int) = 53 := rfl

abbrev exponentField (bits : BitVec 64) : BitVec 11 :=
  @UnpackedFloat.unpackExponent Format.binary64 bits

/-- The bits of the significand, without the leading one. -/
abbrev mantissaField (bits : BitVec 64) : BitVec 52 :=
  @UnpackedFloat.unpackMantissa Format.binary64 bits

theorem within_unpack_of_field {bits : BitVec 64} (hmin : -1074 ≤ k)
    (hfield : exponentField bits ≠ -1#11) (hle : ((exponentField bits).toNat : Int) - 1075 ≤ k) :
    Within k (UnpackedFloat.unpack Format.binary64 bits) := by
  unfold UnpackedFloat.unpack
  dsimp only
  rw [if_neg hfield, exponentBias_binary64]
  split
  next hzero =>
    split
    · exact .zero _
    · refine .finite _ _ ?_
      rw [hzero]
      exact hmin
  next =>
    unfold exponentField at hle
    exact .finite _ _ (by omega)

theorem mantissa_lt_of_unpack {bits : BitVec 64} {hm : 0 < m}
    (h : UnpackedFloat.unpack Format.binary64 bits = .finite s m e hm) : m < 0x20000000000000 := by
  have hlt : (mantissaField bits).toNat < 0x10000000000000 := BitVec.isLt _
  unfold UnpackedFloat.unpack at h
  dsimp only at h
  split at h
  next => split at h <;> cases h
  next =>
    split at h
    next =>
      split at h
      · cases h
      · cases h
        omega
    next =>
      cases h
      exact BitVec.isLt (1#1 ++ mantissaField bits)

theorem within_unpack {x : Float.Model} (h : x.isFinite = true) : Within 971 x.unpack := by
  by_cases hfield : exponentField x.toBits.toBitVec = -1#11
  · unfold Float.Model.isFinite Float.Model.unpack UnpackedFloat.unpack at h
    dsimp only at h
    rw [if_pos hfield] at h
    split at h <;> cases h
  · refine within_unpack_of_field (by decide) hfield ?_
    generalize exponentField x.toBits.toBitVec = field at hfield ⊢
    have hlt : field.toNat < 2048 := field.isLt
    have hne : field.toNat ≠ 2047 := fun hall => hfield (BitVec.eq_of_toNat_eq hall)
    omega

theorem toNat_field (h : n < 2047) : (BitVec.ofNat 11 n).toNat = n := by
  rw [BitVec.toNat_ofNat]
  omega

theorem field_ne (h : n < 2047) : BitVec.ofNat 11 n ≠ -1#11 := by
  intro hall
  have hvalue := toNat_field h
  rw [hall] at hvalue
  have hones : (-1#11).toNat = 2047 := by decide
  omega

theorem within_unpack_pack (h : Within k u) (hmin : -1074 ≤ k) (hmax : k ≤ 971) :
    Within k (Float.Model.pack u).unpack := by
  have hfield : ∀ (s : Sign) (field : BitVec 11) (mantissa : BitVec 52), field ≠ -1#11 →
      (field.toNat : Int) - 1075 ≤ k →
      Within k (UnpackedFloat.unpack Format.binary64
        (UnpackedFloat.packComponents Format.binary64 s field mantissa)) := by
    intro s field mantissa hne hle
    refine within_unpack_of_field hmin ?_ ?_
    · rwa [exponentField, UnpackedFloat.unpackExponent_packComponents]
    · rwa [exponentField, UnpackedFloat.unpackExponent_packComponents]
  change Within k (UnpackedFloat.unpack Format.binary64 (UnpackedFloat.pack Format.binary64 u))
  have hbias := exponentBias_binary64
  have hzero : ((0#11 : BitVec 11).toNat : Int) - 1075 ≤ k := by
    rw [BitVec.toNat_ofNat]
    omega
  fun_cases UnpackedFloat.pack Format.binary64 u with
  | case1 => cases h
  | case2 s => cases h
  | case3 s => exact hfield s 0#11 _ (by decide) hzero
  | case4 s m e hm biased hlarge =>
    -- an exponent within the limit is not packed as infinity
    have hover : 2048 ≤ biased + 1 := hlarge
    obtain ⟨_, _, he⟩ := h
    have hbits : (Format.binary64.mantissaBitsWithoutImplicit : Int) = 52 := rfl
    omega
  | case5 s m e hm bits biased hroom hnormal =>
    have hlt : biased < 2047 := by simpa using hroom
    obtain ⟨_, _, he⟩ := h
    have hbits : (Format.binary64.mantissaBitsWithoutImplicit : Int) = 52 := rfl
    refine hfield s _ _ (field_ne hlt) ?_
    rw [toNat_field hlt]
    omega
  | case6 s m e hm bits biased hroom hnormal => exact hfield s 0#11 _ (by decide) hzero

theorem isNaN_unpack_pack (h : u.isNaN = false) : (Float.Model.pack u).isNaN = false := by
  have hfield : ∀ (s : Sign) (field : BitVec 11) (mantissa : BitVec 52),
      (field = -1#11 → mantissa = 0#52) →
      (UnpackedFloat.unpack Format.binary64
        (UnpackedFloat.packComponents Format.binary64 s field mantissa)).isNaN = false := by
    intro s field mantissa hinfinite
    unfold UnpackedFloat.unpack
    simp only [UnpackedFloat.unpackExponent_packComponents,
      UnpackedFloat.unpackMantissa_packComponents]
    split
    next hall =>
      rw [if_pos (hinfinite hall)]
      rfl
    next =>
      split
      · split <;> rfl
      · rfl
  change (UnpackedFloat.unpack Format.binary64
    (UnpackedFloat.pack Format.binary64 u)).isNaN = false
  fun_cases UnpackedFloat.pack Format.binary64 u with
  | case1 => cases h
  | case2 s => exact hfield s _ _ fun _ => rfl
  | case3 s => exact hfield s _ _ fun _ => rfl
  | case4 s m e hm biased hlarge => exact hfield s _ _ fun _ => rfl
  | case5 s m e hm bits biased hroom hnormal =>
    have hlt : biased < 2047 := by simpa using hroom
    exact hfield s _ _ fun hall => absurd hall (field_ne hlt)
  | case6 s m e hm bits biased hroom hnormal =>
    exact hfield s _ _ fun hall => absurd hall (by decide)

/-! ## Rounding -/

theorem log2_le_of_le (h : m ≤ 2 ^ b) : m.log2 ≤ b := by
  by_cases hzero : m = 0
  · subst hzero
    exact Nat.zero_le b
  · have hlt : m < 2 ^ (b + 1) := Nat.lt_of_le_of_lt h (Nat.pow_lt_pow_succ (by decide))
    exact Nat.le_of_lt_succ ((Nat.log2_lt hzero).mpr hlt)

theorem mantissa_shift_le (em : ExtendedMantissa) (n : Nat) :
    (em >>> n).mantissa ≤ em.mantissa := by
  change (n.repeat ExtendedMantissa.shiftRightOne em).mantissa ≤ em.mantissa
  induction n with
  | zero => exact Nat.le_refl _
  | succ n ih => exact Nat.le_trans (Nat.div_le_self _ _) ih

theorem mantissa_ofMantissaAndAccuracy (m : Nat) (a : Accuracy) :
    (ExtendedMantissa.ofMantissaAndAccuracy m a).mantissa = m := by
  rcases a with _ | (_ | _ | _) <;> rfl

theorem roundedMantissa_le (em : ExtendedMantissa) : em.roundedMantissa ≤ em.mantissa + 1 := by
  unfold ExtendedMantissa.roundedMantissa
  rcases em.accuracy with _ | (_ | _ | _) <;>
    simp only [UnpackedFloat.Accuracy.roundToNearestEven] <;> omega

theorem mantissa_shiftToTargetExponent_le (m : Nat) (e : Int) (a : Accuracy) :
    (UnpackedFloat.shiftToTargetExponent Format.binary64 m e a).1.mantissa ≤ m :=
  Nat.le_trans (mantissa_shift_le _ _) (Nat.le_of_eq (mantissa_ofMantissaAndAccuracy m a))

theorem exponent_shiftToTargetExponent_le (a : Accuracy) (hm : m ≤ 2 ^ b) (he : e ≤ k)
    (hmin : -1074 ≤ k) :
    (UnpackedFloat.shiftToTargetExponent Format.binary64 m e a).2 ≤ k + b := by
  have hlog := log2_le_of_le hm
  simp only [UnpackedFloat.shiftToTargetExponent, UnpackedFloat.shiftToExponent,
    Format.targetExponent, Float.Model.totalExponent, minExponent_binary64, mantissaBits_binary64]
  omega

theorem within_roundWithAccuracy (s : Sign) (a : Accuracy) (hm : m < 2 ^ b) (he : e ≤ k)
    (hmin : -1074 ≤ k) :
    Within (k + 2 * b) (UnpackedFloat.roundWithAccuracy Format.binary64 s m e a) := by
  unfold UnpackedFloat.roundWithAccuracy
  dsimp only
  have hfirst := exponent_shiftToTargetExponent_le a (Nat.le_of_lt hm) he hmin
  have hrounded := roundedMantissa_le
    (UnpackedFloat.shiftToTargetExponent Format.binary64 m e a).1
  have hshifted := mantissa_shiftToTargetExponent_le m e a
  have hsecond := exponent_shiftToTargetExponent_le .exact
    (Nat.le_trans hrounded (Nat.lt_of_le_of_lt hshifted hm)) hfirst (by omega)
  split
  · exact .zero s
  · exact .finite s _ (by omega)

theorem isNaN_roundWithAccuracy (s : Sign) (m : Nat) (e : Int) (a : Accuracy) :
    (UnpackedFloat.roundWithAccuracy Format.binary64 s m e a).isNaN = false := by
  unfold UnpackedFloat.roundWithAccuracy
  dsimp only
  split <;> rfl

/-! ## Whole numbers -/

theorem within_ofNat (h : n < 0x20000000000000) :
    Within 214 (UnpackedFloat.ofNat Format.binary64 n) := by
  unfold UnpackedFloat.ofNat UnpackedFloat.ofInt UnpackedFloat.normalize
  split
  next hneg => exact absurd (Int.compare_eq_lt.mp hneg) (by omega)
  next => exact .zero _
  next =>
    have hlog := log2_le_of_le (b := 53) (Nat.le_of_lt h)
    rw [Int.toNat_natCast]
    simp only [UnpackedFloat.round, UnpackedFloat.decreaseExponent, Format.targetExponent,
      Float.Model.totalExponent, minExponent_binary64, mantissaBits_binary64]
    generalize hshift : (0 - max ((n.log2 : Int) + 1 + 0 - 53) (-1074)).toNat = shift
    have hpow : 2 ^ shift ≤ 2 ^ 53 := Nat.pow_le_pow_right (by decide) (by omega)
    have hmul : n <<< shift < 2 ^ 107 := by
      rw [Nat.shiftLeft_eq]
      have := Nat.mul_le_mul (Nat.le_of_lt h) hpow
      omega
    exact within_roundWithAccuracy (k := 0) .positive .exact hmul (by omega) (by decide)

theorem within_mul {s' : Sign} {m' : Nat} {e' : Int} {hm : 0 < m} {hm' : 0 < m'}
    (hmul : m * m' < 2 ^ b) (he : e + e' ≤ k) (hmin : -1074 ≤ k) :
    Within (k + 2 * b)
      (UnpackedFloat.mul Format.binary64 (.finite s m e hm) (.finite s' m' e' hm')) :=
  within_roundWithAccuracy _ _ hmul he hmin

/-- The product of two numbers whose exponents are not too large together. -/
theorem isFinite_mul {x y : Float.Model} (hx : Within k x.unpack) (hy : Within l y.unpack)
    (hmin : -1074 ≤ k + l) (hmax : k + l ≤ 757) : (x.mul y).isFinite = true := by
  suffices h : Within 971 (UnpackedFloat.mul Format.binary64 x.unpack y.unpack) from
    (within_unpack_pack h (by decide) (by decide)).isFinite
  generalize hu : x.unpack = u at hx
  generalize hv : y.unpack = v at hy
  cases hx with
  | zero s =>
    cases hy with
    | zero s' => exact .zero _
    | finite s' hm' he' => exact .zero _
  | finite s hm he =>
    cases hy with
    | zero s' => exact .zero _
    | finite s' hm' he' =>
      have hmul := Nat.mul_le_mul (Nat.le_of_lt (mantissa_lt_of_unpack hu))
        (Nat.le_of_lt (mantissa_lt_of_unpack hv))
      exact (within_mul (b := 107) (by omega) (Int.add_le_add he he') hmin).mono (by omega)

theorem toModel_toFloat (h : n < 0x10000000000000000) :
    n.toUInt64.toFloat.toModel = Float.Model.pack (UnpackedFloat.ofNat Format.binary64 n) := by
  have hvalue : n.toUInt64.toNat = n := UInt64.toNat_ofNat_of_lt' h
  change Float.Model.pack (UnpackedFloat.ofNat Format.binary64 n.toUInt64.toNat) = _
  rw [hvalue]

theorem within_toFloat (h : n < 0x20000000000000) :
    Within 214 n.toUInt64.toFloat.toModel.unpack := by
  rw [toModel_toFloat (Nat.lt_trans h (by decide))]
  exact within_unpack_pack (within_ofNat h) (by decide) (by decide)

theorem within_ofScientific_zero (h : n < 0x10000000000000000) :
    Within 971 (UnpackedFloat.ofScientific Format.binary64 n 0) := by
  have hexponents : (2 : Int) ^ Format.binary64.exponentBits = 2048 := by decide
  fun_cases UnpackedFloat.ofScientific Format.binary64 n 0 with
  | case1 => exact .zero _
  | case2 _ hlarge => exact absurd hlarge (by decide)
  | case3 _ _ hsmall => exact absurd hsmall (by omega)
  | case4 hn =>
    refine (within_mul (k := 0) (b := 119) ?_ (by decide) (by decide)).mono (by decide)
    have hbits : Format.binary64.mantissaBits = 53 := rfl
    rw [hbits, Nat.shiftLeft_eq, Int.toNat_zero]
    omega
  | case5 _ _ _ hneg => exact absurd (Int.le_refl 0) hneg

theorem isFinite_ofNat (h : n < 0x10000000000000000) : (Float.ofNat n).isFinite = true := by
  change (Float.ofScientific n false 0).isFinite = true
  unfold Float.ofScientific
  split
  next hfast =>
    have hone : Within (-52) (Float.ofBits 0x3FF0000000000000).toModel.unpack := by decide +kernel
    exact isFinite_mul (within_toFloat hfast.1) hone (by decide) (by decide)
  next => exact (within_unpack_pack (within_ofScientific_zero h) (by decide) (by decide)).isFinite

theorem isFinite_neg {x : Float} (h : x.isFinite = true) : (-x).isFinite = true :=
  (within_unpack_pack (within_unpack h).neg (by decide) (by decide)).isFinite

theorem isFinite_ofInt {i : Int} (hlow : -0x10000000000000000 < i)
    (hhigh : i < 0x10000000000000000) : (Float.ofInt i).isFinite = true := by
  cases i with
  | ofNat n => exact isFinite_ofNat (Int.ofNat_lt.mp hhigh)
  | negSucc n => exact isFinite_neg (isFinite_ofNat (by omega))

/-! ## Decimal numbers -/

theorem isFinite_of_not {x : Float} (hnan : x.isNaN = false) (hinf : x.isInf = false) :
    x.isFinite = true := by
  change x.toModel.unpack.isNaN = false at hnan
  change x.toModel.unpack.isInf = false at hinf
  change x.toModel.unpack.isFinite = true
  cases hu : x.toModel.unpack with
  | notANumber =>
    rw [hu] at hnan
    cases hnan
  | infinity =>
    rw [hu] at hinf
    cases hinf
  | zero => rfl
  | finite => rfl

def isNonzero : UnpackedFloat → Bool
  | .finite .. => true
  | _ => false

theorem isNonzero_powers (e : Nat) (h : e < Float.exactlyRepresentablePowersOfTen.size) :
    isNonzero Float.exactlyRepresentablePowersOfTen[e].toModel.unpack = true := by
  have hall : ∀ x ∈ Float.exactlyRepresentablePowersOfTen, isNonzero x.toModel.unpack = true := by
    decide +kernel
  exact hall _ (Array.getElem_mem _)

theorem isNaN_mul (hu : u.isFinite = true) (hv : isNonzero v = true) :
    (UnpackedFloat.mul Format.binary64 u v).isNaN = false := by
  cases v with
  | notANumber => cases hv
  | infinity => cases hv
  | zero => cases hv
  | finite s m e hm =>
    cases u with
    | notANumber => cases hu
    | infinity => cases hu
    | zero => rfl
    | finite s m e hm => exact isNaN_roundWithAccuracy ..

theorem isNaN_div (hu : u.isFinite = true) (hv : isNonzero v = true) :
    (UnpackedFloat.div Format.binary64 u v).isNaN = false := by
  cases v with
  | notANumber => cases hv
  | infinity => cases hv
  | zero => cases hv
  | finite s m e hm =>
    cases u with
    | notANumber => cases hu
    | infinity => cases hu
    | zero => rfl
    | finite s m e hm => exact isNaN_roundWithAccuracy ..

theorem isNaN_unpacked_ofScientific (m : Nat) (e : Int) :
    (UnpackedFloat.ofScientific Format.binary64 m e).isNaN = false := by
  fun_cases UnpackedFloat.ofScientific Format.binary64 m e with
  | case1 => rfl
  | case2 => rfl
  | case3 => rfl
  | case4 => exact isNaN_mul rfl rfl
  | case5 => exact isNaN_div rfl rfl

theorem isNaN_ofScientific (m : Nat) (negative : Bool) (e : Nat) :
    (Float.ofScientific m negative e).isNaN = false := by
  unfold Float.ofScientific
  split
  next hfast =>
    have hsignificand : m.toUInt64.toFloat.toModel.unpack.isFinite = true :=
      (within_toFloat hfast.1).isFinite
    have hpower := isNonzero_powers e (Nat.lt_succ_of_le hfast.2)
    cases negative with
    | true => exact isNaN_unpack_pack (isNaN_div hsignificand hpower)
    | false => exact isNaN_unpack_pack (isNaN_mul hsignificand hpower)
  next => exact isNaN_unpack_pack (isNaN_unpacked_ofScientific m _)

theorem isFinite_zero : (0.0 : Float).isFinite = true := by decide +kernel

theorem isFinite_of_nearest? {significand : Nat} {power : Int} {x : Float}
    (h : Json.nearest? significand power = some x) : x.isFinite = true := by
  have hchecked : ∀ {y : Float}, y.isNaN = false → (if y.isInf then none else some y) = some x →
      x.isFinite = true := by
    intro y hnan hy
    split at hy
    · cases hy
    · next hinf =>
      cases hy
      exact isFinite_of_not hnan (Bool.eq_false_iff.mpr hinf)
  unfold Json.nearest? at h
  dsimp only at h
  split at h
  · cases h
    exact isFinite_zero
  · split at h
    · cases h
    · split at h
      · cases h
        exact isFinite_zero
      · split at h
        · exact hchecked (isNaN_ofScientific ..) h
        · exact hchecked (isNaN_ofScientific ..) h

end TagAtlas.Floating

import Mathlib
import VocalScore.Number.Binary64

/-!
# Numbers and their bits

The logic has a number as 64 bits, of which only one pattern is not a number. A number is its
sign and its magnitude (`ofMagnitude_magnitude`), and what `parts` reads off a number determines
it.

## Key results

- `eq_of_parts_finite`: a finite number has the bits of its sign, exponent and mantissa
- `eq_of_parts_infinite` / `eq_of_parts_nan`: there are two infinities and one value that is
  not a number
-/

namespace VocalScore.Binary64

open Float.Model Float.Model.UnpackedFloat

/-! ### The fields of the bits -/

/-- The fraction is the low 52 bits. -/
theorem toNat_unpackMantissa (b : BitVec 64) :
    (@unpackMantissa Format.binary64 b).toNat = b.toNat % fractions := by
  rw [unpackMantissa_def, BitVec.extractLsb'_toNat]
  simp [fractions]

/-- The exponent is the 11 bits above the fraction. -/
theorem toNat_unpackExponent (b : BitVec 64) :
    (@unpackExponent Format.binary64 b).toNat = b.toNat / fractions % 2048 := by
  rw [unpackExponent_def, BitVec.extractLsb'_toNat]
  simp [fractions, Nat.shiftRight_eq_div_pow]

/-! ### Sign, exponent and mantissa -/

/-- A mantissa and an exponent as the bits of a finite number hold them. -/
structure Canonical (m : Nat) (e : Int) : Prop where
  lt : m < 2 * fractions
  lo : -1074 ≤ e
  hi : e ≤ 971
  full : fractions ≤ m ∨ e = -1074

/-- The bits of a mantissa and an exponent, without sign. -/
def bitsOf (m : Nat) (e : Int) : Nat := (e + 1074).toNat * fractions + m

/-- Bits are a sign and the bits below it. -/
theorem mod_signBit_add (bits : Nat) (h : bits < 2 ^ 64) :
    bits % signBit + (if signBit ≤ bits then signBit else 0) = bits := by
  split <;> simp only [signBit] at * <;> omega

/-- Bits that stand for a finite number are made of its sign, exponent and mantissa. -/
theorem bitsOf_of_partsOfBits {bits : Nat} {negative : Bool} {m : Nat} {e : Int}
    (h : partsOfBits bits = .finite negative m e) :
    negative = decide (signBit ≤ bits) ∧ Canonical m e ∧ bits % signBit = bitsOf m e := by
  have hfraction : bits % fractions < fractions := Nat.mod_lt _ (by decide)
  simp only [partsOfBits] at h
  split at h
  · split at h <;> cases h
  next hfield =>
    split at h
    next hzero =>
      -- The exponent field is zero: a subnormal number, or zero.
      cases h
      refine ⟨rfl, ⟨by omega, by decide, by decide, Or.inr rfl⟩, ?_⟩
      simp only [bitsOf, signBit, fractions] at *
      omega
    next hzero =>
      cases h
      refine ⟨rfl, ⟨by omega, by omega, by omega, Or.inl (by omega)⟩, ?_⟩
      simp only [bitsOf, signBit, fractions] at *
      omega

/-- A number is its sign and its bits without it. -/
theorem ofMagnitude_magnitude (x : Float) :
    ofMagnitude (decide (signBit ≤ x.toBits.toNat)) (magnitude x) = x := by
  have hlt := x.toBits.toNat_lt
  have hbits := mod_signBit_add x.toBits.toNat hlt
  refine Eq.trans ?_ (Float.ofBits_toBits x)
  rw [ofMagnitude, magnitude]
  congr 1
  apply UInt64.toNat_inj.1
  rw [UInt64.toNat_ofNat']
  -- The sign bit is put back exactly if it was there.
  split at hbits
  next hs => rw [decide_eq_true hs, if_pos rfl, hbits, Nat.mod_eq_of_lt hlt]
  next hs =>
    rw [Nat.add_zero] at hbits
    rw [decide_eq_false hs, if_neg (by decide), hbits, Nat.mod_eq_of_lt hlt]

/-- A finite number has the bits of its sign, exponent and mantissa. -/
theorem eq_of_parts_finite {x : Float} {negative : Bool} {m : Nat} {e : Int}
    (h : parts x = .finite negative m e) :
    Canonical m e ∧ ofMagnitude negative (bitsOf m e) = x := by
  obtain ⟨rfl, hc, hbits⟩ := bitsOf_of_partsOfBits h
  rw [← hbits]
  exact ⟨hc, ofMagnitude_magnitude x⟩

/-- There are two infinities. -/
theorem eq_of_parts_infinite {x : Float} {negative : Bool} (h : parts x = .infinite negative) :
    infinity negative = x := by
  have hx := ofMagnitude_magnitude x
  simp only [parts, partsOfBits] at h
  split at h
  next hfield =>
    split at h
    next hfraction =>
      cases h
      -- All exponent bits and no fraction leave one pattern besides the sign.
      have hm : magnitude x = infinityBits := by
        simp only [magnitude, infinityBits, signBit, fractions] at *
        omega
      rwa [hm] at hx
    next => cases h
  next => split at h <;> cases h

/-- There is one value that is not a number. -/
theorem eq_of_parts_nan {x : Float} (h : parts x = .nan) : nan = x := by
  obtain ⟨⟨bits, valid⟩⟩ := x
  have hb : bits.toBitVec = packedNaN Format.binary64 := by
    change partsOfBits bits.toNat = .nan at h
    simp only [partsOfBits] at h
    split at h
    next hfield =>
      split at h
      next => cases h
      next hfraction =>
        -- A model of a float has one pattern only for what is not a number.
        refine valid.eq_packedNaN (BitVec.eq_of_toNat_eq ?_) fun h0 => hfraction ?_
        · rw [toNat_unpackExponent]; exact hfield
        · rw [← UInt64.toNat_toBitVec, ← toNat_unpackMantissa, h0]; rfl
    next => split at h <;> cases h
  have hbits : bits = 0x7FF8000000000000 := UInt64.toBitVec_inj.1 hb
  rw [← Float.ofBits_toBits ⟨⟨bits, valid⟩⟩]
  show nan = Float.ofBits bits
  rw [hbits, nan]

end VocalScore.Binary64

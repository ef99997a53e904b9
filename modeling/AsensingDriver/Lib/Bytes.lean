import Mathlib.Algebra.GroupWithZero.Nat
import Mathlib.Data.List.TakeDrop
import Mathlib.Tactic.Common

/-! Bytes.  Splitting a little-endian word into bytes by shifts and joining the bytes by shifts
gives the word back, also for a signed word that is shifted arithmetically; and a joined word that
is small has no high bytes.  The XOR of a list of bytes splits over an append, and replacing one
byte changes it by the difference of the two bytes, so a replacement by a different byte always
shows. -/

namespace LittleEndian

theorem join_split16 (v : Int16) :
    (v.toUInt16.toUInt8.toUInt16 ||| ((v >>> 8).toUInt16.toUInt8.toUInt16 <<< 8)).toInt16 = v := by
  apply Int16.toBitVec_inj.mp
  apply BitVec.eq_of_getLsbD_eq
  intro i hi
  have h8 : (UInt16.toBitVec 8 % 16).toNat = 8 := rfl
  have h8' : ((Int16.toBitVec 8).smod 16).toNat = 8 := rfl
  simp only [UInt16.toBitVec_toInt16, UInt16.toBitVec_or, UInt16.toBitVec_shiftLeft,
    UInt8.toBitVec_toUInt16, UInt16.toBitVec_toUInt8, Int16.toBitVec_toUInt16,
    Int16.toBitVec_shiftRight, BitVec.getLsbD_or, BitVec.shiftLeft_eq', BitVec.getLsbD_shiftLeft,
    BitVec.getLsbD_setWidth, BitVec.sshiftRight_eq', BitVec.getLsbD_sshiftRight, h8, h8']
  grind

theorem join_split32 (v : UInt32) :
    v.toUInt8.toUInt32 ||| ((v >>> 8).toUInt8.toUInt32 <<< 8) |||
      ((v >>> 16).toUInt8.toUInt32 <<< 16) ||| ((v >>> 24).toUInt8.toUInt32 <<< 24) = v := by
  apply UInt32.toBitVec_inj.mp
  apply BitVec.eq_of_getLsbD_eq
  intro i hi
  have h8 : (UInt32.toBitVec 8 % 32).toNat = 8 := rfl
  have h16 : (UInt32.toBitVec 16 % 32).toNat = 16 := rfl
  have h24 : (UInt32.toBitVec 24 % 32).toNat = 24 := rfl
  simp only [UInt32.toBitVec_or, UInt32.toBitVec_shiftLeft, UInt8.toBitVec_toUInt32,
    UInt32.toBitVec_toUInt8, UInt32.toBitVec_shiftRight, BitVec.getLsbD_or, BitVec.shiftLeft_eq',
    BitVec.getLsbD_shiftLeft, BitVec.getLsbD_setWidth, BitVec.ushiftRight_eq',
    BitVec.getLsbD_ushiftRight, h8, h16, h24]
  grind

section Join

variable (b0 b1 b2 b3 : UInt8)

theorem split_join32 :
    let w := b0.toUInt32 ||| (b1.toUInt32 <<< 8) ||| (b2.toUInt32 <<< 16) ||| (b3.toUInt32 <<< 24)
    (w >>> 16).toUInt8 = b2 ∧ (w >>> 24).toUInt8 = b3 := by
  have h8 : (UInt32.toBitVec 8 % 32).toNat = 8 := rfl
  have h16 : (UInt32.toBitVec 16 % 32).toNat = 16 := rfl
  have h24 : (UInt32.toBitVec 24 % 32).toNat = 24 := rfl
  constructor
  all_goals
    apply UInt8.toBitVec_inj.mp
    apply BitVec.eq_of_getLsbD_eq
    intro i hi
    simp only [UInt32.toBitVec_or, UInt32.toBitVec_shiftLeft, UInt8.toBitVec_toUInt32,
      UInt32.toBitVec_toUInt8, UInt32.toBitVec_shiftRight, BitVec.getLsbD_or, BitVec.shiftLeft_eq',
      BitVec.getLsbD_shiftLeft, BitVec.getLsbD_setWidth, BitVec.ushiftRight_eq',
      BitVec.getLsbD_ushiftRight, h8, h16, h24]
    grind

variable {b0 b1 b2 b3}

/-- A word of at most 16 bits has no high bytes. -/
theorem high_bytes_eq_zero (h : (b0.toUInt32 ||| (b1.toUInt32 <<< 8) ||| (b2.toUInt32 <<< 16) |||
    (b3.toUInt32 <<< 24)).toNat < 2 ^ 16) : b2 = 0 ∧ b3 = 0 := by
  obtain ⟨h2, h3⟩ := split_join32 b0 b1 b2 b3
  generalize b0.toUInt32 ||| (b1.toUInt32 <<< 8) ||| (b2.toUInt32 <<< 16) |||
    (b3.toUInt32 <<< 24) = w at h h2 h3
  have h16 : w >>> 16 = 0 := by
    apply UInt32.toNat_inj.mp
    rw [UInt32.toNat_shiftRight]
    show w.toNat >>> 16 = 0
    rw [Nat.shiftRight_eq_div_pow]
    omega
  have h24 : w >>> 24 = 0 := by
    apply UInt32.toNat_inj.mp
    rw [UInt32.toNat_shiftRight]
    show w.toNat >>> 24 = 0
    rw [Nat.shiftRight_eq_div_pow]
    omega
  rw [h16] at h2
  rw [h24] at h3
  exact ⟨h2.symm, h3.symm⟩

end Join

end LittleEndian

namespace Xor

/-- The XOR of the bytes of `l`. -/
def sum (l : List UInt8) : UInt8 := l.foldl (· ^^^ ·) 0

theorem foldl_eq (a : UInt8) (l : List UInt8) : l.foldl (· ^^^ ·) a = a ^^^ sum l := by
  induction l generalizing a with
  | nil => exact UInt8.xor_zero.symm
  | cons b l ih =>
    rw [sum, List.foldl_cons, List.foldl_cons, ih, ih (0 ^^^ b), UInt8.zero_xor, UInt8.xor_assoc]

theorem sum_append (l l' : List UInt8) : sum (l ++ l') = sum l ^^^ sum l' := by
  rw [sum, List.foldl_append, foldl_eq]
  rfl

theorem sum_cons (b : UInt8) (l : List UInt8) : sum (b :: l) = b ^^^ sum l := by
  rw [sum, List.foldl_cons, foldl_eq, UInt8.zero_xor]

/-- Replacing a byte changes the XOR unless the two bytes are equal. -/
theorem sum_set_eq_iff {l : List UInt8} {i : Nat} (v : UInt8) (h : i < l.length) :
    sum (l.set i v) = sum l ↔ v = l[i] := by
  have hold : l = l.take i ++ l[i] :: l.drop (i + 1) := by
    rw [List.getElem_cons_drop, List.take_append_drop]
  have hnew : l.set i v = l.take i ++ v :: l.drop (i + 1) := by
    rw [List.set_eq_take_append_cons_drop, if_pos h]
  rw [hnew, sum_append, sum_cons]
  conv_lhs => rhs; rw [hold, sum_append, sum_cons]
  rw [UInt8.xor_right_inj, UInt8.xor_left_inj]

end Xor

/-!
Words and their bytes. A word has sixteen bits and holds two bytes, the high one and the low one.
Addresses are words, so address arithmetic wraps at the top of the address space; a displacement
is a signed byte, extended to a word before it is added.
-/

namespace SM83.Word

def high (word : UInt16) : UInt8 :=
  (word >>> 8).toUInt8

def low (word : UInt16) : UInt8 :=
  word.toUInt8

def ofBytes (high low : UInt8) : UInt16 :=
  high.toUInt16 <<< 8 ||| low.toUInt16

/-- A signed byte as a word, the sign copied into the high byte. -/
def ofSigned (offset : Int8) : UInt16 :=
  offset.toInt16.toUInt16

theorem toNat_high (word : UInt16) : (high word).toNat = word.toNat / 256 := by
  have := word.toNat_lt
  simp [high, Nat.shiftRight_eq_div_pow]
  omega

theorem toNat_low (word : UInt16) : (low word).toNat = word.toNat % 256 := by
  simp [low]

/-- The high byte counts 256 times. -/
theorem toNat_ofBytes (high low : UInt8) :
    (ofBytes high low).toNat = 256 * high.toNat + low.toNat := by
  have fits := high.toNat_lt
  simp only [ofBytes, UInt16.toNat_or, UInt16.toNat_shiftLeft, UInt8.toNat_toUInt16]
  rw [Nat.mod_eq_of_lt (by simp [Nat.shiftLeft_eq]; omega)]
  exact (Nat.shiftLeft_add_eq_or_of_lt low.toNat_lt _).symm.trans
    (by simp [Nat.shiftLeft_eq, Nat.mul_comm])

@[simp] theorem high_ofBytes (hi lo : UInt8) : high (ofBytes hi lo) = hi := by
  have := lo.toNat_lt
  apply UInt8.toNat_inj.mp
  rw [toNat_high, toNat_ofBytes]
  omega

@[simp] theorem low_ofBytes (hi lo : UInt8) : low (ofBytes hi lo) = lo := by
  have := lo.toNat_lt
  apply UInt8.toNat_inj.mp
  rw [toNat_low, toNat_ofBytes]
  omega

/-- A word is determined by its two bytes. -/
@[simp] theorem ofBytes_high_low (word : UInt16) : ofBytes (high word) (low word) = word := by
  apply UInt16.toNat_inj.mp
  rw [toNat_ofBytes, toNat_high, toNat_low]
  omega

end SM83.Word

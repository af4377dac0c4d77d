import Mathlib.Data.List.Basic

/-!
A memory of bytes, with an address for each, and what is stored in several of them at once.
-/

namespace G2Common.ByteMemory

abbrev Memory := Nat → UInt8

/-- The bytes are stored one behind another, from address `p` on. -/
def store (m : Memory) (p : Nat) (bytes : List UInt8) : Memory :=
  fun a => if p ≤ a then bytes[a - p]?.getD (m a) else m a

/-- A byte of a number in two's complement, the lowest one first. -/
def byteOf (value : Int) (k : Nat) : UInt8 := UInt8.ofInt (value >>> (8 * k))

/-- The bytes of an `int` of 32 bits, as a little-endian target stores it. -/
def intBytes (value : Int) : List UInt8 :=
  [byteOf value 0, byteOf value 1, byteOf value 2, byteOf value 3]

variable {m : Memory} {p a k : Nat} {bytes : List UInt8} {b : UInt8}

theorem store_at (h : bytes[k]? = some b) : store m p bytes (p + k) = b := by
  rw [store, if_pos (Nat.le_add_right p k), Nat.add_sub_cancel_left, h, Option.getD_some]

/-- What is not in the range keeps its byte. -/
theorem store_outside (h : p ≤ a → bytes[a - p]? = none) : store m p bytes a = m a := by
  rw [store]
  split
  case isTrue hle => rw [h hle, Option.getD_none]
  case isFalse => rfl

theorem byteOf_zero (value : Int) : byteOf value 0 = UInt8.ofInt value := by
  rw [byteOf, Nat.mul_zero, Int.shiftRight_zero]

end G2Common.ByteMemory

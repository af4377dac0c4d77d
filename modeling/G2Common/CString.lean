import Mathlib.Data.List.Basic

/-!
Strings that end at a NUL byte, in buffers that go on behind it.
-/

namespace G2Common.CString

variable {bytes rest : List UInt8}

/-- The string up to its NUL. -/
def cString (bytes : List UInt8) : List UInt8 := bytes.takeWhile (· ≠ 0)

/-- What `strncpy` leaves in the destination, given as many bytes of the source. -/
def strncpy : List UInt8 → List UInt8
  | [] => []
  | c :: src => if c = 0 then List.replicate (src.length + 1) 0 else c :: strncpy src

/-- The bytes are written from position `p` on. -/
def store (memory : List UInt8) (p : Nat) (bytes : List UInt8) : List UInt8 :=
  memory.take p ++ bytes ++ memory.drop (p + bytes.length)

/-- `snprintf` of a text at position `p`, of which at most `size` bytes are written with the
NUL, and what it returns. -/
def snprintf (memory : List UInt8) (p size : Nat) (text : List UInt8) : List UInt8 × Nat :=
  (if size = 0 then memory else store memory p (text.take (size - 1) ++ [0]), text.length)

theorem cString_zero (h : 0 ∉ bytes) : cString (bytes ++ 0 :: rest) = bytes := by
  induction bytes with
  | nil => rfl
  | cons c bytes ih =>
      obtain ⟨hc, hbytes⟩ : c ≠ 0 ∧ 0 ∉ bytes := by simpa [eq_comm] using h
      rw [List.cons_append, cString, List.takeWhile_cons, if_pos (by simpa using hc)]
      exact congrArg (c :: ·) (ih hbytes)

/-- What stands before and behind the written bytes stays. -/
theorem store_append {before old after : List UInt8} (h : old.length = bytes.length) :
    store (before ++ old ++ after) before.length bytes = before ++ bytes ++ after := by
  have hassoc : before ++ old ++ after = before ++ (old ++ after) := List.append_assoc _ _ _
  rw [store, hassoc, List.take_left, ← h, ← List.drop_drop, List.drop_left, List.drop_left]

end G2Common.CString

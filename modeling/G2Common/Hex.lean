import Mathlib.Algebra.Group.Nat.Defs
import Mathlib.Data.List.Flatten
import Mathlib.Data.List.Infix

/-!
Bytes as pairs of lower-case hexadecimal digits, and the numbers that such digits stand for.
-/

namespace G2Common.Hex

def hexDigit (d : Nat) : Char :=
  if d < 10 then Char.ofNat (48 + d) else Char.ofNat (87 + d)

def hexPair (b : UInt8) : List Char := [hexDigit (b.toNat / 16), hexDigit (b.toNat % 16)]

def hexlify (data : List UInt8) : List Char := data.flatMap hexPair

def digitValue (c : Char) : Option Nat :=
  if 48 ≤ c.toNat ∧ c.toNat ≤ 57 then some (c.toNat - 48)
  else if 97 ≤ c.toNat ∧ c.toNat ≤ 102 then some (c.toNat - 87)
  else none

/-- The bytes of an even number of digits. -/
def unhexlify : List Char → Option (List UInt8)
  | [] => some []
  | [_] => none
  | high :: low :: s => do
      let high ← digitValue high
      let low ← digitValue low
      let rest ← unhexlify s
      return UInt8.ofNat (16 * high + low) :: rest

/-- The digits after a number, in base 16. -/
def digitsFrom (n : Nat) : List Char → Option Nat
  | [] => some n
  | c :: s => (digitValue c).bind fun d => digitsFrom (16 * n + d) s

/-- The number that digits stand for, of which there is at least one. -/
def ofHexDigits : List Char → Option Nat
  | [] => none
  | c :: s => digitsFrom 0 (c :: s)

def bigEndian (data : List UInt8) : Nat := data.foldl (fun n b => 256 * n + b.toNat) 0

def littleEndian (data : List UInt8) : Nat := data.foldr (fun b n => 256 * n + b.toNat) 0

variable {data xs ys : List UInt8}

theorem hexlify_cons (b : UInt8) (data : List UInt8) :
    hexlify (b :: data) =
      hexDigit (b.toNat / 16) :: hexDigit (b.toNat % 16) :: hexlify data := rfl

theorem hexlify_append (xs ys : List UInt8) : hexlify (xs ++ ys) = hexlify xs ++ hexlify ys :=
  List.flatMap_append

theorem length_hexlify (data : List UInt8) : (hexlify data).length = 2 * data.length := by
  induction data with
  | nil => rfl
  | cons b data ih =>
      rw [hexlify_cons, List.length_cons, List.length_cons, ih, List.length_cons]
      omega

theorem digitValue_hexDigit {d : Nat} (h : d < 16) : digitValue (hexDigit d) = some d := by
  have hall : ∀ n : Fin 16, digitValue (hexDigit n) = some n.val := by decide
  exact hall ⟨d, h⟩

theorem digitValue_high (b : UInt8) :
    digitValue (hexDigit (b.toNat / 16)) = some (b.toNat / 16) := by
  have hb := b.toNat_lt
  exact digitValue_hexDigit (by omega)

theorem digitValue_low (b : UInt8) :
    digitValue (hexDigit (b.toNat % 16)) = some (b.toNat % 16) :=
  digitValue_hexDigit (Nat.mod_lt _ (by omega))

theorem unhexlify_hexlify (data : List UInt8) : unhexlify (hexlify data) = some data := by
  induction data with
  | nil => rfl
  | cons b data ih =>
      have hbyte : 16 * (b.toNat / 16) + b.toNat % 16 = b.toNat := Nat.div_add_mod _ _
      rw [hexlify_cons, unhexlify, digitValue_high, digitValue_low, ih]
      change some (UInt8.ofNat (16 * (b.toNat / 16) + b.toNat % 16) :: data) = _
      rw [hbyte, UInt8.ofNat_toNat]

theorem hexlify_injective (h : hexlify xs = hexlify ys) : xs = ys := by
  have hxs := unhexlify_hexlify xs
  rw [h, unhexlify_hexlify] at hxs
  exact (Option.some.inj hxs).symm

/-- Digits begin with the digits of some bytes if and only if the bytes begin with them. -/
theorem hexlify_prefix_iff : hexlify xs <+: hexlify ys ↔ xs <+: ys := by
  constructor
  · intro h
    have hlength := h.length_le
    rw [length_hexlify, length_hexlify] at hlength
    have hsplit : hexlify ys = hexlify (ys.take xs.length) ++ hexlify (ys.drop xs.length) := by
      rw [← hexlify_append, List.take_append_drop]
    have htake : hexlify xs = hexlify (ys.take xs.length) := by
      rw [hsplit] at h
      apply (List.prefix_of_prefix_length_le h (List.prefix_append _ _) _).eq_of_length
      · rw [length_hexlify, length_hexlify, List.length_take]
        omega
      · rw [length_hexlify, length_hexlify, List.length_take]
        omega
    rw [hexlify_injective htake]
    exact List.take_prefix _ _
  · rintro ⟨rest, rfl⟩
    exact ⟨hexlify rest, (hexlify_append xs rest).symm⟩

theorem hexlify_suffix_iff : hexlify xs <:+ hexlify ys ↔ xs <:+ ys := by
  constructor
  · intro h
    have hlength := h.length_le
    rw [length_hexlify, length_hexlify] at hlength
    have hsplit : hexlify ys = hexlify (ys.take (ys.length - xs.length)) ++
        hexlify (ys.drop (ys.length - xs.length)) := by
      rw [← hexlify_append, List.take_append_drop]
    have hdrop : hexlify xs = hexlify (ys.drop (ys.length - xs.length)) := by
      rw [hsplit] at h
      apply (List.suffix_of_suffix_length_le h (List.suffix_append _ _) _).eq_of_length
      · rw [length_hexlify, length_hexlify, List.length_drop]
        omega
      · rw [length_hexlify, length_hexlify, List.length_drop]
        omega
    rw [hexlify_injective hdrop]
    exact List.drop_suffix _ _
  · rintro ⟨rest, rfl⟩
    exact ⟨hexlify rest, (hexlify_append rest xs).symm⟩

theorem digitsFrom_hexlify (n : Nat) (data : List UInt8) :
    digitsFrom n (hexlify data) = some (data.foldl (fun n b => 256 * n + b.toNat) n) := by
  induction data generalizing n with
  | nil => rfl
  | cons b data ih =>
      have hbyte : 16 * (16 * n + b.toNat / 16) + b.toNat % 16 = 256 * n + b.toNat := by
        omega
      rw [hexlify_cons, digitsFrom, digitValue_high, Option.bind_some, digitsFrom,
        digitValue_low, Option.bind_some, hbyte, ih, List.foldl_cons]

theorem ofHexDigits_hexlify (h : data ≠ []) :
    ofHexDigits (hexlify data) = some (bigEndian data) := by
  obtain ⟨b, rest, rfl⟩ := List.exists_cons_of_ne_nil h
  exact digitsFrom_hexlify 0 (b :: rest)

theorem bigEndian_reverse (data : List UInt8) : bigEndian data.reverse = littleEndian data := by
  rw [bigEndian, List.foldl_reverse, littleEndian]

end G2Common.Hex

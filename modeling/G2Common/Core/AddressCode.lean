import G2Common.CString
import G2Common.CheckedArray
import Mathlib.Algebra.Group.Nat.Defs
import Mathlib.Data.List.Flatten
import Mathlib.Data.List.TakeDrop

/-!
The two codings of `LocApiBase.cpp`: bytes as hexadecimal digits, and the digits of an
address from its half bytes. A `char` is unsigned. The sizes are those of buffers in
memory, so that no `int` overflows.
-/

namespace G2Common.Core

open CString CheckedArray

/-- A digit of `%X`. -/
def upperHexDigit (d : UInt8) : UInt8 := if d < 10 then d + 0x30 else d - 10 + 0x41

/-- What `%02X` prints for a byte. -/
def upperHex (ch : UInt8) : List UInt8 := [upperHexDigit (ch >>> 4), upperHexDigit (ch &&& 0x0F)]

/-- `snprintf` of a text at position `p`, with every byte it stores checked. -/
def snprintfAt (memory : List UInt8) (p : Int) (size : Nat) (text : List UInt8) :
    Except Fault (List UInt8) :=
  if size = 0 then .ok memory else writeAll memory p (text.take (size - 1) ++ [0])

/-- The loop from `i` on, with `left` bytes still to go. -/
def hexLoop (string_size : Int) (data : List UInt8) :
    Nat → Nat → List UInt8 → Except Fault (Nat × List UInt8)
  | 0, i, hexstring => .ok (i, hexstring)
  | left + 1, i, hexstring => do
      let ch ← readAt data i
      if (i * 2 + 3 : Int) ≤ string_size then
        let hexstring ← snprintfAt hexstring (i * 2) 3 (upperHex ch)
        hexLoop string_size data left (i + 1) hexstring
      else return (i, hexstring)

/-- `hexcode`: what it returns and the buffer. -/
def hexcode (hexstring : List UInt8) (string_size : Int) (data : List UInt8)
    (data_size : Int) : Except Fault (Nat × List UInt8) :=
  hexLoop string_size data data_size.toNat 0 hexstring

/-- The value of an upper-case digit. -/
def upperHexValue (c : UInt8) : Option UInt8 :=
  if 0x30 ≤ c ∧ c ≤ 0x39 then some (c - 0x30)
  else if 0x41 ≤ c ∧ c ≤ 0x46 then some (c - 0x41 + 10)
  else none

/-- The bytes that upper-case digits stand for. -/
def fromUpperHex : List UInt8 → Option (List UInt8)
  | [] => some []
  | [_] => none
  | hi :: low :: s => do
      let hi ← upperHexValue hi
      let low ← upperHexValue low
      let rest ← fromUpperHex s
      return (hi * 16 + low) :: rest

example : hexcode (List.replicate 6 7) 6 [0x91, 0x0A, 0x55] 3 =
    .ok (2, [0x39, 0x31, 0x30, 0x41, 0, 7]) := by rfl

variable {done todo tail rest : List UInt8}

theorem upperHexValue_digit {d : UInt8} (h : d < 16) :
    upperHexValue (upperHexDigit d) = some d := by
  have hall : ∀ n : Fin 16, upperHexValue (upperHexDigit (UInt8.ofNat n)) =
      some (UInt8.ofNat n) := by decide
  have hd := hall ⟨d.toNat, UInt8.lt_iff_toNat_lt.mp h⟩
  rwa [UInt8.ofNat_toNat] at hd

theorem fromUpperHex_upperHex (data : List UInt8) :
    fromUpperHex (data.flatMap upperHex) = some data := by
  induction data with
  | nil => rfl
  | cons ch data ih =>
      have hbyte := ch.toNat_lt
      have hhi : (ch >>> 4).toNat = ch.toNat / 16 := by
        rw [UInt8.toNat_shiftRight]
        exact Nat.shiftRight_eq_div_pow _ 4
      have hlow : (ch &&& 0x0F).toNat = ch.toNat % 16 := by
        rw [UInt8.toNat_and]
        exact Nat.and_two_pow_sub_one_eq_mod _ 4
      have hhi' : ch >>> 4 < 16 := by
        rw [UInt8.lt_iff_toNat_lt, hhi]
        change ch.toNat / 16 < 16
        omega
      have hlow' : ch &&& 0x0F < 16 := by
        rw [UInt8.lt_iff_toNat_lt, hlow]
        change ch.toNat % 16 < 16
        omega
      have hch : (ch >>> 4) * 16 + (ch &&& 0x0F) = ch := by
        apply UInt8.toNat_inj.mp
        rw [UInt8.toNat_add, UInt8.toNat_mul, hhi, hlow]
        change (ch.toNat / 16 * 16 % 256 + ch.toNat % 16) % 256 = ch.toNat
        omega
      rw [List.flatMap_cons, upperHex, List.cons_append, List.cons_append, List.nil_append,
        fromUpperHex, upperHexValue_digit hhi', upperHexValue_digit hlow', ih]
      exact congrArg (fun c => some (c :: data)) hch

@[simp] theorem length_flatMap_upperHex (data : List UInt8) :
    (data.flatMap upperHex).length = 2 * data.length := by
  induction data with
  | nil => rfl
  | cons ch data ih =>
      rw [List.flatMap_cons, List.length_append, ih, List.length_cons]
      change 2 + 2 * data.length = _
      omega

/-- The three bytes of a turn, the NUL of which the next turn overwrites. -/
theorem snprintfAt_upperHex (ch : UInt8) (htail : 3 ≤ tail.length) :
    ∃ tail' : List UInt8, tail'.length + 2 = tail.length ∧
      snprintfAt (done.flatMap upperHex ++ (tail ++ rest)) ((done.length : Int) * 2) 3
          (upperHex ch) =
        .ok ((done ++ [ch]).flatMap upperHex ++ (tail' ++ rest)) := by
  have hlength : (tail.take 3).length = (upperHex ch ++ [0]).length := by
    rw [List.length_take, Nat.min_eq_left htail]
    rfl
  have hwrite := @writeAll_append _ (done.flatMap upperHex) (tail.take 3) (upperHex ch ++ [0])
    (tail.drop 3 ++ rest) hlength
  have hposition : ((done.flatMap upperHex).length : Int) = done.length * 2 := by
    rw [length_flatMap_upperHex]
    omega
  rw [← List.append_assoc (tail.take 3), List.take_append_drop, hposition] at hwrite
  refine ⟨0 :: tail.drop 3, by rw [List.length_cons, List.length_drop]; omega, ?_⟩
  rw [snprintfAt, if_neg (by decide)]
  refine hwrite.trans ?_
  rw [List.flatMap_append, List.flatMap_singleton, List.append_assoc, List.append_assoc]
  rfl

/-- As long as two digits and a NUL fit, a turn stores the digits of a byte. -/
theorem hexLoop_eq {size : Nat} (hsize : 2 * done.length + tail.length = size)
    (hne : 0 < tail.length) :
    ∃ tail' : List UInt8,
      2 * min (done.length + todo.length) ((size - 1) / 2) + tail'.length = size ∧
      hexLoop size (done ++ todo) todo.length done.length
          (done.flatMap upperHex ++ (tail ++ rest)) =
        .ok (min (done.length + todo.length) ((size - 1) / 2),
          ((done ++ todo).take (min (done.length + todo.length) ((size - 1) / 2))).flatMap
            upperHex ++ (tail' ++ rest)) := by
  induction todo generalizing done tail with
  | nil =>
      have hmin : min (done.length + ([] : List UInt8).length) ((size - 1) / 2) =
          done.length := by
        rw [List.length_nil]
        omega
      refine ⟨tail, by rw [hmin, hsize], ?_⟩
      rw [hmin, List.append_nil, List.take_length]
      rfl
  | cons ch todo ih =>
      rw [List.length_cons, hexLoop, readAt_append_cons, ok_bind]
      by_cases hroom : (done.length * 2 + 3 : Int) ≤ size
      · obtain ⟨tail', hlength, hprint⟩ := @snprintfAt_upperHex done tail rest ch (by omega)
        obtain ⟨tail'', hlength', hloop⟩ := @ih (done ++ [ch]) tail'
          (by rw [List.length_append, List.length_singleton]; omega) (by omega)
        rw [List.append_assoc, List.singleton_append, List.length_append,
          List.length_singleton, Nat.add_right_comm done.length 1] at hloop
        rw [List.length_append, List.length_singleton, Nat.add_right_comm done.length 1]
          at hlength'
        refine ⟨tail'', hlength', ?_⟩
        rw [if_pos hroom, hprint, ok_bind]
        exact hloop
      · have hmin : min (done.length + (todo.length + 1)) ((size - 1) / 2) = done.length := by
          omega
        refine ⟨tail, by rw [hmin, hsize], ?_⟩
        rw [if_neg hroom, hmin, List.take_left]
        rfl

def addr_prefix : UInt8 := 0x91

/-- A half byte is stored if it is a digit and there is room for it. -/
def putDigit (string_size : Int) (digit : UInt8) (s : List UInt8 × Nat) :
    Except Fault (List UInt8 × Nat) := do
  let (addr_string, idxOutput) := s
  if digit ≤ 9 ∧ idxOutput < string_size - 1 then
    let addr_string ← writeAt addr_string idxOutput (digit + 0x30)
    return (addr_string, idxOutput + 1)
  else return (addr_string, idxOutput)

/-- The loop from `i` on, with `left` bytes still to go. -/
def decodeLoop (string_size : Int) (data : List UInt8) :
    Nat → Nat → List UInt8 × Nat → Except Fault (List UInt8 × Nat)
  | 0, _, s => .ok s
  | left + 1, i, s => do
      let ch ← readAt data i
      let s ← putDigit string_size (ch &&& 0x0F) s
      let s ← putDigit string_size (ch >>> 4) s
      decodeLoop string_size data left (i + 1) s

/-- `decodeAddress`: what it returns and the buffer. -/
def decodeAddress (addr_string : Option (List UInt8)) (string_size : Int)
    (data : Option (List UInt8)) (data_size : Int) :
    Except Fault (Nat × Option (List UInt8)) :=
  match addr_string, data with
  | some addr_string, some data => do
      let first ← readAt data (0 : Nat)
      if first ≠ addr_prefix then
        let addr_string ← writeAt addr_string (0 : Nat) 0
        return (0, some addr_string)
      else
        let (addr_string, idxOutput) ←
          decodeLoop string_size data (data_size.toNat - 1) 1 (addr_string, 0)
        let addr_string ← writeAt addr_string idxOutput 0
        return (idxOutput, some addr_string)
  | _, _ => .ok (0, addr_string)

example : decodeAddress (some (List.replicate 6 7)) 6 (some [0x91, 0x21, 0xF3, 0x54]) 4 =
    .ok (5, some [0x31, 0x32, 0x33, 0x34, 0x35, 0]) := by rfl

/-- The low and the high half of a byte. -/
def halves (ch : UInt8) : List UInt8 := [ch &&& 0x0F, ch >>> 4]

/-- The halves of all bytes that are digits. -/
def addressDigits (bytes : List UInt8) : List UInt8 :=
  bytes.flatMap (fun ch => (halves ch).filter (· ≤ 9))

/-- The digits for which there is room, as characters. -/
def shown (room : Nat) (digits : List UInt8) : List UInt8 :=
  (digits.take room).map (· + 0x30)

section Decode

variable {room : Nat} {digits : List UInt8}

theorem shown_length (room : Nat) (digits : List UInt8) :
    (shown room digits).length = min room digits.length := by
  rw [shown, List.length_map, List.length_take]

theorem shown_snoc {d : UInt8} (h : (shown room digits).length < room) :
    shown room (digits ++ [d]) = shown room digits ++ [d + 0x30] := by
  rw [shown_length] at h
  rw [shown, shown, List.take_of_length_le (by simp; omega), List.take_of_length_le (by omega),
    List.map_append, List.map_singleton]

theorem shown_full {more : List UInt8} (h : room ≤ (shown room digits).length) :
    shown room (digits ++ more) = shown room digits := by
  rw [shown_length] at h
  rw [shown, shown, List.take_append_of_le_length (by omega)]

/-- A half byte keeps that the digits so far are stored, as far as there is room. -/
theorem putDigit_eq (d : UInt8) (htail : (shown room digits).length + tail.length = room + 1) :
    ∃ tail' : List UInt8,
      (shown room (digits ++ [d].filter (· ≤ 9))).length + tail'.length = room + 1 ∧
      putDigit (room + 1 : Nat) d
          (shown room digits ++ (tail ++ rest), (shown room digits).length) =
        .ok (shown room (digits ++ [d].filter (· ≤ 9)) ++ (tail' ++ rest),
          (shown room (digits ++ [d].filter (· ≤ 9))).length) := by
  rw [putDigit]
  by_cases hdigit : d ≤ 9
  · have hfilter : [d].filter (· ≤ 9) = [d] := List.filter_cons_of_pos (decide_eq_true hdigit)
    rw [hfilter]
    by_cases hroom : (shown room digits).length < room
    · obtain ⟨x, tail, rfl⟩ : ∃ x tail', tail = x :: tail' :=
        List.exists_cons_of_length_pos (by omega)
      rw [if_pos ⟨hdigit, by omega⟩, List.cons_append, writeAt_append_cons, ok_bind,
        shown_snoc hroom, List.length_append, List.length_singleton]
      refine ⟨tail, by rw [List.length_cons] at htail; omega, ?_⟩
      rw [List.append_assoc]
      rfl
    · rw [if_neg (fun h => hroom (by omega)), shown_full (Nat.le_of_not_lt hroom)]
      exact ⟨tail, htail, rfl⟩
  · have hfilter : [d].filter (· ≤ 9) = [] := List.filter_cons_of_neg (by simpa using hdigit)
    rw [hfilter, List.append_nil, if_neg (fun h => hdigit h.1)]
    exact ⟨tail, htail, rfl⟩

theorem decodeLoop_eq {data : List UInt8}
    (htail : (shown room (addressDigits done)).length + tail.length = room + 1)
    (hdata : data = 0x91 :: (done ++ todo)) :
    ∃ tail' : List UInt8,
      (shown room (addressDigits (done ++ todo))).length + tail'.length = room + 1 ∧
      decodeLoop (room + 1 : Nat) data todo.length (done.length + 1)
          (shown room (addressDigits done) ++ (tail ++ rest),
            (shown room (addressDigits done)).length) =
        .ok (shown room (addressDigits (done ++ todo)) ++ (tail' ++ rest),
          (shown room (addressDigits (done ++ todo))).length) := by
  induction todo generalizing done tail with
  | nil =>
      rw [List.append_nil]
      exact ⟨tail, htail, rfl⟩
  | cons ch todo ih =>
      have hread := readAt_append_cons (0x91 :: done) todo ch
      rw [List.cons_append, ← hdata, List.length_cons] at hread
      obtain ⟨tail', hlow, hputlow⟩ := @putDigit_eq tail rest room (addressDigits done)
        (ch &&& 0x0F) htail
      obtain ⟨tail'', hhi, hputhi⟩ := @putDigit_eq tail' rest room
        (addressDigits done ++ [ch &&& 0x0F].filter (· ≤ 9)) (ch >>> 4) hlow
      have hdigits : addressDigits done ++ [ch &&& 0x0F].filter (· ≤ 9) ++
          [ch >>> 4].filter (· ≤ 9) = addressDigits (done ++ [ch]) := by
        rw [List.append_assoc, ← List.filter_append, addressDigits, addressDigits,
          List.flatMap_append, List.flatMap_singleton]
        rfl
      rw [hdigits] at hhi hputhi
      obtain ⟨behind, hlength, hloop⟩ := @ih (done ++ [ch]) tail'' hhi
        (by rw [hdata, List.append_assoc]; rfl)
      rw [List.append_assoc, List.singleton_append, List.length_append,
        List.length_singleton] at hloop
      rw [List.append_assoc, List.singleton_append] at hlength
      refine ⟨behind, hlength, ?_⟩
      rw [List.length_cons, decodeLoop, hread, ok_bind, hputlow, ok_bind, hputhi, ok_bind]
      exact hloop

end Decode

theorem decodeAddress_eq {buffer bytes : List UInt8} {room : Nat}
    (h : buffer.length = room + 1) (rest : List UInt8) :
    ∃ behind : List UInt8,
      (shown room (addressDigits bytes)).length + (behind.length + 1) = room + 1 ∧
      decodeAddress (some (buffer ++ rest)) buffer.length (some ( addr_prefix :: bytes))
          (bytes.length + 1 : Nat) =
        .ok ((shown room (addressDigits bytes)).length,
          some (shown room (addressDigits bytes) ++ 0 :: (behind ++ rest))) := by
  have hempty : shown room (addressDigits []) = [] := by
    rw [shown, addressDigits, List.flatMap_nil, List.take_nil, List.map_nil]
  have hstart : (shown room (addressDigits [])).length + buffer.length = room + 1 := by
    rw [hempty, List.length_nil, Nat.zero_add, h]
  obtain ⟨tail, hlength, hloop⟩ := @decodeLoop_eq [] bytes buffer rest room
    ( addr_prefix :: bytes) hstart rfl
  obtain ⟨x, behind, rfl⟩ : ∃ x behind, tail = x :: behind := by
    have hshown := shown_length room (addressDigits bytes)
    rw [List.nil_append] at hlength
    exact List.exists_cons_of_length_pos (by omega)
  refine ⟨behind, hlength, ?_⟩
  have hread : readAt ( addr_prefix :: bytes) ((0 : Nat) : Int) = .ok addr_prefix := rfl
  rw [hempty, List.nil_append, List.nil_append, List.length_nil, Nat.zero_add] at hloop
  rw [decodeAddress, hread, ok_bind, if_neg (by simp), h, Int.toNat_natCast,
    Nat.add_sub_cancel, hloop, ok_bind, List.cons_append]
  dsimp only
  rw [writeAt_append_cons, ok_bind]
  rfl

/-- A digit is no NUL. -/
theorem zero_notMem_shown (room : Nat) (bytes : List UInt8) :
    0 ∉ shown room (addressDigits bytes) := by
  intro hmem
  obtain ⟨d, hd, hzero⟩ := List.mem_map.mp hmem
  obtain ⟨ch, _, hch⟩ := List.mem_flatMap.mp (List.mem_of_mem_take hd)
  have hle : d ≤ 9 := by simpa using (List.mem_filter.mp hch).2
  have hsum := congrArg UInt8.toNat hzero
  rw [UInt8.toNat_add] at hsum
  have hnine : d.toNat ≤ 9 := UInt8.le_iff_toNat_le.mp hle
  change (d.toNat + 48) % 256 = 0 at hsum
  omega

theorem decodeAddress_hexcode {buffer : List UInt8} (h : 0 < buffer.length) (first : UInt8)
    (bytes rest : List UInt8) :
    (∃ addr_string : List UInt8, addr_string.length = buffer.length ∧
      decodeAddress (some (buffer ++ rest)) buffer.length (some (first :: bytes))
          (bytes.length + 1 : Nat) =
        .ok ((cString addr_string).length, some (addr_string ++ rest)) ∧
      (cString addr_string).length < buffer.length ∧
      cString addr_string = if first = 0x91 then
        ((addressDigits bytes).take (buffer.length - 1)).map (· + 0x30) else []) ∧
    ∃ n hexstring, n = min (bytes.length + 1) ((buffer.length - 1) / 2) ∧
      hexstring.length = buffer.length ∧
      hexcode (buffer ++ rest) buffer.length (first :: bytes) (bytes.length + 1 : Nat) =
        .ok (n, hexstring ++ rest) ∧
      hexstring.take (2 * n) = ((first :: bytes).take n).flatMap upperHex ∧
      fromUpperHex (hexstring.take (2 * n)) = some ((first :: bytes).take n) := by
  constructor
  · obtain ⟨room, hroom⟩ : ∃ room, buffer.length = room + 1 := ⟨buffer.length - 1, by omega⟩
    by_cases hfirst : first = addr_prefix
    · subst hfirst
      obtain ⟨behind, hlength, hrun⟩ := @decodeAddress_eq buffer bytes room hroom rest
      have hstring := @cString_zero _ behind (zero_notMem_shown room bytes)
      refine ⟨shown room (addressDigits bytes) ++ 0 :: behind, ?_, ?_, ?_, ?_⟩
      · rw [List.length_append, List.length_cons, hlength, hroom]
      · rw [hstring, List.append_assoc]
        exact hrun
      · rw [hstring]
        omega
      · rw [hstring, if_pos (by rfl), hroom, Nat.add_sub_cancel, shown]
    · obtain ⟨x, behind, rfl⟩ := List.exists_cons_of_length_pos h
      have hread : readAt (first :: bytes) ((0 : Nat) : Int) = .ok first := rfl
      have hwrite : writeAt (x :: behind ++ rest) ((0 : Nat) : Int) 0 =
          .ok (0 :: behind ++ rest) := writeAt_append_cons [] (behind ++ rest) x 0
      refine ⟨0 :: behind, rfl, ?_, h, (if_neg hfirst).symm⟩
      rw [decodeAddress, hread, ok_bind, if_pos hfirst, hwrite]
      rfl
  · obtain ⟨tail, hlength, hloop⟩ := @hexLoop_eq [] (first :: bytes) buffer rest buffer.length
      (by rw [List.length_nil]; omega) h
    rw [List.length_nil, Nat.zero_add, List.length_cons] at hlength
    rw [List.length_nil, Nat.zero_add, List.nil_append, List.length_cons] at hloop
    have htake := length_flatMap_upperHex
      ((first :: bytes).take (min (bytes.length + 1) ((buffer.length - 1) / 2)))
    rw [List.length_take, List.length_cons, Nat.min_eq_left (Nat.min_le_left _ _)] at htake
    refine ⟨_, ((first :: bytes).take (min (bytes.length + 1)
      ((buffer.length - 1) / 2))).flatMap upperHex ++ tail, rfl, ?_, ?_, ?_, ?_⟩
    · rw [List.length_append, htake, hlength]
    · rw [List.append_assoc]
      exact hloop
    · rw [← htake, List.take_left]
    · rw [← htake, List.take_left, fromUpperHex_upperHex]

/-- Six bytes have room for five digits, and for two bytes in hexadecimal. -/
theorem decodeAddress_hexcode_six :
    (∃ addr_string : List UInt8, addr_string.length = 6 ∧
      decodeAddress (some (List.replicate 6 7)) 6 (some [0x91, 0x21, 0xF3, 0x54]) 4 =
        .ok (5, some addr_string) ∧
      cString addr_string = [0x31, 0x32, 0x33, 0x34, 0x35]) ∧
    ∃ hexstring : List UInt8, hexstring.length = 6 ∧
      hexcode (List.replicate 6 7) 6 [0x91, 0x21, 0xF3, 0x54] 4 = .ok (2, hexstring) ∧
      hexstring.take 4 = [0x39, 0x31, 0x32, 0x31] ∧
      fromUpperHex (hexstring.take 4) = some [0x91, 0x21] := by
  obtain ⟨⟨addr_string, hlength, hrun, _, hdigits⟩, n, hexstring, hn, hlength', hrun', hhex,
    hback⟩ := @decodeAddress_hexcode (List.replicate 6 7) (by decide) 0x91 [0x21, 0xF3, 0x54] []
  obtain rfl : n = 2 := hn
  have hfive : cString addr_string = [0x31, 0x32, 0x33, 0x34, 0x35] := hdigits
  rw [hfive, List.append_nil, List.append_nil] at hrun
  rw [List.append_nil, List.append_nil] at hrun'
  exact ⟨⟨addr_string, hlength, hrun, hfive⟩, hexstring, hlength', hrun', hhex, hback⟩

end G2Common.Core

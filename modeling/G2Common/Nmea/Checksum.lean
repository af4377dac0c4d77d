import Mathlib.Algebra.Group.Nat.Defs
import Mathlib.Algebra.Group.Int.Defs
import G2Common.CString

/-!
The checksum that closes a sentence of `loc_eng_nmea.cpp`, on the bytes of its buffer.
The length that is returned does not count the `$`, but is used as that of the sentence.
-/

namespace G2Common.Nmea

open CString

/-- A digit of `%X`. -/
def hexDigit (n : Nat) : UInt8 :=
  if n < 10 then UInt8.ofNat (48 + n) else UInt8.ofNat (55 + n)

/-- `"%02X"` of a byte. -/
def print02X (b : UInt8) : List UInt8 := [hexDigit (b.toNat / 16), hexDigit (b.toNat % 16)]

/-- `"*%02X\r\n"` -/
def checksumText (checksum : UInt8) : List UInt8 := 42 :: print02X checksum ++ [13, 10]

/-- The loop of `loc_eng_nmea_put_checksum`, from the byte behind the `$` on. It has no
result where there is no NUL. -/
def checksumLoop : List UInt8 → UInt8 → Nat → Option (UInt8 × Nat)
  | [], _, _ => none
  | c :: rest, checksum, length =>
      if c = 0 then some (checksum, length) else checksumLoop rest (checksum ^^^ c) (length + 1)

/-- `loc_eng_nmea_put_checksum` on the memory from `pNmea` on: the memory after it and what
it returns. The size is converted to `size_t`. -/
def putChecksum (memory : List UInt8) (maxSize : Int) : Option (List UInt8 × Int) := do
  let (checksum, length) ← checksumLoop (memory.drop 1) 0 0
  let size := ((maxSize - length - 1) % 2 ^ 32).toNat
  let (memory, checksumLength) := snprintf memory (length + 1) size (checksumText checksum)
  some (memory, length + checksumLength)

/-- What `loc_eng_nmea_send` hands to `nmea_cb`, if it is set. -/
def send (nmea_cb : Bool) (pNmea : List UInt8) (length : Int) : List (List UInt8 × Int) :=
  if nmea_cb then [(pNmea, length)] else []

/-- The exclusive or of the bytes. -/
def xorAll (body : List UInt8) : UInt8 := body.foldl (· ^^^ ·) 0

/-- What is promised of a sentence with this body: where the checksum fits, the buffer holds
the sentence with it and its length is returned; nothing is written behind the buffer; and
`nmea_cb` gets no length beyond the sentence. -/
def Closes (body memory : List UInt8) (maxSize : Nat) : Prop :=
  ∃ closed returned, putChecksum memory maxSize = some (closed, returned) ∧
    (body.length + 1 + 5 < maxSize →
      cString closed = 36 :: body ++ checksumText (xorAll body) ∧
        returned = (cString closed).length) ∧
    closed.length = memory.length ∧ closed.drop maxSize = memory.drop maxSize ∧
    ∀ call ∈ send true closed returned, call.2 ≤ (cString call.1).length

theorem zero_notMem_checksumText (checksum : UInt8) : 0 ∉ checksumText checksum := by
  have hdigit : ∀ n < 16, (0 : UInt8) ≠ hexDigit n := by decide
  have hbyte := checksum.toNat_lt
  have hhigh := hdigit (checksum.toNat / 16) (by omega)
  have hlow := hdigit (checksum.toNat % 16) (by omega)
  simp [checksumText, print02X, hhigh, hlow]

section Sentence

variable {body rest after : List UInt8} {maxSize : Nat}

theorem checksumLoop_eq (hbody : 0 ∉ body) (checksum : UInt8) (length : Nat) :
    checksumLoop (body ++ 0 :: rest) checksum length =
      some (body.foldl (· ^^^ ·) checksum, length + body.length) := by
  induction body generalizing checksum length with
  | nil => rfl
  | cons c body ih =>
      obtain ⟨hc, htail⟩ : c ≠ 0 ∧ 0 ∉ body := by simpa [eq_comm] using hbody
      rw [List.cons_append, checksumLoop, if_neg hc, ih htail, List.foldl_cons,
        List.length_cons, Nat.add_right_comm, Nat.add_assoc]

/-- The text of the checksum is cut where the buffer ends, but counted in full. -/
theorem putChecksum_spec (hbody : 0 ∉ body) (hmax : maxSize = body.length + 2 + rest.length)
    (hint : maxSize < 2 ^ 31) :
    ∃ behind, behind.length + min 5 rest.length = rest.length ∧
      putChecksum (36 :: body ++ 0 :: rest ++ after) maxSize =
        some (36 :: body ++ (checksumText (xorAll body)).take rest.length ++ 0 :: behind ++ after,
          (body.length : Int) + 5) := by
  have hloop : checksumLoop ((36 :: body ++ 0 :: rest ++ after).drop 1) 0 0 =
      some (xorAll body, body.length) := by
    have heq := @checksumLoop_eq body (rest ++ after) hbody 0 0
    rw [Nat.zero_add] at heq
    simpa [xorAll] using heq
  have hsize : (((maxSize : Int) - body.length - 1) % 2 ^ 32).toNat = rest.length + 1 := by
    omega
  generalize hwritten : (checksumText (xorAll body)).take rest.length ++ [0] = written
  have hlength : written.length = min 5 rest.length + 1 := by
    rw [← hwritten, List.length_append, List.length_take, Nat.min_comm]
    rfl
  obtain ⟨old, behind, hsplit, hold⟩ :
      ∃ old behind, 0 :: rest = old ++ behind ∧ old.length = written.length := by
    refine ⟨_, _, (List.take_append_drop written.length (0 :: rest)).symm, ?_⟩
    rw [List.length_take, List.length_cons]
    omega
  have hleft := congrArg List.length hsplit
  rw [List.length_cons, List.length_append, hold, hlength] at hleft
  have hstore := @store_append written (36 :: body) old (behind ++ after) hold
  rw [← List.append_assoc, List.append_assoc (36 :: body) old, ← hsplit,
    ← List.append_assoc] at hstore
  refine ⟨behind, by omega, ?_⟩
  rw [putChecksum, hloop, Option.bind_eq_bind, Option.bind_some]
  simp only [hsize, snprintf, Nat.succ_ne_zero, if_false, Nat.add_sub_cancel, hwritten]
  rw [← List.length_cons, hstore, ← hwritten]
  simp [checksumText, print02X]

/-- A sentence is closed as promised exactly if the buffer is just too small for the NUL behind
its checksum: with more room the length is one short, with less it goes beyond the sentence. -/
theorem checksum_closes_iff (hbody : 0 ∉ body) (hmax : maxSize = body.length + 2 + rest.length)
    (hint : maxSize < 2 ^ 31) :
    Closes body (36 :: body ++ 0 :: rest ++ after) maxSize ↔
      body.length + 1 + 5 = maxSize := by
  obtain ⟨behind, hbehind, hput⟩ := @putChecksum_spec body rest after maxSize hbody hmax hint
  have htext : (checksumText (xorAll body)).length = 5 := rfl
  have hzero : 0 ∉ 36 :: body ++ (checksumText (xorAll body)).take rest.length := by
    intro hmem
    rcases List.mem_append.mp hmem with hmem | hmem
    · rcases List.mem_cons.mp hmem with heq | hmem
      · cases heq
      · exact hbody hmem
    · exact zero_notMem_checksumText _ (List.mem_of_mem_take hmem)
  have hstring := @cString_zero _ (behind ++ after) hzero
  generalize hclosed : 36 :: body ++ (checksumText (xorAll body)).take rest.length ++ 0 :: behind ++
    after = closed at hput
  rw [← List.cons_append, ← List.append_assoc, hclosed] at hstring
  have hlength : (cString closed).length = body.length + 1 + min 5 rest.length := by
    rw [hstring, List.length_append, List.length_cons, List.length_take, htext, Nat.min_comm]
  constructor
  · rintro ⟨_, _, heq, hfits, -, -, hsend⟩
    obtain ⟨rfl, rfl⟩ := Prod.mk.inj (Option.some.inj (hput.symm.trans heq))
    have hle := hsend _ (List.mem_singleton_self _)
    rw [hlength] at hle
    by_contra hne
    obtain ⟨-, hreturned⟩ := hfits (by omega)
    rw [hlength] at hreturned
    omega
  · intro hexact
    refine ⟨closed, _, hput, fun hlt => absurd hexact (Nat.ne_of_lt hlt), ?_, ?_, ?_⟩
    · rw [← hclosed]
      simp only [List.length_append, List.length_cons, List.length_take, htext]
      omega
    · have hbefore : (36 :: body ++ (checksumText (xorAll body)).take rest.length ++
          0 :: behind).length = maxSize := by
        simp only [List.length_append, List.length_cons, List.length_take, htext]
        omega
      have hbefore' : (36 :: body ++ 0 :: rest).length = maxSize := by
        simp only [List.length_append, List.length_cons]
        omega
      rw [← hclosed, List.drop_left' hbefore, List.drop_left' hbefore']
    · intro call hcall
      obtain rfl := List.mem_singleton.mp hcall
      rw [hlength]
      omega

end Sentence

/-- The body of the blank sentence `$GPGSV,1,1,0,` -/
def blankGsvBody : List UInt8 := [71, 80, 71, 83, 86, 44, 49, 44, 49, 44, 48, 44]

/-- A buffer with room for three of the five characters and the NUL. -/
theorem checksum_closes_iff_cut :
    Closes blankGsvBody (36 :: blankGsvBody ++ 0 :: [7, 7, 7] ++ [9]) 17 ↔
      blankGsvBody.length + 1 + 5 = 17 :=
  checksum_closes_iff (by decide) rfl (by decide)

/-- The blank sentence in its buffer of 200 bytes has 18 bytes, and 17 is returned. -/
theorem checksum_length_short :
    ¬Closes blankGsvBody (36 :: blankGsvBody ++ 0 :: List.replicate 186 0 ++ []) 200 := by
  rintro ⟨closed, returned, hput, hfits, -⟩
  have heval : putChecksum (36 :: blankGsvBody ++ 0 :: List.replicate 186 0 ++ []) 200 =
      some (36 :: blankGsvBody ++ [42, 54, 53, 13, 10] ++ List.replicate 182 0, 17) := by
    decide +kernel
  obtain ⟨rfl, rfl⟩ := Prod.mk.inj (Option.some.inj (heval.symm.trans hput))
  exact absurd (hfits (by decide)).2 (by decide +kernel)

end G2Common.Nmea

import G2Common.Daemon.Delivery
import Mathlib.Algebra.Group.Nat.Defs
import Mathlib.Data.List.Basic

/-!
The memory that `loc_eng_dmn_conn_glue_msgrcv` writes, for a buffer of any size
and any bytes on the pipe. A write is a byte and its offset from `msgp`.
-/

namespace G2Common.Daemon

/-- What a call of `msgrcv` writes, and what it returns unless it blocks. -/
structure Received where
  writes : List (UInt8 × Nat)
  result : Option Int
  deriving DecidableEq, Repr

/-- `loc_eng_dmn_conn_glue_msgrcv`. The pipe has got `more` when it is read for the
second time. -/
def msgrcv (msgbufsz : UInt32) (pipe more : List UInt8) : Received :=
  match piperead (UInt32.ofNat sizeofMsgsz) pipe with
  | none => ⟨[], none⟩
  | some (size, pipe) =>
      if size.length ≠ sizeofMsgsz then ⟨size.zipIdx, some (-1)⟩
      else if msgbufsz < msgsz size then ⟨size.zipIdx, some (-1)⟩
      else
        let sz := msgsz size - UInt32.ofNat sizeofMsgsz
        match piperead sz (pipe ++ more) with
        | none => ⟨size.zipIdx, none⟩
        | some (bytes, _) =>
            let writes := size.zipIdx ++ bytes.zipIdx sizeofMsgsz
            if (bytes.length : Int) ≠ sz.toInt32.toInt then ⟨writes, some (-1)⟩
            else ⟨writes, some (msgsz size).toInt32.toInt⟩

/-- The writes are inside the buffer, and the call fails or returns the size it
has received, with exactly these bytes stored. -/
structure Safe (msgbufsz : UInt32) (stream : List UInt8) (received : Received) : Prop where
  inside : ∀ write ∈ received.writes, write.2 < msgbufsz.toNat
  returned : ∀ result, received.result = some result →
    result = -1 ∨
      result = (msgsz stream).toNat ∧
        received.writes = (stream.take (msgsz stream).toNat).zipIdx ∧
        received.writes.length = (msgsz stream).toNat

/-- The size field is not less than its own size, or what a read transfers after
it fits the buffer all the same. -/
def Fits (msgbufsz : UInt32) (pipe more : List UInt8) : Prop :=
  pipe.length < sizeofMsgsz ∨ sizeofMsgsz ≤ (msgsz pipe).toNat ∨
    sizeofMsgsz + min (pipe.length - sizeofMsgsz + more.length) maxRwCount ≤ msgbufsz.toNat

theorem piperead_eq {sz : UInt32} {pipe bytes rest : List UInt8}
    (h : piperead sz pipe = some (bytes, rest)) :
    bytes = pipe.take (min sz.toNat maxRwCount) ∧ rest = pipe.drop (min sz.toNat maxRwCount) := by
  unfold piperead at h
  split at h
  · cases h
  · rw [List.splitAt_eq] at h
    cases h
    exact ⟨rfl, rfl⟩

theorem zipIdx_inside {bytes : List UInt8} {size : Nat} :
    (∀ write ∈ bytes.zipIdx, write.2 < size) ↔ bytes.length ≤ size := by
  constructor
  · intro h
    by_contra hlt
    have hmem : (bytes[size], size) ∈ bytes.zipIdx := by
      rw [List.mem_zipIdx_iff_getElem?]
      simp
    exact absurd (h _ hmem) (Nat.lt_irrefl size)
  · intro h write hwrite
    have := (List.mem_zipIdx' hwrite).1
    omega

/-- The size of the second read. It wraps around below the size of the field. -/
theorem toNat_rest (m : UInt32) :
    (sizeofMsgsz ≤ m.toNat ∧ (m - UInt32.ofNat sizeofMsgsz).toNat = m.toNat - sizeofMsgsz) ∨
      (m.toNat < sizeofMsgsz ∧
        (m - UInt32.ofNat sizeofMsgsz).toNat = 2 ^ 32 - sizeofMsgsz + m.toNat) := by
  have hlt := m.toNat_lt
  rw [UInt32.toNat_sub, UInt32.toNat_ofNat', sizeofMsgsz]
  omega

/-- How many bytes the second read transfers. -/
def secondRead (pipe more : List UInt8) : Nat :=
  min (min (msgsz pipe - UInt32.ofNat sizeofMsgsz).toNat maxRwCount)
    (pipe.length - sizeofMsgsz + more.length)

theorem msgrcv_empty (msgbufsz : UInt32) (more : List UInt8) :
    msgrcv msgbufsz [] more = ⟨[], none⟩ := by
  simp [msgrcv, piperead, sizeofMsgsz]

theorem msgrcv_short {msgbufsz : UInt32} {pipe : List UInt8} (more : List UInt8) (hne : pipe ≠ [])
    (h : pipe.length < sizeofMsgsz) : msgrcv msgbufsz pipe more = ⟨pipe.zipIdx, some (-1)⟩ := by
  have hread : piperead (UInt32.ofNat sizeofMsgsz) pipe = some (pipe, []) := by
    rw [piperead, if_neg fun hblock => hne hblock.2, List.splitAt_eq, List.take_of_length_le,
      List.drop_of_length_le] <;>
      simpa [sizeofMsgsz, maxRwCount] using Nat.le_of_lt h
  have hne' : pipe.length ≠ sizeofMsgsz := Nat.ne_of_lt h
  simp [msgrcv, hread, hne']

section Sized

variable {msgbufsz : UInt32} {pipe : List UInt8}

theorem piperead_size (h : sizeofMsgsz ≤ pipe.length) :
    piperead (UInt32.ofNat sizeofMsgsz) pipe =
      some (pipe.take sizeofMsgsz, pipe.drop sizeofMsgsz) := by
  have hne : pipe ≠ [] := by
    rintro rfl
    simp [sizeofMsgsz] at h
  rw [piperead, if_neg fun hblock => hne hblock.2, List.splitAt_eq]
  rfl

theorem msgrcv_refused (more : List UInt8) (hsize : sizeofMsgsz ≤ pipe.length)
    (h : msgbufsz < msgsz pipe) :
    msgrcv msgbufsz pipe more = ⟨(pipe.take sizeofMsgsz).zipIdx, some (-1)⟩ := by
  simp [msgrcv, piperead_size hsize, msgsz_take, h, hsize]

/-- The second read follows the first one in the stream and in the buffer. -/
theorem msgrcv_rest (more : List UInt8) (hsize : sizeofMsgsz ≤ pipe.length)
    (h : ¬ msgbufsz < msgsz pipe) :
    (msgrcv msgbufsz pipe more).writes =
        ((pipe ++ more).take (sizeofMsgsz + secondRead pipe more)).zipIdx ∧
      ((msgrcv msgbufsz pipe more).result = none ∨
        (msgrcv msgbufsz pipe more).result = some (-1) ∨
        (secondRead pipe more : Int) =
            (msgsz pipe - UInt32.ofNat sizeofMsgsz).toInt32.toInt ∧
          (msgrcv msgbufsz pipe more).result = some (msgsz pipe).toInt32.toInt) := by
  have hlength : (pipe.take sizeofMsgsz).length = sizeofMsgsz :=
    List.length_take_of_le hsize
  have hsplit (n : Nat) : (pipe ++ more).take (sizeofMsgsz + n) =
      pipe.take sizeofMsgsz ++ (pipe.drop sizeofMsgsz ++ more).take n := by
    conv_lhs => rw [← List.take_append_drop sizeofMsgsz pipe, List.append_assoc]
    rw [List.take_append, hlength, List.take_of_length_le (by omega), Nat.add_sub_cancel_left]
  have hcount : secondRead pipe more =
      min (min (msgsz pipe - UInt32.ofNat sizeofMsgsz).toNat maxRwCount)
        (pipe.drop sizeofMsgsz ++ more).length := by
    rw [secondRead, List.length_append, List.length_drop]
  rw [hsplit]
  cases hread : piperead (msgsz pipe - UInt32.ofNat sizeofMsgsz)
      (pipe.drop sizeofMsgsz ++ more) with
  | none =>
      have hblock : pipe.drop sizeofMsgsz ++ more = [] := by
        unfold piperead at hread
        split at hread
        · rename_i hblock
          exact hblock.2
        · cases hread
      rw [hblock, List.take_nil, List.append_nil]
      simp only [msgrcv, piperead_size hsize, msgsz_take, h, hlength, hread, ne_eq,
        not_true_eq_false, if_false, true_or, and_self]
  | some result =>
      obtain ⟨bytes, rest⟩ := result
      obtain ⟨hbytes, -⟩ := piperead_eq hread
      have htake : (pipe.drop sizeofMsgsz ++ more).take (secondRead pipe more) = bytes := by
        rw [hbytes, hcount, ← List.take_eq_take_min]
      have hbytes' : bytes.length = secondRead pipe more := by
        rw [hbytes, List.length_take, hcount]
      have hwrites : (pipe.take sizeofMsgsz ++ bytes).zipIdx =
          (pipe.take sizeofMsgsz).zipIdx ++ bytes.zipIdx sizeofMsgsz := by
        rw [List.zipIdx_append, hlength, Nat.zero_add]
      rw [htake, hwrites, ← hbytes']
      simp only [msgrcv, piperead_size hsize, msgsz_take, h, hlength, hread, ne_eq,
        not_true_eq_false, if_false]
      split
      · exact ⟨rfl, .inr (.inl rfl)⟩
      · rename_i heq
        exact ⟨rfl, .inr (.inr ⟨not_not.mp heq, rfl⟩)⟩

end Sized

/-- A well formed frame is stored and its length is returned. -/
theorem msgrcv_frame {frame : Frame} (h : WellFormed frame) (rest : List UInt8) :
    msgrcv (UInt32.ofNat msgbufsz) (frame.bytes ++ rest) [] =
      ⟨frame.bytes.zipIdx, some frame.bytes.length⟩ := by
  obtain ⟨hmsgsz, hfits⟩ := h
  have hsize := frame.hasSize
  have hsize' : sizeofMsgsz ≤ (frame.bytes ++ rest).length := by
    rw [List.length_append]
    omega
  have htake : (frame.bytes ++ rest).take sizeofMsgsz = frame.bytes.take sizeofMsgsz :=
    List.take_append_of_le_length hsize
  have hdrop : (frame.bytes ++ rest).drop sizeofMsgsz ++ [] =
      frame.bytes.drop sizeofMsgsz ++ rest := by
    rw [List.append_nil, List.drop_append_of_le_length hsize]
  have hlength : (frame.bytes.take sizeofMsgsz).length = sizeofMsgsz :=
    List.length_take_of_le hsize
  have hfit : ¬ UInt32.ofNat msgbufsz < msgsz frame.bytes := by
    have hle : (msgsz frame.bytes).toNat ≤ msgbufsz := hmsgsz ▸ hfits
    exact Nat.not_lt.mpr hle
  have hsz : (frame.bytes.drop sizeofMsgsz).length =
      (msgsz frame.bytes - UInt32.ofNat sizeofMsgsz).toNat := by
    have := toNat_rest (msgsz frame.bytes)
    rw [List.length_drop]
    omega
  have hread : piperead (msgsz frame.bytes - UInt32.ofNat sizeofMsgsz)
      (frame.bytes.drop sizeofMsgsz ++ rest) = some (frame.bytes.drop sizeofMsgsz, rest) := by
    apply piperead_available hsz
    rw [← hsz, List.length_drop]
    omega
  have hint : ((frame.bytes.drop sizeofMsgsz).length : Int) =
      (msgsz frame.bytes - UInt32.ofNat sizeofMsgsz).toInt32.toInt := by
    rw [toInt_rest (hmsgsz ▸ hfits), hmsgsz, List.length_drop]
    omega
  have hwrites : frame.bytes.zipIdx = (frame.bytes.take sizeofMsgsz).zipIdx ++
      (frame.bytes.drop sizeofMsgsz).zipIdx sizeofMsgsz := by
    conv_lhs => rw [← List.take_append_drop sizeofMsgsz frame.bytes]
    rw [List.zipIdx_append, hlength, Nat.zero_add]
  simp only [msgrcv, piperead_size hsize', htake, hdrop, msgsz_take, hlength, hfit, hread, ← hint,
    ne_eq, not_true_eq_false, if_false, ← hwrites, toInt_msgsz (hmsgsz ▸ hfits), hmsgsz]

theorem msgsz_append {pipe : List UInt8} (more : List UInt8) (h : sizeofMsgsz ≤ pipe.length) :
    msgsz (pipe ++ more) = msgsz pipe := by
  rw [msgsz, msgsz, List.take_append_of_le_length h]

/-- A call that writes no more than the size field, or a field that is cut off, is
safe. -/
theorem safe_of_failed {msgbufsz : UInt32} {stream bytes : List UInt8}
    (hbuf : sizeofMsgsz ≤ msgbufsz.toNat) (hbytes : bytes.length ≤ sizeofMsgsz) :
    Safe msgbufsz stream ⟨bytes.zipIdx, some (-1)⟩ where
  inside := zipIdx_inside.mpr (by omega)
  returned := by
    intro result hresult
    cases hresult
    exact .inl rfl

theorem toInt_eq {m : UInt32} {count : Nat} (hcount : count ≤ maxRwCount)
    (h : (count : Int) = m.toInt32.toInt) : m.toNat = count := by
  have hlt := m.toNat_lt
  have hint : m.toInt32.toInt = m.toBitVec.toInt := rfl
  have hnat : m.toBitVec.toNat = m.toNat := rfl
  rw [hint, BitVec.toInt_eq_toNat_cond] at h
  rw [maxRwCount] at hcount
  omega

theorem toInt_small {m : UInt32} (h : m.toNat ≤ maxRwCount + sizeofMsgsz) :
    m.toInt32.toInt = m.toNat := by
  have hint : m.toInt32.toInt = m.toBitVec.toInt := rfl
  have hnat : m.toBitVec.toNat = m.toNat := rfl
  rw [hint, BitVec.toInt_eq_toNat_cond]
  rw [maxRwCount, sizeofMsgsz] at h
  omega

/-- The call is safe if and only if the size field is not less than its own size,
or the bytes that it reads then happen to fit. -/
theorem msgrcv_safe (msgbufsz : UInt32) (pipe more : List UInt8)
    (hbuf : sizeofMsgsz ≤ msgbufsz.toNat) :
    Safe msgbufsz (pipe ++ more) (msgrcv msgbufsz pipe more) ↔ Fits msgbufsz pipe more := by
  rcases Nat.lt_or_ge pipe.length sizeofMsgsz with hshort | hsize
  · refine iff_of_true ?_ (.inl hshort)
    rcases List.eq_nil_or_concat' pipe with rfl | ⟨front, last, rfl⟩
    · rw [msgrcv_empty]
      exact ⟨by simp, by simp⟩
    · rw [msgrcv_short more (by simp) hshort]
      exact safe_of_failed hbuf (by omega)
  · by_cases hrefused : msgbufsz < msgsz pipe
    · have hless : msgbufsz.toNat < (msgsz pipe).toNat := hrefused
      refine iff_of_true ?_ (.inr (.inl (by omega)))
      rw [msgrcv_refused more hsize hrefused]
      exact safe_of_failed hbuf (List.length_take_le _ _)
    · have hfit : (msgsz pipe).toNat ≤ msgbufsz.toNat := Nat.not_lt.mp hrefused
      obtain ⟨hwrites, hresult⟩ := msgrcv_rest more hsize hrefused
      have hrest := toNat_rest (msgsz pipe)
      have hlength : ((pipe ++ more).take (sizeofMsgsz + secondRead pipe more)).length =
          sizeofMsgsz + secondRead pipe more := by
        rw [List.length_take_of_le]
        rw [List.length_append]
        have := Nat.min_le_right (min (msgsz pipe - UInt32.ofNat sizeofMsgsz).toNat maxRwCount)
          (pipe.length - sizeofMsgsz + more.length)
        rw [secondRead]
        omega
      have hcap : secondRead pipe more ≤ maxRwCount := by
        rw [secondRead]
        omega
      have hsafe : Safe msgbufsz (pipe ++ more) (msgrcv msgbufsz pipe more) ↔
          sizeofMsgsz + secondRead pipe more ≤ msgbufsz.toNat := by
        constructor
        · intro h
          rw [← hlength, ← zipIdx_inside, ← hwrites]
          exact h.inside
        · intro h
          constructor
          · rw [hwrites, zipIdx_inside, hlength]
            exact h
          · intro result heq
            rcases hresult with hnone | hfailed | ⟨hcount, hsome⟩
            · rw [hnone] at heq
              cases heq
            · rw [hfailed] at heq
              cases heq
              exact .inl rfl
            · have hsz := toInt_eq hcap hcount
              have hmsgsz : (msgsz pipe).toNat = sizeofMsgsz + secondRead pipe more := by
                simp only [sizeofMsgsz, maxRwCount] at hrest hsz hcap ⊢
                omega
              rw [hsome] at heq
              cases heq
              rw [msgsz_append more hsize, toInt_small (by omega), hwrites, hmsgsz]
              exact .inr ⟨rfl, rfl, by rw [List.length_zipIdx, hlength]⟩
      rw [hsafe, Fits, secondRead]
      simp only [sizeofMsgsz, maxRwCount] at hrest hsize ⊢
      omega

/-- A size of 0 makes the second read take all that is there, which a client can
make more than the buffer of `loc_api_server_proc`. -/
theorem msgrcv_overruns :
    let received := msgrcv (UInt32.ofNat msgbufsz) (List.replicate 369 0) []
    (0, msgbufsz) ∈ received.writes ∧
      ¬ Safe (UInt32.ofNat msgbufsz) (List.replicate 369 0) received := by
  have hwrite : (0, msgbufsz) ∈
      (msgrcv (UInt32.ofNat msgbufsz) (List.replicate 369 0) []).writes := by
    decide +kernel
  refine ⟨hwrite, ?_⟩
  intro h
  exact absurd (h.inside _ hwrite) (Nat.lt_irrefl 368)

/-- A message of seven bytes, the last two of which come in before the second read. -/
theorem msgrcv_safe_seven :
    Safe (UInt32.ofNat msgbufsz) ([7, 0, 0, 0, 5] ++ [6, 8])
        (msgrcv (UInt32.ofNat msgbufsz) [7, 0, 0, 0, 5] [6, 8]) ↔
      Fits (UInt32.ofNat msgbufsz) [7, 0, 0, 0, 5] [6, 8] :=
  msgrcv_safe (UInt32.ofNat msgbufsz) [7, 0, 0, 0, 5] [6, 8] (by decide)

end G2Common.Daemon

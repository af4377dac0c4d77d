import Mathlib.Data.List.Flatten
import G2Common.Daemon.Server

/-!
What of the frames that are written to the daemon pipe reaches the server. The
bytes of the pipe are never lost while the thread runs, so exactly the frames
come out that went in; and the thread is in step with the frames, and still
runs, only if all of them are well formed.
-/

namespace G2Common.Daemon

open Transition

/-- The handler that a frame asks for in its `ctrl_type`. -/
def handlerOf (frame : List UInt8) : Option Handler := frame[offsetofCtrlType]?.bind dispatch

/-- The thread waits for the next frame, and it received the well formed frames
one by one, byte for byte, and called their handlers. -/
structure Delivered (s : Server) : Prop where
  running : s.threadExit = false
  inStep : s.phase = .size
  received : s.served.map (·.message) =
    (s.written.filter fun frame => decide (WellFormed frame)).map (·.bytes)
  dispatched : ∀ served ∈ s.served, ∀ handler, handlerOf served.message = some handler →
    served.handler = some handler

/-- The thread has ended, or waits for more bytes. -/
def Blocked (s : Server) : Prop := ∀ block, step s (.read block) = s

theorem msgbufsz_eq : msgbufsz = 368 := rfl

theorem toInt_msgsz {m : UInt32} (hm : m.toNat ≤ msgbufsz) : m.toInt32.toInt = m.toNat := by
  change m.toBitVec.toInt = _
  rw [BitVec.toInt_eq_toNat_cond]
  have hnat : m.toBitVec.toNat = m.toNat := rfl
  rw [msgbufsz_eq] at hm
  omega

/-- The subtraction wraps around below the size of the field, which makes the
result a negative `int`. -/
theorem toInt_rest {m : UInt32} (hm : m.toNat ≤ msgbufsz) :
    (m - UInt32.ofNat sizeofMsgsz).toInt32.toInt = (m.toNat : Int) - sizeofMsgsz := by
  change (m - UInt32.ofNat sizeofMsgsz).toBitVec.toInt = _
  rw [BitVec.toInt_eq_toNat_cond]
  have hnat : (m - UInt32.ofNat sizeofMsgsz).toBitVec.toNat =
      (2 ^ 32 - 4 + m.toNat) % 2 ^ 32 := by
    rw [UInt32.toNat_toBitVec, UInt32.toNat_sub]
    simp [sizeofMsgsz]
  rw [msgbufsz_eq] at hm
  rw [sizeofMsgsz] at *
  omega

theorem piperead_append {sz : UInt32} {pipe bytes rest : List UInt8}
    (h : piperead sz pipe = some (bytes, rest)) : bytes ++ rest = pipe := by
  unfold piperead at h
  split at h
  · cases h
  · rw [List.splitAt_eq] at h
    cases h
    exact List.take_append_drop _ _

/-- What is there is read. -/
theorem piperead_available {sz : UInt32} {bytes rest : List UInt8}
    (hlength : bytes.length = sz.toNat) (hsz : sz.toNat ≤ msgbufsz) :
    piperead sz (bytes ++ rest) = some (bytes, rest) := by
  have hblock : ¬(sz ≠ 0 ∧ bytes ++ rest = []) := by
    rintro ⟨hne, hnil⟩
    rw [(List.append_eq_nil_iff.mp hnil).1] at hlength
    exact hne (UInt32.toNat_inj.mp hlength.symm)
  have hmin : min sz.toNat maxRwCount = bytes.length := by
    rw [msgbufsz_eq] at hsz
    rw [maxRwCount]
    omega
  rw [piperead, if_neg hblock, hmin, List.splitAt_eq, List.take_left, List.drop_left]

/-- The bytes of a message that the thread has taken out of the pipe. -/
def Phase.taken : Phase → List UInt8
  | .size => []
  | .rest _ bytes => bytes

/-- A successful second read returns the bytes that were read. -/
theorem served_message (block : List UInt8) {size bytes : List UInt8}
    (hsize : size.length = sizeofMsgsz)
    (hmsgsz : (msgsz size).toNat ≤ msgbufsz)
    (hbytes : (bytes.length : Int) = (msgsz size - UInt32.ofNat sizeofMsgsz).toInt32.toInt)
    (handler : Option Handler) :
    (⟨size ++ bytes ++ block.drop (size.length + bytes.length), (msgsz size).toInt32.toInt,
      handler⟩ : Served).message = size ++ bytes := by
  rw [toInt_rest hmsgsz] at hbytes
  have hlength : (msgsz size).toInt32.toInt.toNat = (size ++ bytes).length := by
    rw [toInt_msgsz hmsgsz, List.length_append]
    omega
  rw [Served.message, hlength, List.take_left]

theorem dispatch_message {message block : List UInt8} {handler : Handler}
    (h : handlerOf message = some handler) :
    dispatch ((message ++ block).getD offsetofCtrlType 0) = some handler := by
  obtain ⟨ctrl_type, hget, hdispatch⟩ := Option.bind_eq_some_iff.mp h
  obtain ⟨hlt, -⟩ := List.getElem?_eq_some_iff.mp hget
  rw [List.getD_eq_getElem?_getD, List.getElem?_append_left hlt, hget]
  exact hdispatch

/-- What a read can do: it blocks, it ends the thread, or it gets one part of a
message. -/
inductive Reads (s : Server) : Server → Prop
  | blocked (hblocked : Blocked s) : Reads s s
  | failed {pipe} (hrunning : s.threadExit = false) (hless : pipe.length ≤ s.pipe.length) :
      Reads s { s with pipe := pipe, threadExit := true }
  | sized {block size pipe} (hphase : s.phase = .size) (hpipe : size ++ pipe = s.pipe)
      (hsize : size.length = sizeofMsgsz) (hmsgsz : (msgsz size).toNat ≤ msgbufsz) :
      Reads s { s with pipe := pipe, phase := .rest block size }
  | served {block size bytes pipe x} (hphase : s.phase = .rest block size)
      (hpipe : bytes ++ pipe = s.pipe) (hmessage : x.message = size ++ bytes)
      (hhandler : ∀ handler, handlerOf x.message = some handler → x.handler = some handler) :
      Reads s { s with pipe := pipe, phase := .size, served := s.served ++ [x] }

/-- The size field that the thread has taken fits the buffer. -/
def Sized (s : Server) : Prop :=
  ∀ block size, s.phase = .rest block size →
    size.length = sizeofMsgsz ∧ (msgsz size).toNat ≤ msgbufsz

theorem reads {s : Server} (hs : Sized s) (block : List UInt8) :
    Reads s (step s (.read block)) := by
  obtain ⟨pipe, phase, threadExit, served, written⟩ := s
  cases threadExit with
  | true => exact .blocked fun _ => rfl
  | false =>
      cases phase with
      | size =>
          cases hread : piperead (UInt32.ofNat sizeofMsgsz) pipe with
          | none =>
              have hblocked : Blocked ⟨pipe, .size, false, served, written⟩ := by
                intro other
                simp [step, Server.readSize, hread]
              rw [hblocked block]
              exact .blocked hblocked
          | some result =>
              obtain ⟨size, rest⟩ := result
              have hpipe := piperead_append hread
              have hless : rest.length ≤ pipe.length := by
                rw [← hpipe, List.length_append]
                omega
              simp only [step, Bool.false_eq_true, if_false, Server.readSize, hread]
              split
              · exact .failed rfl hless
              · next hsize =>
                  split
                  · exact .failed rfl hless
                  · next hmsgsz => exact .sized rfl hpipe (by simpa using hsize) (by omega)
      | rest block' size =>
          obtain ⟨hsize, hmsgsz⟩ := hs block' size rfl
          cases hread : piperead (msgsz size - UInt32.ofNat sizeofMsgsz) pipe with
          | none =>
              have hblocked : Blocked ⟨pipe, .rest block' size, false, served, written⟩ := by
                intro other
                simp [step, Server.readRest, hread]
              rw [hblocked block]
              exact .blocked hblocked
          | some result =>
              obtain ⟨bytes, rest⟩ := result
              have hpipe := piperead_append hread
              have hless : rest.length ≤ pipe.length := by
                rw [← hpipe, List.length_append]
                omega
              simp only [step, Bool.false_eq_true, if_false, Server.readRest, hread]
              split
              · exact .failed rfl hless
              · next hbytes =>
                  split
                  · exact .failed rfl hless
                  · have hmessage := served_message block' hsize hmsgsz (not_not.mp hbytes)
                      (dispatch ((size ++ bytes ++
                        block'.drop (size.length + bytes.length)).getD offsetofCtrlType 0))
                    refine .served rfl hpipe hmessage fun handler hhandler => ?_
                    rw [hmessage] at hhandler
                    exact dispatch_message hhandler

structure Conserved (s : Server) : Prop where
  sized : Sized s
  bytes : s.threadExit = false →
    (s.served.map (·.message)).flatten ++ s.phase.taken ++ s.pipe =
      (s.written.map (·.bytes)).flatten
  dispatched : ∀ served ∈ s.served, ∀ handler, handlerOf served.message = some handler →
    served.handler = some handler

theorem conserved_step (s : Server) (input : Input) (hs : Conserved s) :
    Conserved (step s input) := by
  cases input with
  | write frame =>
      refine ⟨hs.sized, fun hrunning => ?_, hs.dispatched⟩
      have hbytes := hs.bytes hrunning
      simp only [step, List.map_append, List.flatten_append, ← hbytes]
      simp
  | read block =>
      have hreads := reads hs.sized block
      generalize step s (.read block) = t at hreads
      cases hreads with
      | blocked => exact hs
      | failed => exact ⟨hs.sized, by simp, hs.dispatched⟩
      | sized hphase hpipe hsize hmsgsz =>
          refine ⟨?_, fun hrunning => ?_, hs.dispatched⟩
          · intro block' size' heq
            cases heq
            exact ⟨hsize, hmsgsz⟩
          · have hbytes := hs.bytes hrunning
            rw [hphase, ← hpipe] at hbytes
            simpa [Phase.taken] using hbytes
      | served hphase hpipe hmessage hhandler =>
          refine ⟨(fun _ _ heq => by cases heq), fun hrunning => ?_, ?_⟩
          · have hbytes := hs.bytes hrunning
            rw [hphase, ← hpipe] at hbytes
            simpa [Phase.taken, hmessage] using hbytes
          · intro served hmem
            rcases List.mem_append.mp hmem with hmem | hmem
            · exact hs.dispatched served hmem
            · rw [List.mem_singleton.mp hmem]
              exact hhandler

theorem conserved_start : Conserved start :=
  ⟨by simp [Sized, start], by simp [start, Phase.taken], by simp [start]⟩

/-- How many reads there can be before the thread blocks. -/
def readsLeft (s : Server) : Nat :=
  2 * s.pipe.length + (if s.phase = .size then 0 else 1) + if s.threadExit then 0 else 1

theorem readsLeft_read {s : Server} (hs : Sized s) (block : List UInt8) :
    Blocked s ∨ readsLeft (step s (.read block)) < readsLeft s := by
  have hreads := reads hs block
  generalize step s (.read block) = t at hreads
  cases hreads with
  | blocked hblocked => exact .inl hblocked
  | failed hrunning hless =>
      right
      simp only [readsLeft, hrunning, Bool.false_eq_true, if_true, if_false]
      omega
  | sized hphase hpipe hsize =>
      right
      simp only [readsLeft, hphase, ← hpipe, List.length_append, hsize, sizeofMsgsz,
        reduceCtorEq, if_true, if_false]
      omega
  | served hphase hpipe =>
      right
      simp only [readsLeft, hphase, ← hpipe, List.length_append, reduceCtorEq, if_true, if_false]
      omega

theorem run_blocked {s : Server} (hs : Blocked s) (block : List UInt8) (n : Nat) :
    run step s (List.replicate n (.read block)) = s := by
  induction n with
  | zero => rfl
  | succ n ih => rw [List.replicate_succ, run_cons, hs block, ih]

theorem blocked_after {s : Server} (hs : Conserved s) (block : List UInt8) {n : Nat}
    (hn : readsLeft s ≤ n) : Blocked (run step s (List.replicate n (.read block))) := by
  induction n generalizing s with
  | zero =>
      rcases readsLeft_read hs.sized block with hblocked | hless
      · exact hblocked
      · omega
  | succ n ih =>
      rcases readsLeft_read hs.sized block with hblocked | hless
      · rw [run_blocked hblocked]
        exact hblocked
      · rw [List.replicate_succ, run_cons]
        exact ih (conserved_step s _ hs) (by omega)

/-- The thread is in step with the frames: those that it has received come
first, and of the next one it has taken the size field at most. -/
structure InStep (s : Server) : Prop where
  running : s.threadExit = false
  split : ∃ done ahead, s.written = done ++ ahead ∧
    s.served.map (·.message) = done.map (·.bytes) ∧
    s.phase.taken ++ s.pipe = (ahead.map (·.bytes)).flatten ∧
    ∀ block size, s.phase = .rest block size →
      ∃ frame later, ahead = frame :: later ∧ size = frame.bytes.take sizeofMsgsz

theorem msgsz_take (message : List UInt8) :
    msgsz (message.take sizeofMsgsz) = msgsz message := by
  simp [msgsz, List.take_take]

theorem inStep_readSize {s : Server} (hs : InStep s) (hphase : s.phase = .size)
    (hwritten : ∀ frame ∈ s.written, WellFormed frame) (block : List UInt8) :
    InStep (s.readSize block) := by
  obtain ⟨hrunning, done, ahead, hsplit, hserved, hpipe, hrest⟩ := hs
  rw [hphase, Phase.taken, List.nil_append] at hpipe
  cases ahead with
  | nil =>
      have hread : piperead (UInt32.ofNat sizeofMsgsz) s.pipe = none := by
        rw [hpipe]
        rfl
      simp only [Server.readSize, hread]
      exact ⟨hrunning, done, [], hsplit, hserved, by simp [hphase, Phase.taken, hpipe], hrest⟩
  | cons frame later =>
      have hframe := hwritten frame (by simp [hsplit])
      have hlength : (frame.bytes.take sizeofMsgsz).length = sizeofMsgsz :=
        List.length_take_of_le frame.hasSize
      have hbytes : s.pipe = frame.bytes.take sizeofMsgsz ++
          (frame.bytes.drop sizeofMsgsz ++ (later.map (·.bytes)).flatten) := by
        rw [← List.append_assoc, List.take_append_drop, hpipe, List.map_cons, List.flatten_cons]
      have hread : piperead (UInt32.ofNat sizeofMsgsz) s.pipe =
          some (frame.bytes.take sizeofMsgsz,
            frame.bytes.drop sizeofMsgsz ++ (later.map (·.bytes)).flatten) := by
        rw [hbytes]
        exact piperead_available hlength (by decide)
      have hmsgsz : ¬msgbufsz < (msgsz (frame.bytes.take sizeofMsgsz)).toNat := by
        rw [msgsz_take, hframe.1]
        exact Nat.not_lt.mpr hframe.2
      simp only [Server.readSize, hread, hlength, ne_eq, not_true_eq_false, if_false, hmsgsz]
      refine ⟨hrunning, done, frame :: later, hsplit, hserved, ?_, ?_⟩
      · rw [← hpipe, hbytes]
        rfl
      · intro block' size heq
        cases heq
        exact ⟨frame, later, rfl, rfl⟩

theorem inStep_readRest {s : Server} (hs : InStep s) {block size : List UInt8}
    (hphase : s.phase = .rest block size)
    (hwritten : ∀ frame ∈ s.written, WellFormed frame) :
    InStep (s.readRest block size) := by
  obtain ⟨hrunning, done, ahead, hsplit, hserved, hpipe, hrest⟩ := hs
  obtain ⟨frame, later, rfl, rfl⟩ := hrest block size hphase
  obtain ⟨hframe, hfits⟩ := hwritten frame (by simp [hsplit])
  rw [hphase, Phase.taken, List.map_cons, List.flatten_cons] at hpipe
  have hlength : (frame.bytes.take sizeofMsgsz).length = sizeofMsgsz :=
    List.length_take_of_le frame.hasSize
  have hmsgsz : msgsz (frame.bytes.take sizeofMsgsz) = msgsz frame.bytes := msgsz_take _
  have hbound : (msgsz frame.bytes).toNat ≤ msgbufsz := hframe ▸ hfits
  have hbytes : s.pipe = frame.bytes.drop sizeofMsgsz ++ (later.map (·.bytes)).flatten := by
    refine List.append_cancel_left (hpipe.trans ?_)
    rw [← List.append_assoc, List.take_append_drop]
  have hdrop : ((frame.bytes.drop sizeofMsgsz).length : Int) =
      (msgsz frame.bytes - UInt32.ofNat sizeofMsgsz).toInt32.toInt := by
    have hsize := frame.hasSize
    rw [toInt_rest hbound, hframe, List.length_drop]
    omega
  have hsub : (msgsz frame.bytes - UInt32.ofNat sizeofMsgsz).toNat =
      (frame.bytes.drop sizeofMsgsz).length := by
    have hle : UInt32.ofNat sizeofMsgsz ≤ msgsz frame.bytes := by
      rw [UInt32.le_iff_toNat_le, hframe]
      exact frame.hasSize
    rw [UInt32.toNat_sub_of_le _ _ hle, hframe, List.length_drop]
    rfl
  have hread : piperead (msgsz frame.bytes - UInt32.ofNat sizeofMsgsz) s.pipe =
      some (frame.bytes.drop sizeofMsgsz, (later.map (·.bytes)).flatten) := by
    rw [hbytes]
    apply piperead_available hsub.symm
    rw [hsub, List.length_drop]
    omega
  have hpositive : ¬(msgsz frame.bytes).toInt32.toInt ≤ 0 := by
    have hsize := frame.hasSize
    rw [toInt_msgsz hbound, hframe]
    simp only [sizeofMsgsz] at hsize
    omega
  have hmessage := served_message block hlength (hmsgsz ▸ hbound) (hmsgsz ▸ hdrop)
  rw [hmsgsz] at hmessage
  simp only [Server.readRest, hmsgsz, hread, hdrop, ne_eq, not_true_eq_false, if_false, hpositive]
  refine ⟨hrunning, done ++ [frame], later, by simp [hsplit], ?_, rfl, ?_⟩
  · rw [List.map_append, List.map_append, hserved, List.map_singleton, hmessage,
      List.take_append_drop, List.map_singleton]
  · intro block' size' heq
    cases heq

theorem written_read (s : Server) (block : List UInt8) :
    (step s (.read block)).written = s.written := by
  simp only [step]
  split
  · rfl
  · split
    · unfold Server.readSize
      split
      · rfl
      · split
        · rfl
        · split <;> rfl
    · unfold Server.readRest
      dsimp only
      split
      · rfl
      · split
        · rfl
        · split <;> rfl

theorem inStep_step (s : Server) (input : Input)
    (hs : (∀ frame ∈ s.written, WellFormed frame) → InStep s)
    (hwritten : ∀ frame ∈ (step s input).written, WellFormed frame) : InStep (step s input) := by
  cases input with
  | write frame =>
      obtain ⟨hrunning, done, ahead, hsplit, hserved, hpipe, hrest⟩ :=
        hs fun frame hmem => hwritten frame (List.mem_append_left _ hmem)
      refine ⟨hrunning, done, ahead ++ [frame], by simp [step, hsplit], hserved, ?_, ?_⟩
      · simp only [step, ← List.append_assoc, hpipe]
        simp
      · intro block size hphase
        obtain ⟨next, later, rfl, hsize⟩ := hrest block size hphase
        exact ⟨next, later ++ [frame], rfl, hsize⟩
  | read block =>
      rw [written_read] at hwritten
      have hin := hs hwritten
      simp only [step, hin.running, Bool.false_eq_true, if_false]
      cases hphase : s.phase with
      | size => exact inStep_readSize hin hphase hwritten block
      | rest block' size => exact inStep_readRest hin hphase hwritten

theorem inStep_start : InStep start :=
  ⟨rfl, [], [], rfl, rfl, rfl, by simp [start]⟩

/-- The frames that are written in a run. -/
theorem mem_written_run {s : Server} {inputs : List Input} {frame : Frame} :
    frame ∈ (run step s inputs).written ↔ frame ∈ s.written ∨ .write frame ∈ inputs := by
  induction inputs generalizing s with
  | nil => simp
  | cons input rest ih =>
      rw [run_cons, ih]
      cases input with
      | write other => simp [step, or_assoc]
      | read block => simp [written_read]

/-- Where the thread waits for the next frame, the pipe is empty. -/
theorem pipe_of_blocked {s : Server} (hs : Blocked s) (hrunning : s.threadExit = false)
    (hphase : s.phase = .size) : s.pipe = [] := by
  by_contra hne
  have hread : piperead (UInt32.ofNat sizeofMsgsz) s.pipe =
      some (s.pipe.splitAt (min (UInt32.ofNat sizeofMsgsz).toNat maxRwCount)) :=
    if_neg fun h => hne h.2
  have hsame := hs []
  simp only [step, hrunning, Bool.false_eq_true, if_false, hphase, Server.readSize, hread] at hsame
  split at hsame
  · simpa [hrunning] using congrArg Server.threadExit hsame
  · split at hsame
    · simpa [hrunning] using congrArg Server.threadExit hsame
    · simpa [hphase] using congrArg Server.phase hsame

/-- Where it waits for the rest of a message, there is a rest. -/
theorem rest_of_blocked {s : Server} (hs : Blocked s) (hrunning : s.threadExit = false)
    {block size : List UInt8} (hphase : s.phase = .rest block size) :
    msgsz size - UInt32.ofNat sizeofMsgsz ≠ 0 ∧ s.pipe = [] := by
  by_contra hne
  have hread : piperead (msgsz size - UInt32.ofNat sizeofMsgsz) s.pipe =
      some (s.pipe.splitAt
        (min (msgsz size - UInt32.ofNat sizeofMsgsz).toNat maxRwCount)) :=
    if_neg hne
  have hsame := hs []
  simp only [step, hrunning, Bool.false_eq_true, if_false, hphase, Server.readRest, hread] at hsame
  split at hsame
  · simpa [hrunning] using congrArg Server.threadExit hsame
  · split at hsame
    · simpa [hrunning] using congrArg Server.threadExit hsame
    · simpa [hphase] using congrArg Server.phase hsame

/-- A thread in step that blocks has received everything. -/
theorem received_of_blocked {s : Server} (hs : InStep s) (hblocked : Blocked s)
    (hwritten : ∀ frame ∈ s.written, WellFormed frame) :
    s.phase = .size ∧ s.served.map (·.message) = s.written.map (·.bytes) := by
  obtain ⟨hrunning, done, ahead, hsplit, hserved, hpipe, hrest⟩ := hs
  cases hphase : s.phase with
  | size =>
      rw [hphase, Phase.taken, pipe_of_blocked hblocked hrunning hphase] at hpipe
      cases ahead with
      | nil => exact ⟨rfl, by rw [hserved, hsplit, List.append_nil]⟩
      | cons frame later =>
          have hsize := frame.hasSize
          have hlength := congrArg List.length hpipe
          simp only [List.append_nil, List.length_nil, List.map_cons, List.flatten_cons,
            List.length_append] at hlength
          simp only [sizeofMsgsz] at hsize
          omega
  | rest block size =>
      obtain ⟨hsz, hempty⟩ := rest_of_blocked hblocked hrunning hphase
      obtain ⟨frame, later, rfl, rfl⟩ := hrest block size hphase
      obtain ⟨hframe, -⟩ := hwritten frame (by simp [hsplit])
      -- The pipe is empty, so the field that was taken is the whole frame.
      rw [hphase, hempty, Phase.taken, List.append_nil, List.map_cons, List.flatten_cons] at hpipe
      have hlength := congrArg List.length hpipe
      rw [List.length_append, List.length_take_of_le frame.hasSize] at hlength
      have hsize := frame.hasSize
      have hmsgsz : (msgsz (frame.bytes.take sizeofMsgsz)).toNat = sizeofMsgsz := by
        rw [msgsz_take, hframe]
        omega
      refine absurd (UInt32.toNat_inj.mp ?_) hsz
      have hle : UInt32.ofNat sizeofMsgsz ≤ msgsz (frame.bytes.take sizeofMsgsz) := by
        rw [UInt32.le_iff_toNat_le, hmsgsz]
        exact Nat.le_refl _
      rw [UInt32.toNat_sub_of_le _ _ hle, hmsgsz]
      rfl

/-- The bytes of some frames are fewer than those of all of them. -/
theorem all_of_length_filter {frames : List Frame} {p : Frame → Bool}
    (h : (frames.map (·.bytes)).flatten.length ≤
      ((frames.filter p).map (·.bytes)).flatten.length) : ∀ frame ∈ frames, p frame = true := by
  induction frames with
  | nil => simp
  | cons frame rest ih =>
      have hless : ((rest.filter p).map (·.bytes)).flatten.length ≤
          (rest.map (·.bytes)).flatten.length :=
        (List.filter_sublist.map _).flatten.length_le
      have hsize := frame.hasSize
      cases hp : p frame with
      | false =>
          simp only [List.filter_cons, hp, Bool.false_eq_true, if_false, List.map_cons,
            List.flatten_cons, List.length_append] at h
          simp only [sizeofMsgsz] at hsize
          omega
      | true =>
          simp only [List.filter_cons, hp, if_true, List.map_cons, List.flatten_cons,
            List.length_append] at h
          intro other hmem
          rcases List.mem_cons.mp hmem with rfl | hmem
          · exact hp
          · exact ih (by omega) other hmem

/-- In every run, and after the reads that are left in it, the thread blocks; and
it has delivered the frames exactly if all that were written are well formed. -/
theorem server_delivers_iff (inputs : List Input) (block : List UInt8) :
    let s := run step start inputs
    let t := run step s (List.replicate (readsLeft s) (.read block))
    Blocked t ∧ (Delivered t ↔ ∀ frame, .write frame ∈ inputs → WellFormed frame) := by
  intro s t
  have hs : Conserved s := run_invariant_all conserved_step conserved_start inputs
  have ht : Conserved t := run_invariant_all conserved_step hs _
  have hin : (∀ frame ∈ t.written, WellFormed frame) → InStep t :=
    run_invariant_all inStep_step (run_invariant_all inStep_step (fun _ => inStep_start) inputs) _
  have hblocked : Blocked t := blocked_after hs block (Nat.le_refl _)
  have hwritten (frame : Frame) : frame ∈ t.written ↔ .write frame ∈ inputs := by
    rw [mem_written_run, mem_written_run]
    simp [start]
  refine ⟨hblocked, fun hdelivered frame hmem => ?_, fun hall => ?_⟩
  · -- All bytes have come out, so no frame is missing.
    have hbytes := ht.bytes hdelivered.running
    rw [hdelivered.received, hdelivered.inStep, Phase.taken, List.append_nil,
      pipe_of_blocked hblocked hdelivered.running hdelivered.inStep, List.append_nil] at hbytes
    have hone := all_of_length_filter (Nat.le_of_eq (congrArg List.length hbytes).symm) frame
      ((hwritten frame).mpr hmem)
    simpa using hone
  · have hwf : ∀ frame ∈ t.written, WellFormed frame := fun frame hmem =>
      hall frame ((hwritten frame).mp hmem)
    have hfilter : (t.written.filter fun frame => decide (WellFormed frame)) = t.written :=
      List.filter_eq_self.mpr fun frame hmem => decide_eq_true (hwf frame hmem)
    obtain ⟨hphase, hreceived⟩ := received_of_blocked (hin hwf) hblocked hwf
    exact ⟨(hin hwf).running, hphase, by rw [hfilter, hreceived], ht.dispatched⟩

/-- A message that is too long for the buffer, and a request after it. -/
def oversizedFrame : Frame := ⟨[255, 1, 0, 0, 5], by decide⟩

def requestFrame : Frame := ⟨[16, 0, 0, 0, 0, 0, 0, 0, 0, 0, 0, 0, 0xF0, 0, 0, 0], by decide⟩

set_option maxRecDepth 4000 in
/-- The size field of the first frame ends the thread, and the request behind it
stays in the pipe. -/
theorem request_after_oversized_frame :
    ¬∀ (inputs : List Input) (block : List UInt8),
      let s := run step start inputs
      Delivered (run step s (List.replicate (readsLeft s) (.read block))) := by
  intro h
  have hreceived := (h [.write oversizedFrame, .write requestFrame] []).received
  exact absurd (congrArg List.length hreceived) (by decide)

end G2Common.Daemon

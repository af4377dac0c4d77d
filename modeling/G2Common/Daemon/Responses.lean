import G2Common.ByteMemory
import G2Common.Daemon.Dispatch

/-!
The answers to the daemons. `loc_eng_dmn_conn_loc_api_server_data_conn` sends each as one
message on the pipe of the daemon that asked. Who receives from such a pipe with
`loc_eng_dmn_conn_glue_msgrcv`, in a loop like that of the server, gets them back.
-/

namespace G2Common.Daemon

open Transition Agps ByteMemory

def GPSONE_LOC_API_RESPONSE : UInt8 := 0xF2

/-- A `ctrl_msgbuf` with all its bytes. `result` is that of `cmsg_response`, which is the
first field of the union. -/
structure CtrlMsgbuf where
  msgsz : UInt32
  reserved : Vector UInt8 8
  ctrl_type : UInt8
  padding : Vector UInt8 3
  result : Int32
  rest : Vector UInt8 92
  deriving DecidableEq, Repr

namespace CtrlMsgbuf

def bytes (msg : CtrlMsgbuf) : List UInt8 :=
  intBytes msg.msgsz.toNat ++ (msg.reserved.toList ++ msg.ctrl_type ::
    (msg.padding.toList ++ (intBytes msg.result.toInt ++ msg.rest.toList)))

theorem length_bytes (msg : CtrlMsgbuf) : msg.bytes.length = sizeofCtrlMsgbuf := by
  simp [bytes, intBytes, sizeofCtrlMsgbuf]

/-- What `loc_eng_dmn_conn_glue_msgsnd` writes, with the size in the first field. -/
def msgsnd (msg : CtrlMsgbuf) : Frame where
  bytes := { msg with msgsz := UInt32.ofNat sizeofCtrlMsgbuf }.bytes
  hasSize := by
    rw [length_bytes]
    decide

end CtrlMsgbuf

/-- What a receiver makes of a message, if it is a response. -/
def response (message : List UInt8) : Option Int32 :=
  if message[offsetofCtrlType]? = some GPSONE_LOC_API_RESPONSE then
    some (uint32At message offsetofType).toInt32
  else none

/-- The daemons that have a pipe. -/
def hasPipe : SenderId → Bool
  | .quipc | .msapm | .msapu | .gpsoneDaemon => true
  | .modem => false

/-- A call of `loc_eng_dmn_conn_loc_api_server_data_conn`, with what it returned. -/
structure DataConn where
  sender_id : SenderId
  status : Int32
  returned : Int
  deriving DecidableEq, Repr

/-- The ends of the pipes at which the daemons receive. -/
structure Responses where
  receiver : SenderId → Server

/-- `cmsgbuf` is what was on the stack. A message is short enough for a pipe to take it as a
whole or not at all, as `written` says. -/
inductive ResponsesInput where
  | dataConn (sender_id : SenderId) (status : Int32) (cmsgbuf : CtrlMsgbuf) (written : Bool)
  | read (sender_id : SenderId) (block : List UInt8)
  deriving DecidableEq, Repr

namespace Responses

def start : Responses := ⟨fun _ => Daemon.start⟩

def receive (s : Responses) (sender_id : SenderId) (input : Input) : Responses :=
  ⟨Function.update s.receiver sender_id (Daemon.step (s.receiver sender_id) input)⟩

/-- `loc_eng_dmn_conn_loc_api_server_data_conn` -/
def dataConn (s : Responses) (sender_id : SenderId) (status : Int32) (cmsgbuf : CtrlMsgbuf)
    (written : Bool) : Responses × Int :=
  let cmsgbuf := { cmsgbuf with ctrl_type := GPSONE_LOC_API_RESPONSE, result := status }
  if hasPipe sender_id then
    if written then (s.receive sender_id (.write cmsgbuf.msgsnd), 0) else (s, -1)
  else (s, 0)

def machine (s : Responses) : ResponsesInput → Responses × List DataConn
  | .dataConn sender_id status cmsgbuf written =>
      let result := s.dataConn sender_id status cmsgbuf written
      (result.1, [⟨sender_id, status, result.2⟩])
  | .read sender_id block => (s.receive sender_id (.read block), [])

end Responses

/-- The statuses that were sent to a daemon, by what the calls returned. -/
def sentTo (sender_id : SenderId) (log : List DataConn) : List Int32 :=
  (log.filter fun call => call.sender_id = sender_id ∧ call.returned = 0).map (·.status)

/-- What was received on a pipe so far. -/
def Server.responses (s : Server) : List (Option Int32) :=
  s.served.map fun served => response served.message

theorem toNat_byteOf (value : Int) (k : Nat) :
    ((byteOf value k).toNat : Int) = value / (2 ^ (8 * k) : Nat) % 256 := by
  rw [byteOf, Int.shiftRight_eq_div_pow]
  change ((value / (2 ^ (8 * k) : Nat) % 2 ^ 8).toNat % 2 ^ 8 : Nat) = (_ : Int)
  omega

theorem msgsz_intBytes (value : Int) (rest : List UInt8) :
    msgsz (intBytes value ++ rest) = UInt32.ofInt value := by
  have htake : (intBytes value ++ rest).take sizeofMsgsz = intBytes value :=
    List.take_left' rfl
  have h0 := toNat_byteOf value 0
  have h1 := toNat_byteOf value 1
  have h2 := toNat_byteOf value 2
  have h3 := toNat_byteOf value 3
  rw [msgsz, htake]
  apply UInt32.toNat_inj.mp
  change _ = (value % 2 ^ 32).toNat % 2 ^ 32
  simp only [intBytes, List.foldr, UInt32.toNat_add, UInt32.toNat_mul, UInt8.toNat_toUInt32]
  simp at *
  omega

theorem ofInt_toNat (w : UInt32) : UInt32.ofInt w.toNat = w := by
  have hlt := w.toNat_lt
  apply UInt32.toNat_inj.mp
  change ((w.toNat : Int) % 2 ^ 32).toNat % 2 ^ 32 = w.toNat
  omega

theorem toInt32_ofInt (w : Int32) : (UInt32.ofInt w.toInt).toInt32 = w := by
  have hlt := w.toBitVec.isLt
  apply Int32.toBitVec_inj.mp
  change BitVec.ofNat 32 (w.toBitVec.toInt % 2 ^ 32).toNat = w.toBitVec
  apply BitVec.eq_of_toNat_eq
  rw [BitVec.toNat_ofNat, BitVec.toInt_eq_toNat_cond]
  split
  all_goals omega

namespace CtrlMsgbuf

variable (msg : CtrlMsgbuf)

theorem msgsz_bytes : Daemon.msgsz msg.bytes = msg.msgsz := by
  rw [bytes, msgsz_intBytes, ofInt_toNat]

/-- The bytes in front of the union. -/
theorem bytes_eq :
    ∃ front : List UInt8, front.length = offsetofType ∧
      front[offsetofCtrlType]? = some msg.ctrl_type ∧
      msg.bytes = front ++ (intBytes msg.result.toInt ++ msg.rest.toList) := by
  refine ⟨intBytes msg.msgsz.toNat ++ (msg.reserved.toList ++ msg.ctrl_type ::
    msg.padding.toList), ?_, ?_, ?_⟩
  · simp [intBytes, offsetofType]
  · rw [List.getElem?_append_right (Nat.le_add_left 4 8), List.getElem?_append_right]
    all_goals simp [intBytes, offsetofCtrlType]
  · simp [bytes]

theorem response_bytes :
    response msg.bytes =
      if msg.ctrl_type = GPSONE_LOC_API_RESPONSE then some msg.result else none := by
  obtain ⟨front, hlength, htype, hbytes⟩ := msg.bytes_eq
  have hlt : offsetofCtrlType < front.length := by
    rw [hlength]
    decide
  have hresult : (uint32At msg.bytes offsetofType).toInt32 = msg.result := by
    rw [uint32At, hbytes, List.drop_left' hlength, msgsz_intBytes, toInt32_ofInt]
  rw [response, hresult, hbytes, List.getElem?_append_left hlt, htype]
  simp

theorem wellFormed_msgsnd : WellFormed msg.msgsnd := by
  constructor
  · change (Daemon.msgsz (CtrlMsgbuf.bytes _)).toNat = (CtrlMsgbuf.bytes _).length
    rw [msgsz_bytes, length_bytes]
    rfl
  · change (CtrlMsgbuf.bytes _).length ≤ _
    rw [length_bytes]
    decide

end CtrlMsgbuf

theorem Server.responses_eq {s : Server} {frames : List Frame}
    (h : s.served.map Served.message = frames.map Frame.bytes) :
    s.responses = frames.map fun frame => response frame.bytes := by
  have hresponses := congrArg (List.map response) h
  rw [List.map_map, List.map_map] at hresponses
  exact hresponses

/-- The messages to one daemon are on its pipe or received, and they are the answers that
were sent to it. -/
structure Carries (sender_id : SenderId) (t : Traced Responses DataConn) : Prop where
  inStep : InStep (t.state.receiver sender_id)
  conserved : Conserved (t.state.receiver sender_id)
  wellFormed : ∀ frame ∈ (t.state.receiver sender_id).written, WellFormed frame
  sent : (t.state.receiver sender_id).written.map (fun frame => response frame.bytes) =
    (sentTo sender_id t.log).map some

section Carries

variable {sender_id : SenderId} {t : Traced Responses DataConn}

theorem sentTo_append (log : List DataConn) (call : DataConn) :
    sentTo sender_id (log ++ [call]) =
      sentTo sender_id log ++
        if call.sender_id = sender_id ∧ call.returned = 0 then [call.status] else [] := by
  simp only [sentTo, List.filter_append, List.map_append, List.filter_cons, List.filter_nil,
    decide_eq_true_eq]
  congr 1
  split
  case isTrue => rfl
  case isFalse => rfl

/-- A call that is not for the daemon, or that failed. -/
theorem Carries.pass (ht : Carries sender_id t) {call : DataConn}
    (hcall : ¬(call.sender_id = sender_id ∧ call.returned = 0)) {s : Responses}
    (hs : s.receiver sender_id = t.state.receiver sender_id) :
    Carries sender_id ⟨s, t.log ++ [call]⟩ := by
  refine ⟨hs ▸ ht.inStep, hs ▸ ht.conserved, hs ▸ ht.wellFormed, ?_⟩
  change (s.receiver sender_id).written.map _ = _
  rw [hs, sentTo_append, if_neg hcall, List.append_nil]
  exact ht.sent

theorem Carries.write (ht : Carries sender_id t) (status : Int32) (msg : CtrlMsgbuf)
    (htype : msg.ctrl_type = GPSONE_LOC_API_RESPONSE) (hresult : msg.result = status) :
    Carries sender_id
      ⟨t.state.receive sender_id (.write msg.msgsnd), t.log ++ [⟨sender_id, status, 0⟩]⟩ := by
  have hs : (t.state.receive sender_id (.write msg.msgsnd)).receiver sender_id =
      Daemon.step (t.state.receiver sender_id) (.write msg.msgsnd) :=
    Function.update_self ..
  have hwritten : ∀ frame ∈ (Daemon.step (t.state.receiver sender_id)
      (.write msg.msgsnd)).written, WellFormed frame := by
    intro frame hframe
    rcases List.mem_append.mp hframe with hframe | hframe
    · exact ht.wellFormed frame hframe
    · rw [List.mem_singleton.mp hframe]
      exact msg.wellFormed_msgsnd
  have hresponse : response msg.msgsnd.bytes = some status := by
    change response (CtrlMsgbuf.bytes _) = _
    rw [CtrlMsgbuf.response_bytes, if_pos htype, hresult]
  constructor
  · rw [hs]
    exact inStep_step _ _ (fun _ => ht.inStep) hwritten
  · rw [hs]
    exact conserved_step _ _ ht.conserved
  · rw [hs]
    exact hwritten
  · rw [hs, sentTo_append, if_pos ⟨rfl, rfl⟩, List.map_append, ← ht.sent]
    change List.map _ (_ ++ [msg.msgsnd]) = _
    rw [List.map_append, List.map_singleton, List.map_singleton, hresponse]

theorem Carries.read (ht : Carries sender_id t) (block : List UInt8) :
    Carries sender_id ⟨t.state.receive sender_id (.read block), t.log⟩ := by
  have hs : (t.state.receive sender_id (.read block)).receiver sender_id =
      Daemon.step (t.state.receiver sender_id) (.read block) :=
    Function.update_self ..
  have hwritten : ∀ frame ∈ (Daemon.step (t.state.receiver sender_id)
      (.read block)).written, WellFormed frame := by
    rw [written_read]
    exact ht.wellFormed
  constructor
  · rw [hs]
    exact inStep_step _ _ (fun _ => ht.inStep) hwritten
  · rw [hs]
    exact conserved_step _ _ ht.conserved
  · rw [hs]
    exact hwritten
  · rw [hs, written_read]
    exact ht.sent

theorem receiver_other {other : SenderId} (s : Responses) (input : Input)
    (hother : other ≠ sender_id) :
    (s.receive other input).receiver sender_id = s.receiver sender_id :=
  Function.update_of_ne hother.symm ..

theorem carries_step (hpipe : hasPipe sender_id = true) (t : Traced Responses DataConn)
    (input : ResponsesInput) (ht : Carries sender_id t) :
    Carries sender_id (t.step Responses.machine input) := by
  cases input with
  | dataConn other status cmsgbuf written =>
      change Carries sender_id
        ⟨(t.state.dataConn other status cmsgbuf written).1,
          t.log ++ [⟨other, status, (t.state.dataConn other status cmsgbuf written).2⟩]⟩
      by_cases hother : other = sender_id
      · subst hother
        simp only [Responses.dataConn, hpipe, if_true]
        cases written with
        | true => exact ht.write status _ rfl rfl
        | false => exact ht.pass (by simp) rfl
      · refine ht.pass (fun h => hother h.1) ?_
        rw [Responses.dataConn]
        split
        · split
          · exact receiver_other _ _ hother
          · rfl
        · rfl
  | read other block =>
      have hlog : t.step Responses.machine (.read other block) =
          ⟨t.state.receive other (.read block), t.log⟩ :=
        congrArg (Traced.mk _) (List.append_nil t.log)
      rw [hlog]
      by_cases hother : other = sender_id
      · subst hother
        exact ht.read block
      · have hs := receiver_other t.state (.read block) hother
        exact ⟨hs ▸ ht.inStep, hs ▸ ht.conserved, hs ▸ ht.wellFormed, hs ▸ ht.sent⟩

theorem carries_start : Carries sender_id ⟨.start, []⟩ :=
  ⟨inStep_start, conserved_start, by simp [Responses.start, Daemon.start], rfl⟩

/-- What a receiver in step has got is the beginning of what was sent. -/
theorem Carries.received (ht : Carries sender_id t) :
    (t.state.receiver sender_id).responses <+: (sentTo sender_id t.log).map some := by
  obtain ⟨-, done, ahead, hsplit, hserved, -⟩ := ht.inStep
  rw [Server.responses_eq hserved, ← ht.sent, hsplit, List.map_append]
  exact List.prefix_append ..

theorem Carries.all (ht : Carries sender_id t) (hblocked : Blocked (t.state.receiver sender_id)) :
    (t.state.receiver sender_id).responses = (sentTo sender_id t.log).map some := by
  obtain ⟨-, hserved⟩ := received_of_blocked ht.inStep hblocked ht.wellFormed
  exact (Server.responses_eq hserved).trans ht.sent

/-- The reads of one daemon. -/
theorem run_read (t : Traced Responses DataConn) (block : List UInt8) (n : Nat) :
    (run (Traced.step Responses.machine) t
        (List.replicate n (.read sender_id block))).state.receiver sender_id =
      run Daemon.step (t.state.receiver sender_id) (List.replicate n (.read block)) ∧
    (run (Traced.step Responses.machine) t
      (List.replicate n (.read sender_id block))).log = t.log := by
  induction n generalizing t with
  | zero => exact ⟨rfl, rfl⟩
  | succ n ih =>
      obtain ⟨hreceiver, hlog⟩ := ih (t.step Responses.machine (.read sender_id block))
      rw [List.replicate_succ, run_cons, List.replicate_succ, run_cons]
      constructor
      · rw [hreceiver]
        congr 1
        exact Function.update_self ..
      · rw [hlog]
        exact List.append_nil t.log

end Carries

/-- In every run no receiver fails, what a daemon has received is the beginning of what was
sent to it, status by status, and the reads that are left in its pipe bring the rest. -/
theorem responses_delivered {sender_id : SenderId} (hpipe : hasPipe sender_id = true)
    (inputs : List ResponsesInput) (block : List UInt8) :
    let t := run (Traced.step Responses.machine) ⟨.start, []⟩ inputs
    let s := t.state.receiver sender_id
    let s' := run Daemon.step s (List.replicate (readsLeft s) (.read block))
    s.threadExit = false ∧
      s.responses <+: (sentTo sender_id t.log).map some ∧
      s'.responses = (sentTo sender_id t.log).map some := by
  intro t s s'
  have ht : Carries sender_id t := run_invariant_all (carries_step hpipe) carries_start inputs
  have hafter : Carries sender_id (run (Traced.step Responses.machine) t
      (List.replicate (readsLeft s) (.read sender_id block))) :=
    run_invariant_all (carries_step hpipe) ht _
  obtain ⟨hreceiver, hlog⟩ := @run_read sender_id t block (readsLeft s)
  have hblocked : Blocked s' := blocked_after ht.conserved block (Nat.le_refl _)
  refine ⟨ht.inStep.running, ht.received, ?_⟩
  have hall := hafter.all
  rw [hreceiver, hlog] at hall
  exact hall hblocked

/-- Two answers to one daemon, one to another that fails, and reads in between. -/
theorem responses_delivered_two :
    let cmsgbuf : CtrlMsgbuf := ⟨0, .replicate 8 1, 2, .replicate 3 3, 4, .replicate 92 5⟩
    let t := run (Traced.step Responses.machine) ⟨.start, []⟩
      [.dataConn .msapu 0xF0 cmsgbuf true, .read .msapu [], .dataConn .quipc 0xF2 cmsgbuf false,
        .dataConn .msapu (-1) cmsgbuf true, .read .msapu []]
    let s := t.state.receiver .msapu
    let s' := run Daemon.step s (List.replicate (readsLeft s) (.read []))
    s.threadExit = false ∧
      s.responses <+: (sentTo .msapu t.log).map some ∧
      s'.responses = (sentTo .msapu t.log).map some :=
  responses_delivered (by decide) _ _

end G2Common.Daemon

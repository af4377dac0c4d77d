import G2Common.Agps.Subscriber
import G2Common.Daemon.Receive
import Mathlib.Data.List.GetD
import Mathlib.Data.List.TakeWhile

/-!
What `loc_api_server_proc` makes of a message. Its handlers get the length of
the message and do not look at it, so a field that the message does not reach is
read from the memory that `malloc` returned.
-/

namespace G2Common.Daemon

open Agps

/-! The fields of `cmsg_if_request` in a `ctrl_msgbuf`. -/

def offsetofType : Nat := 16

def offsetofSenderId : Nat := 20

def offsetofIpv4Addr : Nat := 24

def offsetofIpv6Addr : Nat := 28

def offsetofSsid : Nat := 44

def offsetofPassword : Nat := 77

/-- A `LocEngReqRelWifi` or a `LocEngReqRelBIT`. -/
inductive ReqRel (H : Type*) where
  | wifi (mLocEng : Option H) (mType : AGpsExtType) (mSenderId : SenderId)
      (mSSID mPassword : List UInt8) (mIsReq : Bool)
  | bit (mLocEng : Option H) (mType : AGpsExtType) (mIPv4Addr : UInt32)
      (mIPv6Addr : List UInt8) (mIsReq : Bool)
  deriving DecidableEq, Repr

/-- What `loc_api_server_proc` returns, the handler that it called and the message
that this made. -/
structure Proc (H : Type*) where
  result : Int
  handler : Option Handler
  msg : Option (ReqRel H)
  deriving DecidableEq, Repr

/-- The four bytes at an offset, in the byte order of the target. -/
def uint32At (pmsg : List UInt8) (offset : Nat) : UInt32 := msgsz (pmsg.drop offset)

/-- The string at an offset, as far as `strlcpy` copies it. -/
def stringAt (pmsg : List UInt8) (offset : Nat) : List UInt8 :=
  strlcpy ((pmsg.drop offset).takeWhile (· ≠ 0))

/-- The first `switch` of both handlers. -/
def requestType (type : UInt32) : Option AGpsExtType :=
  if type = 0 then some .supl
  else if type = 1 then some .wifi
  else if type = 2 then some .any
  else none

/-- The second `switch` of both handlers. -/
def requestSender (sender_id : UInt32) : Option SenderId :=
  if sender_id = 0 then some .quipc
  else if sender_id = 1 then some .msapm
  else if sender_id = 2 then some .msapu
  else if sender_id = 3 then some .gpsoneDaemon
  else none

section Handlers

variable {H : Type*} (loc_api_handle : Option H) (pmsg : List UInt8)

/-- The message for a request or a release, if type and sender are valid. -/
def ifReqRel (isReq : Bool) : Option (ReqRel H) :=
  match requestType (uint32At pmsg offsetofType) with
  | none => none
  | some type =>
      match requestSender (uint32At pmsg offsetofSenderId) with
      | none => none
      | some .gpsoneDaemon =>
          some (.bit loc_api_handle type (uint32At pmsg offsetofIpv4Addr)
            ((pmsg.drop offsetofIpv6Addr).take 16) isReq)
      | some senderId =>
          some (.wifi loc_api_handle type senderId (stringAt pmsg offsetofSsid)
            (stringAt pmsg offsetofPassword) isReq)

/-- `loc_eng_dmn_conn_loc_api_server_if_request_handler`. -/
def ifRequestHandler : Option (ReqRel H) :=
  if loc_api_handle.isNone then none else ifReqRel loc_api_handle pmsg true

/-- `loc_eng_dmn_conn_loc_api_server_if_release_handler`. -/
def ifReleaseHandler : Option (ReqRel H) := ifReqRel loc_api_handle pmsg false

def callHandler : Option Handler → Option (ReqRel H)
  | some .ifRequest => ifRequestHandler loc_api_handle pmsg
  | some .ifRelease => ifReleaseHandler loc_api_handle pmsg
  | none => none

/-- What the dispatch of a received message does. -/
def serve : Proc H :=
  ⟨0, dispatch (pmsg.getD offsetofCtrlType 0),
    callHandler loc_api_handle pmsg (dispatch (pmsg.getD offsetofCtrlType 0))⟩

end Handlers

/-- The memory after the writes of a call. -/
def store (block : List UInt8) (writes : List (UInt8 × Nat)) : List UInt8 :=
  writes.foldl (fun memory write => memory.set write.2 write.1) block

/-- `loc_api_server_proc`, where `block` is the memory that `malloc` returned. -/
def locApiServerProc {H : Type*} (loc_api_handle : Option H) (block pipe more : List UInt8) :
    Option (Proc H) :=
  let received := msgrcv (UInt32.ofNat msgbufsz) pipe more
  received.result.map fun length =>
    if length ≤ 0 then ⟨-1, none, none⟩
    else serve loc_api_handle (store block received.writes)

/-- The message reaches each field of a request or a release that is read of it. A
field counts as reached, too, if what there is of it is too large already, or ends
the string. -/
def CoversFields (message : List UInt8) : Prop :=
  2 < (uint32At message offsetofType).toNat ∨
    offsetofSenderId ≤ message.length ∧
      (3 < (uint32At message offsetofSenderId).toNat ∨
        offsetofIpv4Addr ≤ message.length ∧
          if uint32At message offsetofSenderId = 3 then offsetofSsid ≤ message.length
          else offsetofPassword + 32 ≤ message.length ∨ 0 ∈ message.drop offsetofPassword)

/-- The message reaches what is read of it. -/
def Covers {H : Type*} (loc_api_handle : Option H) (message : List UInt8) : Prop :=
  offsetofCtrlType < message.length ∧
    (dispatch (message.getD offsetofCtrlType 0) = none ∨
      dispatch (message.getD offsetofCtrlType 0) = some .ifRequest ∧ loc_api_handle = none ∨
      CoversFields message)

section Fields

variable {message rest : List UInt8} {offset : Nat}

theorem toNat_msgsz (bytes : List UInt8) :
    (msgsz bytes).toNat = (bytes.getD 0 0).toNat + 256 * (bytes.getD 1 0).toNat +
      65536 * (bytes.getD 2 0).toNat + 16777216 * (bytes.getD 3 0).toNat := by
  have hbyte (byte : UInt8) : byte.toNat < 256 := byte.toNat_lt
  rcases bytes with _ | ⟨a, _ | ⟨b, _ | ⟨c, _ | ⟨d, rest⟩⟩⟩⟩
  · rfl
  · have ha := hbyte a
    simp [msgsz, sizeofMsgsz]
  · have ha := hbyte a
    have hb := hbyte b
    simp [msgsz, sizeofMsgsz]
    omega
  · have ha := hbyte a
    have hb := hbyte b
    have hc := hbyte c
    simp [msgsz, sizeofMsgsz]
    omega
  · have ha := hbyte a
    have hb := hbyte b
    have hc := hbyte c
    have hd := hbyte d
    simp [msgsz, sizeofMsgsz]
    omega

theorem toNat_uint32At (pmsg : List UInt8) (offset : Nat) :
    (uint32At pmsg offset).toNat = (pmsg.getD offset 0).toNat +
      256 * (pmsg.getD (offset + 1) 0).toNat + 65536 * (pmsg.getD (offset + 2) 0).toNat +
      16777216 * (pmsg.getD (offset + 3) 0).toNat := by
  rw [uint32At, toNat_msgsz]
  simp [List.getD_eq_getElem?_getD, List.getElem?_drop]

/-- A field inside the message. -/
theorem uint32At_append (rest : List UInt8) (h : offset + 4 ≤ message.length) :
    uint32At (message ++ rest) offset = uint32At message offset := by
  rw [uint32At, List.drop_append_of_le_length (by omega), msgsz_append]
  · rfl
  · rw [List.length_drop, sizeofMsgsz]
    omega

theorem getD_append_le (message rest : List UInt8) (i : Nat) :
    (message.getD i 0).toNat ≤ ((message ++ rest).getD i 0).toNat := by
  rcases Nat.lt_or_ge i message.length with hlt | hge
  · exact Nat.le_of_eq (by rw [List.getD_append _ _ _ _ hlt])
  · rw [List.getD_eq_default _ _ hge]
    exact Nat.zero_le _

/-- What follows the message can only make a field larger. -/
theorem uint32At_le (message rest : List UInt8) (offset : Nat) :
    (uint32At message offset).toNat ≤ (uint32At (message ++ rest) offset).toNat := by
  have h := getD_append_le message rest
  have h0 := h offset
  have h1 := h (offset + 1)
  have h2 := h (offset + 2)
  have h3 := h (offset + 3)
  rw [toNat_uint32At, toNat_uint32At]
  omega

/-- Zeros after the message change no field. -/
theorem uint32At_zeros (message : List UInt8) (count offset : Nat) :
    uint32At (message ++ List.replicate count 0) offset = uint32At message offset := by
  have h (i : Nat) : (message ++ List.replicate count 0).getD i 0 = message.getD i 0 := by
    rcases Nat.lt_or_ge i message.length with hlt | hge
    · rw [List.getD_append _ _ _ _ hlt]
    · rw [List.getD_append_right _ _ _ _ hge, List.getD_eq_default message _ hge,
        List.getD_eq_getElem?_getD, List.getElem?_getD_replicate_default_eq]
  apply UInt32.toNat_inj.mp
  simp only [toNat_uint32At, h]

theorem getD_take_drop (pmsg : List UInt8) (offset : Nat) :
    ((pmsg.drop offset).take 16).getD 15 0 = pmsg.getD (offset + 15) 0 := by
  simp [List.getD_eq_getElem?_getD, List.getElem?_drop]

/-- A byte after the message. -/
theorem getD_replicate {count i : Nat} (byte : UInt8) (h : message.length ≤ i)
    (hcount : i < message.length + count) :
    (message ++ List.replicate count byte).getD i 0 = byte := by
  rw [List.getD_append_right _ _ _ _ h, List.getD_replicate]
  omega

/-- Other bytes make a field too large that the message does not reach. -/
theorem uint32At_ones {count : Nat} (h : message.length < offset + 4)
    (hcount : offset + 4 ≤ message.length + count) :
    3 < (uint32At (message ++ List.replicate count 0xFF) offset).toNat := by
  have hlast : (message ++ List.replicate count 0xFF).getD (offset + 3) 0 = 0xFF :=
    getD_replicate 0xFF (by omega) (by omega)
  rw [toNat_uint32At, hlast]
  have : (0xFF : UInt8).toNat = 255 := rfl
  omega

theorem requestType_none {type : UInt32} : requestType type = none ↔ 2 < type.toNat := by
  have h0 : type = 0 ↔ type.toNat = 0 := UInt32.toNat_inj.symm
  have h1 : type = 1 ↔ type.toNat = 1 := UInt32.toNat_inj.symm
  have h2 : type = 2 ↔ type.toNat = 2 := UInt32.toNat_inj.symm
  simp only [requestType, h0, h1, h2]
  repeat' split
  all_goals simp
  all_goals omega

theorem requestSender_none {sender_id : UInt32} :
    requestSender sender_id = none ↔ 3 < sender_id.toNat := by
  have h0 : sender_id = 0 ↔ sender_id.toNat = 0 := UInt32.toNat_inj.symm
  have h1 : sender_id = 1 ↔ sender_id.toNat = 1 := UInt32.toNat_inj.symm
  have h2 : sender_id = 2 ↔ sender_id.toNat = 2 := UInt32.toNat_inj.symm
  have h3 : sender_id = 3 ↔ sender_id.toNat = 3 := UInt32.toNat_inj.symm
  simp only [requestSender, h0, h1, h2, h3]
  repeat' split
  all_goals simp
  all_goals omega

theorem requestSender_daemon {sender_id : UInt32} :
    requestSender sender_id = some .gpsoneDaemon ↔ sender_id = 3 := by
  unfold requestSender
  repeat' split
  all_goals simp_all

/-- A string that ends in the message, or is cut off there. -/
theorem stringAt_append (rest : List UInt8)
    (h : offset + 32 ≤ message.length ∨ 0 ∈ message.drop offset) :
    stringAt (message ++ rest) offset = stringAt message offset := by
  have hoffset : offset ≤ message.length := by
    rcases h with hlength | hmem
    · omega
    · by_contra hlt
      rw [List.drop_of_length_le (by omega)] at hmem
      cases hmem
  rw [stringAt, stringAt, List.drop_append_of_le_length hoffset, List.takeWhile_append]
  split
  · rename_i hall
    have hall' := (List.takeWhile_prefix (· ≠ (0 : UInt8))).eq_of_length hall
    rcases h with hlength | hmem
    · rw [hall', strlcpy, strlcpy, ssidBufSize, List.take_append_of_le_length]
      rw [List.length_drop]
      omega
    · have := List.takeWhile_eq_self_iff.mp hall' 0 hmem
      simp at this
  · rfl

/-- A string that does not end in the message. -/
theorem length_stringAt {count : Nat} (byte : UInt8) (h : 0 ∉ message.drop offset) :
    (stringAt (message ++ List.replicate count byte) offset).length =
      min 32 (message.length - offset +
        if byte = 0 then 0 else count - (offset - message.length)) := by
  have hall : ∀ other ∈ message.drop offset, decide (other ≠ 0) = true := by
    intro other hmem
    simp only [ne_eq, decide_eq_true_eq]
    rintro rfl
    exact h hmem
  rw [stringAt, List.drop_append, List.drop_replicate, List.takeWhile_append_of_pos hall, strlcpy,
    List.length_take, List.length_append, List.length_drop, List.takeWhile_replicate]
  by_cases hbyte : byte = 0 <;> simp [hbyte, ssidBufSize]

end Fields

section Dispatch

variable {H : Type*} {loc_api_handle : Option H} {message rest : List UInt8}

theorem ifReqRel_append (h : CoversFields message) (rest : List UInt8) (isReq : Bool) :
    ifReqRel loc_api_handle (message ++ rest) isReq =
      ifReqRel loc_api_handle message isReq := by
  rcases h with htype | ⟨hsender, hfields⟩
  · have htype' := Nat.lt_of_lt_of_le htype (uint32At_le message rest offsetofType)
    simp [ifReqRel, requestType_none.mpr htype, requestType_none.mpr htype']
  · have htype : uint32At (message ++ rest) offsetofType = uint32At message offsetofType :=
      uint32At_append rest hsender
    rcases hfields with hinvalid | ⟨hipv4, hfields⟩
    · have hinvalid' := Nat.lt_of_lt_of_le hinvalid (uint32At_le message rest offsetofSenderId)
      simp [ifReqRel, htype, requestSender_none.mpr hinvalid, requestSender_none.mpr hinvalid']
    · have hsender' : uint32At (message ++ rest) offsetofSenderId =
          uint32At message offsetofSenderId := uint32At_append rest hipv4
      unfold ifReqRel
      rw [htype, hsender']
      by_cases hdaemon : uint32At message offsetofSenderId = 3
      · rw [if_pos hdaemon] at hfields
        have hipv4' : uint32At (message ++ rest) offsetofIpv4Addr =
            uint32At message offsetofIpv4Addr := by
          apply uint32At_append
          simp only [offsetofSsid, offsetofIpv4Addr] at *
          omega
        have hipv6 : ((message ++ rest).drop offsetofIpv6Addr).take 16 =
            (message.drop offsetofIpv6Addr).take 16 := by
          simp only [offsetofSsid, offsetofIpv6Addr] at *
          rw [List.drop_append_of_le_length (by omega), List.take_append_of_le_length]
          rw [List.length_drop]
          omega
        rw [requestSender_daemon.mpr hdaemon, hipv4', hipv6]
      · rw [if_neg hdaemon] at hfields
        have hlength : offsetofPassword ≤ message.length := by
          rcases hfields with hlength | hmem
          · omega
          · by_contra hlt
            rw [List.drop_of_length_le (by omega)] at hmem
            cases hmem
        have hssid : stringAt (message ++ rest) offsetofSsid = stringAt message offsetofSsid :=
          stringAt_append rest (.inl (Nat.le_trans (by decide) hlength))
        rw [stringAt_append rest hfields, hssid]
        cases hrequest : requestSender (uint32At message offsetofSenderId) with
        | none => rfl
        | some sender =>
            cases sender with
            | gpsoneDaemon => exact absurd (requestSender_daemon.mp hrequest) hdaemon
            | _ => rfl

/-- A message that is covered is served the same whatever follows it. -/
theorem serve_append (h : Covers loc_api_handle message) (rest : List UInt8) :
    serve loc_api_handle (message ++ rest) = serve loc_api_handle message := by
  obtain ⟨hctrl, hfields⟩ := h
  have hgetD : (message ++ rest).getD offsetofCtrlType 0 = message.getD offsetofCtrlType 0 :=
    List.getD_append _ _ _ _ hctrl
  rw [serve, serve, hgetD]
  congr 1
  rcases hfields with hnone | ⟨hrequest, hnull⟩ | hfields
  · rw [hnone]
    rfl
  · rw [hrequest, hnull]
    rfl
  · cases dispatch (message.getD offsetofCtrlType 0) with
    | none => rfl
    | some handler =>
        cases handler <;>
          simp [callHandler, ifRequestHandler, ifReleaseHandler, ifReqRel_append hfields]

theorem ifReqRel_none {pmsg : List UInt8} {isReq : Bool} :
    ifReqRel loc_api_handle pmsg isReq = none ↔
      2 < (uint32At pmsg offsetofType).toNat ∨ 3 < (uint32At pmsg offsetofSenderId).toNat := by
  rw [← requestType_none, ← requestSender_none, ifReqRel]
  cases requestType (uint32At pmsg offsetofType) with
  | none => simp
  | some type =>
      cases requestSender (uint32At pmsg offsetofSenderId) with
      | none => simp
      | some senderId => cases senderId <;> simp

theorem ifReqRel_daemon {pmsg : List UInt8} {type : AGpsExtType} {isReq : Bool}
    (htype : requestType (uint32At pmsg offsetofType) = some type)
    (hsender : uint32At pmsg offsetofSenderId = 3) :
    ifReqRel loc_api_handle pmsg isReq =
      some (.bit loc_api_handle type (uint32At pmsg offsetofIpv4Addr)
        ((pmsg.drop offsetofIpv6Addr).take 16) isReq) := by
  simp [ifReqRel, htype, requestSender_daemon.mpr hsender]

theorem ifReqRel_wifi {pmsg : List UInt8} {type : AGpsExtType} {senderId : SenderId}
    {isReq : Bool} (htype : requestType (uint32At pmsg offsetofType) = some type)
    (hsender : requestSender (uint32At pmsg offsetofSenderId) = some senderId)
    (hwifi : senderId ≠ .gpsoneDaemon) :
    ifReqRel loc_api_handle pmsg isReq =
      some (.wifi loc_api_handle type senderId (stringAt pmsg offsetofSsid)
        (stringAt pmsg offsetofPassword) isReq) := by
  cases senderId <;> simp_all [ifReqRel]

/-- A request or a release that is not covered depends on what follows it: on the
last byte of a number or an address, or on the end of the password. -/
theorem ifReqRel_depends {count : Nat} (h : ¬ CoversFields message)
    (hcount : msgbufsz ≤ message.length + count) (isReq : Bool) :
    ifReqRel loc_api_handle (message ++ List.replicate count 0) isReq ≠
      ifReqRel loc_api_handle (message ++ List.replicate count 0xFF) isReq := by
  intro heq
  obtain ⟨htype, hsender⟩ := not_or.mp h
  have hzeros := uint32At_zeros message count
  rw [msgbufsz_eq] at hcount
  rcases Nat.lt_or_ge message.length offsetofSenderId with hless | hreach
  · have hempty : uint32At message offsetofSenderId = 0 := by
      rw [uint32At, List.drop_of_length_le (by omega)]
      rfl
    have hinvalid : 3 < (uint32At (message ++ List.replicate count 0xFF) offsetofType).toNat :=
      uint32At_ones hless (by simp only [offsetofType]; omega)
    have hnone : ifReqRel loc_api_handle (message ++ List.replicate count 0xFF) isReq = none :=
      ifReqRel_none.mpr (.inl (by omega))
    rw [hnone, ifReqRel_none, hzeros, hzeros, hempty] at heq
    exact absurd heq (not_or.mpr ⟨htype, by decide⟩)
  · obtain ⟨hvalid, hfields⟩ := not_or.mp (not_and.mp hsender hreach)
    rcases Nat.lt_or_ge message.length offsetofIpv4Addr with hless | hreach'
    · have hinvalid :
          3 < (uint32At (message ++ List.replicate count 0xFF) offsetofSenderId).toNat :=
        uint32At_ones hless (by simp only [offsetofSenderId]; omega)
      rw [ifReqRel_none.mpr (.inr hinvalid), ifReqRel_none, hzeros, hzeros] at heq
      exact absurd heq (not_or.mpr ⟨htype, hvalid⟩)
    · have hfield := not_and.mp hfields hreach'
      have htype' : uint32At (message ++ List.replicate count 0xFF) offsetofType =
          uint32At message offsetofType := uint32At_append _ hreach
      have hsender' : uint32At (message ++ List.replicate count 0xFF) offsetofSenderId =
          uint32At message offsetofSenderId := uint32At_append _ hreach'
      obtain ⟨type, hrequest⟩ : ∃ type, requestType (uint32At message offsetofType) = some type :=
        Option.ne_none_iff_exists'.mp (mt requestType_none.mp htype)
      by_cases hdaemon : uint32At message offsetofSenderId = 3
      · rw [if_pos hdaemon] at hfield
        rw [ifReqRel_daemon ((hzeros _).symm ▸ hrequest) ((hzeros _).trans hdaemon),
          ifReqRel_daemon (htype'.symm ▸ hrequest) (hsender'.trans hdaemon)] at heq
        have hipv6 : ((message ++ List.replicate count 0).drop offsetofIpv6Addr).take 16 =
            ((message ++ List.replicate count 0xFF).drop offsetofIpv6Addr).take 16 := by
          simp only [Option.some.injEq, ReqRel.bit.injEq] at heq
          exact heq.2.2.2.1
        have hlast := congrArg (·.getD 15 0) hipv6
        simp only [getD_take_drop, offsetofSsid, offsetofIpv6Addr] at hlast hfield
        rw [getD_replicate _ (by omega) (by omega), getD_replicate _ (by omega) (by omega)] at hlast
        exact absurd hlast (by decide)
      · rw [if_neg hdaemon] at hfield
        obtain ⟨hshort, hend⟩ := not_or.mp hfield
        obtain ⟨senderId, hsenderId⟩ :
            ∃ senderId, requestSender (uint32At message offsetofSenderId) = some senderId :=
          Option.ne_none_iff_exists'.mp (mt requestSender_none.mp hvalid)
        have hwifi : senderId ≠ .gpsoneDaemon := by
          rintro rfl
          exact hdaemon (requestSender_daemon.mp hsenderId)
        rw [ifReqRel_wifi ((hzeros _).symm ▸ hrequest) ((hzeros _).symm ▸ hsenderId) hwifi,
          ifReqRel_wifi (htype'.symm ▸ hrequest) (hsender'.symm ▸ hsenderId) hwifi] at heq
        have hpassword : stringAt (message ++ List.replicate count 0) offsetofPassword =
            stringAt (message ++ List.replicate count 0xFF) offsetofPassword := by
          simp only [Option.some.injEq, ReqRel.wifi.injEq] at heq
          exact heq.2.2.2.2.1
        have hlength := congrArg List.length hpassword
        rw [length_stringAt 0 hend, length_stringAt 0xFF hend, if_pos rfl, if_neg (by decide)]
          at hlength
        simp only [offsetofPassword] at hshort hlength
        omega

/-- A message that is not covered is served differently after other bytes. -/
theorem serve_depends {count : Nat} (h : ¬ Covers loc_api_handle message)
    (hcount : message.length + count = msgbufsz) :
    ∃ byte byte', serve loc_api_handle (message ++ List.replicate count byte) ≠
      serve loc_api_handle (message ++ List.replicate count byte') := by
  rw [msgbufsz_eq] at hcount
  rcases Nat.lt_or_ge offsetofCtrlType message.length with hctrl | hless
  · have hgetD (byte : UInt8) : (message ++ List.replicate count byte).getD offsetofCtrlType 0 =
        message.getD offsetofCtrlType 0 := List.getD_append _ _ _ _ hctrl
    obtain ⟨hhandler, hrest⟩ := not_or.mp (not_and.mp h hctrl)
    obtain ⟨hnull, hfields⟩ := not_or.mp hrest
    refine ⟨0, 0xFF, ?_⟩
    intro heq
    have hmsg := congrArg Proc.msg heq
    simp only [serve, hgetD] at hmsg
    cases hdispatch : dispatch (message.getD offsetofCtrlType 0) with
    | none => exact hhandler hdispatch
    | some handler =>
        rw [hdispatch] at hmsg
        cases handler with
        | ifRequest =>
            have hhandle : loc_api_handle.isNone = false := by
              cases hnone : loc_api_handle with
              | none => exact absurd ⟨hdispatch, hnone⟩ hnull
              | some handle => rfl
            simp only [callHandler, ifRequestHandler, hhandle, Bool.false_eq_true, if_false] at hmsg
            exact ifReqRel_depends hfields (Nat.le_of_eq hcount.symm) true hmsg
        | ifRelease => exact ifReqRel_depends hfields (Nat.le_of_eq hcount.symm) false hmsg
  · refine ⟨0, GPSONE_LOC_API_IF_RELEASE, ?_⟩
    intro heq
    have hhandler := congrArg Proc.handler heq
    simp only [serve, offsetofCtrlType] at hhandler hless
    rw [getD_replicate _ hless (by omega), getD_replicate _ hless (by omega)] at hhandler
    exact absurd hhandler (by decide)

/-- The message is in the buffer, and after it what was there. -/
theorem store_eq (front message block : List UInt8) (h : message.length ≤ block.length) :
    store (front ++ block) (message.zipIdx front.length) =
      front ++ message ++ block.drop message.length := by
  induction message generalizing front block with
  | nil => simp [store]
  | cons byte message ih =>
      cases block with
      | nil => simp at h
      | cons other block =>
          have hrest := ih (front ++ [byte]) block (by simpa using h)
          rw [List.length_append, List.length_singleton] at hrest
          simpa [store] using hrest

theorem locApiServerProc_eq {frame : Frame} (h : WellFormed frame) (loc_api_handle : Option H)
    {block : List UInt8} (hblock : block.length = msgbufsz) (rest : List UInt8) :
    locApiServerProc loc_api_handle block (frame.bytes ++ rest) [] =
      some (serve loc_api_handle (frame.bytes ++ block.drop frame.bytes.length)) := by
  have hstore := store_eq [] frame.bytes block (hblock ▸ h.2)
  have hpos : ¬ (frame.bytes.length : Int) ≤ 0 := by
    have := frame.hasSize
    rw [sizeofMsgsz] at this
    omega
  simp only [List.nil_append, List.length_nil] at hstore
  simp only [locApiServerProc, msgrcv_frame h, Option.map_some, hpos, if_false, hstore]

end Dispatch

/-- What a received message makes the server do is the same for any two contents of
the buffer before it, if and only if the message covers what is read of it. -/
theorem proc_independent {H : Type*} (loc_api_handle : Option H) (frame : Frame)
    (rest : List UInt8) (h : WellFormed frame) :
    (∀ block block' : List UInt8, block.length = msgbufsz → block'.length = msgbufsz →
      locApiServerProc loc_api_handle block (frame.bytes ++ rest) [] =
        locApiServerProc loc_api_handle block' (frame.bytes ++ rest) []) ↔
      Covers loc_api_handle frame.bytes := by
  constructor
  · intro hsame
    by_contra hcovers
    have hcount : frame.bytes.length + (msgbufsz - frame.bytes.length) = msgbufsz := by
      have := h.2
      omega
    obtain ⟨byte, byte', hdiffer⟩ := serve_depends hcovers hcount
    have hlength (byte : UInt8) : (frame.bytes ++
        List.replicate (msgbufsz - frame.bytes.length) byte).length = msgbufsz := by
      rw [List.length_append, List.length_replicate, hcount]
    have heq := hsame _ _ (hlength byte) (hlength byte')
    rw [locApiServerProc_eq h loc_api_handle (hlength byte),
      locApiServerProc_eq h loc_api_handle (hlength byte'), List.drop_left, List.drop_left] at heq
    exact hdiffer (Option.some.inj heq)
  · intro hcovers block block' hblock hblock'
    rw [locApiServerProc_eq h loc_api_handle hblock, locApiServerProc_eq h loc_api_handle hblock',
      serve_append hcovers, serve_append hcovers]

/-- A release of 13 bytes has no fields. -/
theorem short_message_depends :
    let message : List UInt8 := [13, 0, 0, 0, 0, 0, 0, 0, 0, 0, 0, 0, 0xF1]
    locApiServerProc (some 0) (List.replicate msgbufsz 0) message [] =
        some ⟨0, some .ifRelease, some (.wifi (some 0) .supl .quipc [] [] false)⟩ ∧
      locApiServerProc (some 0) (List.replicate msgbufsz 0xFF) message [] =
        some ⟨0, some .ifRelease, none⟩ := by
  decide +kernel

/-- A request for any network by the gpsone daemon, with its two addresses. -/
def anyRequest : Frame where
  bytes := [44, 0, 0, 0, 0, 0, 0, 0, 0, 0, 0, 0, 0xF0, 0, 0, 0, 2, 0, 0, 0, 3, 0, 0, 0, 10, 0, 0, 1,
    0xFE, 0x80, 0, 0, 0, 0, 0, 0, 0, 0, 0, 0, 0, 0, 0, 1]
  hasSize := by decide

theorem proc_independent_request :
    locApiServerProc (some 0) (List.replicate msgbufsz 0) (anyRequest.bytes ++ [7]) [] =
      locApiServerProc (some 0) (List.replicate msgbufsz 0xFF) (anyRequest.bytes ++ [7]) [] :=
  (proc_independent (some 0) anyRequest [7] (by decide)).mpr
    ⟨by decide, .inr (.inr (.inr ⟨by decide, .inr ⟨by decide, by decide⟩⟩))⟩ _ _
    (List.length_replicate ..) (List.length_replicate ..)

end G2Common.Daemon

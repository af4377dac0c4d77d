import Mathlib.Data.List.Basic

/-!
The data model of `loc_eng_agps`: subscribers of the four classes, the
notifications that a state machine sends to them, and what each class does
with a notification. Everything a machine does to the outside (calls into the
adapter, the daemon pipes, the servicer, the timer) is recorded in order in
`AgpsStateMachine.effects`; so is each notification that a subscriber took.
-/

namespace G2Common.Agps

inductive AgpsRsrcStatus where
  | subscribe | unsubscribe | granted | released | denied | statusMax
  deriving DecidableEq, Repr

/-- The two values of `AGpsStatusValue` that a state machine requests. -/
inductive AGpsStatusValue where
  | requestAgpsDataConn | releaseAgpsDataConn
  deriving DecidableEq, Repr

inductive AGpsExtType where
  | invalid | any | supl | c2k | wwanAny | wifi | suplEs
  deriving DecidableEq, Repr

inductive AGpsBearerType where
  | invalid | ipv4 | ipv6 | ipv4v6
  deriving DecidableEq, Repr

/-- `loc_if_req_sender_id_e_type` -/
inductive SenderId where
  | quipc | msapm | msapu | gpsoneDaemon | modem
  deriving DecidableEq, Repr

/-- The value of the sender id, which `WIFISubscriber` uses as its ID. -/
def SenderId.toID : SenderId → UInt32
  | .quipc => 0
  | .msapm => 1
  | .msapu => 2
  | .gpsoneDaemon => 3
  | .modem => 4

/-- `GPSONE_LOC_API_IF_REQUEST_SUCCESS`, `.._RELEASE_SUCCESS` and `.._FAILURE` -/
inductive IfResult where
  | requestSuccess | releaseSuccess | failure
  deriving DecidableEq, Repr

def inaddrNone : UInt32 := 0xFFFFFFFF

def ssidBufSize : Nat := 33

def strlcpy (s : List UInt8) : List UInt8 := s.take (ssidBufSize - 1)

/-- The request handed to an `AGpsServicer`. `ipv4Addr` is `none` where the
source leaves the field unset; `inet6` is the address family of `addr`, which
is zeroed otherwise. -/
structure AGpsExtStatus where
  type : AGpsExtType
  status : AGpsStatusValue
  ipv4Addr : Option UInt32
  inet6 : Bool
  ssid : List UInt8
  password : List UInt8
  deriving DecidableEq, Repr

inductive SubscriberClass where
  | bit
  | atl (mBackwardCompatibleMode : Bool)
  | wifi (mSSID mPassword : Option (List UInt8)) (senderId : SenderId) (mIsInactive : Bool)
  | ds (mIsInactive : Bool)
  deriving DecidableEq, Repr

/-- `mIPv6Addr` is the address of a `BITSubscriber`. For the other classes it
stands for the 16 bytes found at that offset of the object, which
`BITSubscriber::equals` reads after its cast whatever the class is. -/
structure Subscriber where
  ID : UInt32
  mIPv6Addr : Vector UInt8 16
  cls : SubscriberClass
  deriving DecidableEq, Repr

inductive Broadcast where
  | all | active | inactive
  deriving DecidableEq, Repr

/-- A notification goes to `rcver` where that is set, to a group otherwise. -/
inductive Receiver where
  | rcver (subscriber : Subscriber)
  | groupID (group : Broadcast)
  deriving DecidableEq, Repr

structure Notification where
  receiver : Receiver
  rsrcStatus : AgpsRsrcStatus
  postNotifyDelete : Bool
  deriving DecidableEq, Repr

inductive AgpsState where
  | released | pending | acquired | releasing
  deriving DecidableEq, Repr

/-- `notified` is written when a subscriber takes a notification; the others
are the calls a machine makes. `openAndStartDataCall` carries the value it
returned and `locTimerStart` whether a timer thread was started. -/
inductive Effect where
  | notified (ID : UInt32) (status : AgpsRsrcStatus)
  | dataConn (senderId : SenderId) (status : IfResult)
  | atlOpenStatus (handle : UInt32) (isSucc : Bool) (apn : Option (List UInt8))
      (bearer : AGpsBearerType) (type : AGpsExtType)
  | atlCloseStatus (handle : UInt32) (isSucc : Bool)
  | requestRsrc (nifRequest : AGpsExtStatus)
  | openAndStartDataCall (ret : Int)
  | stopDataCall
  | closeDataCall
  | requestATL (handle : UInt32) (type : AGpsExtType)
  | requestSuplES (handle : UInt32)
  | locTimerStart (armed : Bool)
  deriving DecidableEq, Repr

/-- `mSubscribers` is the linked list from its head. `mRetries` is a member of
`DSStateMachine` only; a plain `AgpsStateMachine` never looks at it. -/
structure AgpsStateMachine where
  mStatePtr : AgpsState
  mSubscribers : List Subscriber
  mType : AGpsExtType
  mAPN : Option (List UInt8)
  mBearer : AGpsBearerType
  mEnforceSingleSubscriber : Bool
  mRetries : UInt8
  effects : List Effect
  deriving DecidableEq, Repr

/-- The machine after one more effect. -/
def AgpsStateMachine.did (m : AgpsStateMachine) (e : Effect) : AgpsStateMachine :=
  { m with effects := m.effects ++ [e] }

def BITSubscriber (ipv4 : UInt32) (ipv6 : Vector UInt8 16) : Subscriber :=
  ⟨ipv4, ipv6, .bit⟩

def ATLSubscriber (id : UInt32) (compatibleMode : Bool) (raw : Vector UInt8 16) :
    Subscriber :=
  ⟨id, raw, .atl compatibleMode⟩

def WIFISubscriber (ssid password : Option (List UInt8)) (senderId : SenderId)
    (raw : Vector UInt8 16) : Subscriber :=
  ⟨senderId.toID, raw, .wifi (ssid.map strlcpy) (password.map strlcpy) senderId false⟩

def DSSubscriber (id : UInt32) : Subscriber :=
  ⟨id, Vector.replicate 16 0, .ds false⟩

/-- `0 == strncmp(a, b, n)` on buffers of at least `n` bytes. -/
def strncmpEq : Nat → List UInt8 → List UInt8 → Bool
  | n + 1, a :: as, b :: bs => a == b && (a == 0 || strncmpEq n as bs)
  | _, _, _ => true

namespace Subscriber

def isInactive (s : Subscriber) : Bool :=
  match s.cls with
  | .wifi _ _ _ mIsInactive => mIsInactive
  | .ds mIsInactive => mIsInactive
  | _ => false

def waitForCloseComplete (s : Subscriber) : Bool :=
  match s.cls with
  | .wifi .. => true
  | .ds _ => true
  | _ => false

/-- The copy that goes into the list. A cloned `WIFISubscriber` or
`DSSubscriber` starts out active. -/
def clone (s : Subscriber) : Subscriber :=
  match s.cls with
  | .wifi mSSID mPassword senderId _ =>
      { s with cls := .wifi (mSSID.map strlcpy) (mPassword.map strlcpy) senderId false }
  | .ds _ => { s with cls := .ds false }
  | _ => s

/-- The `mIsInactive` member set, for the classes that have one. -/
def inactivated (s : Subscriber) : Subscriber :=
  match s.cls with
  | .wifi mSSID mPassword senderId _ => { s with cls := .wifi mSSID mPassword senderId true }
  | .ds _ => { s with cls := .ds true }
  | _ => s

/-- The virtual `equals`; only `BITSubscriber` overrides it. -/
def equals (s other : Subscriber) : Bool :=
  match s.cls with
  | .bit => s.ID == other.ID &&
      (s.ID != inaddrNone || strncmpEq 16 s.mIPv6Addr.toList other.mIPv6Addr.toList)
  | _ => s.ID == other.ID

def forMe (s : Subscriber) (notification : Notification) : Bool :=
  match notification.receiver with
  | .rcver other => s.equals other
  | .groupID .all => true
  | .groupID .active => !s.isInactive
  | .groupID .inactive => s.isInactive

/-- `setWifiInfo`: the network a subscriber asks for, empty by default. -/
def wifiInfo (s : Subscriber) : List UInt8 × List UInt8 :=
  match s.cls with
  | .wifi mSSID mPassword _ _ => (strlcpy (mSSID.getD []), strlcpy (mPassword.getD []))
  | _ => ([], [])

end Subscriber

/-- `DSStateMachine::informStatus` -/
def AgpsStateMachine.informStatus (m : AgpsStateMachine) (status : AgpsRsrcStatus)
    (ID : UInt32) : AgpsStateMachine :=
  match status with
  | .unsubscribe => m.did (.atlCloseStatus ID true)
  | .released => m.did .closeDataCall
  | .denied => { m with mRetries := 0 }.did (.requestATL ID .supl)
  | .granted => m.did (.atlOpenStatus ID true none .invalid .invalid)
  | _ => m

/-- The shape the four `notifyRsrcStatus` overrides share: nothing happens
unless the notification is for this subscriber, and a status without a case
counts as not notified. -/
def notifyWith (inform : AgpsRsrcStatus → Option (AgpsStateMachine → AgpsStateMachine))
    (s : Subscriber) (notification : Notification) (m : AgpsStateMachine) :
    Bool × AgpsStateMachine :=
  if s.forMe notification then
    match inform notification.rsrcStatus with
    | some act => (true, act (m.did (.notified s.ID notification.rsrcStatus)))
    | none => (false, m)
  else
    (false, m)

def BITSubscriber.notifyRsrcStatus (s : Subscriber) :=
  notifyWith (fun
    | .unsubscribe | .released => some (·.did (.dataConn .gpsoneDaemon .releaseSuccess))
    | .denied => some (·.did (.dataConn .gpsoneDaemon .failure))
    | .granted => some (·.did (.dataConn .gpsoneDaemon .requestSuccess))
    | _ => none) s

def ATLSubscriber.notifyRsrcStatus (mBackwardCompatibleMode : Bool) (s : Subscriber) :=
  notifyWith (fun
    | .unsubscribe | .released => some (·.did (.atlCloseStatus s.ID true))
    | .denied => some fun m => m.did (.atlOpenStatus s.ID false m.mAPN m.mBearer
        (if mBackwardCompatibleMode then .invalid else m.mType))
    | .granted => some fun m => m.did (.atlOpenStatus s.ID true m.mAPN m.mBearer
        (if mBackwardCompatibleMode then .invalid else m.mType))
    | _ => none) s

def WIFISubscriber.notifyRsrcStatus (senderId : SenderId) (s : Subscriber) :=
  notifyWith (fun
    | .unsubscribe => some id
    | .released => some (·.did (.dataConn senderId .releaseSuccess))
    | .denied => some (·.did (.dataConn senderId .failure))
    | .granted => some (·.did (.dataConn senderId .requestSuccess))
    | _ => none) s

def DSSubscriber.notifyRsrcStatus (s : Subscriber) :=
  notifyWith (fun
    | .unsubscribe => some (·.informStatus .unsubscribe s.ID)
    | .released => some (·.informStatus .released s.ID)
    | .denied => some (·.informStatus .denied s.ID)
    | .granted => some (·.informStatus .granted s.ID)
    | _ => none) s

/-- The virtual `notifyRsrcStatus`. -/
def Subscriber.notifyRsrcStatus (s : Subscriber) (notification : Notification)
    (m : AgpsStateMachine) : Bool × AgpsStateMachine :=
  match s.cls with
  | .bit => BITSubscriber.notifyRsrcStatus s notification m
  | .atl compatibleMode => ATLSubscriber.notifyRsrcStatus compatibleMode s notification m
  | .wifi _ _ senderId _ => WIFISubscriber.notifyRsrcStatus senderId s notification m
  | .ds _ => DSSubscriber.notifyRsrcStatus s notification m

end G2Common.Agps

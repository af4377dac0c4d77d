import G2Common.Eng.ConfigUpdate
import G2Common.Progress
import G2Common.Slots
import G2Common.StringSearch
import G2Common.Utils.LocMiscUtils

/-!
The XTRA module: the servers that the modem names for the assistance data, its requests for data,
and the data that the framework injects. All wait in the queue of the message thread. A string is
given by its characters before the NUL, and `NULL` is `none`.
-/

namespace G2Common.Eng

open Slots StringSearch Transition Utils

def XTRA1_GPSONEXTRA : List Char := "xtra1.gpsonextra.net".toList

def XTRA_DATA_MAX_SIZE : Nat := 100000

/-- Where the text occurs, without regard to the case of its letters. -/
def strcasestr (s find : List Char) : Option Nat :=
  firstOccurrence (s.map Char.toLower) (find.map Char.toLower)

structure LocEngReportXtraServer where
  mMaxLen : Nat
  mServers : List Char

namespace LocEngReportXtraServer

/-- A URL is copied to `cptr` unless it names the server that is not to be used. -/
def copyUrl (mMaxLen : Nat) (s : List Char × Nat) (url : List Char) : List Char × Nat :=
  if strcasestr url XTRA1_GPSONEXTRA = none
  then (strlcpy NUL s.1 s.2 url (mMaxLen + 1), s.2 + (mMaxLen + 1))
  else s

/-- A URL of `gps.conf` goes before that of the modem. -/
def override (XTRA_SERVER : List Char) (url : Option (List Char)) : Option (List Char) :=
  if XTRA_SERVER ≠ [] then some XTRA_SERVER else url

/-- The constructor, which reads all three URLs. -/
def new (gps_conf : LocGpsCfg) (url1 url2 url3 : Option (List Char)) (maxlength : Nat) :
    Option LocEngReportXtraServer := do
  let url1 ← override gps_conf.XTRA_SERVER_1 url1
  let url2 ← override gps_conf.XTRA_SERVER_2 url2
  let url3 ← override gps_conf.XTRA_SERVER_3 url3
  let s := (List.replicate (3 * (maxlength + 1)) NUL, 0)
  let s := copyUrl maxlength s url1
  let s := copyUrl maxlength s url2
  some ⟨maxlength, (copyUrl maxlength s url3).1⟩

/-- The strings that `proc` gives to the callback. -/
def servers (msg : LocEngReportXtraServer) : List (List Char) :=
  [textAt NUL msg.mServers 0, textAt NUL msg.mServers (msg.mMaxLen + 1),
    textAt NUL msg.mServers ((msg.mMaxLen + 1) * 2)]

end LocEngReportXtraServer

inductive XtraMsg where
  | reportXtraServer (msg : LocEngReportXtraServer)
  | requestXtra
  | injectXtraData (mData : List UInt8)

/-- What is called, where a callback may be `NULL`, or what a function returns. -/
inductive XtraEffect where
  | reportXtraServer (report_xtra_server_cb : Option Nat) (servers : List (List Char))
  | downloadRequest (download_request_cb : Option Nat)
  | setXtraData (data : List UInt8)
  | returned (ret_val : Int)
  deriving DecidableEq, Repr

/-- `xtra_module_data`, and the messages of the module that wait. -/
structure XtraModule where
  download_request_cb : Option Nat
  report_xtra_server_cb : Option Nat
  queue : List XtraMsg

inductive XtraInput where
  | init (callbacks : Option (Option Nat × Option Nat))
  | injectData (data : Option (List UInt8))
  | reportXtraServer (url1 url2 url3 : Option (List Char)) (maxlength : Nat)
  | requestXtraData
  | msgTask

namespace XtraModule

def proc (s : XtraModule) : XtraMsg → XtraEffect
  | .reportXtraServer msg => .reportXtraServer s.report_xtra_server_cb msg.servers
  | .requestXtra => .downloadRequest s.download_request_cb
  | .injectXtraData mData => .setXtraData mData

def sendMsg (s : XtraModule) (msg : XtraMsg) : XtraModule := { s with queue := s.queue ++ [msg] }

/-- The calls of the framework and of the modem, and a turn of the message thread. A report that
reads a `NULL` has no step. -/
def machine (gps_conf : LocGpsCfg) (mSupportsAgpsRequests : Bool) (s : XtraModule) :
    XtraInput → XtraModule × List XtraEffect
  | .init none => (s, [.returned (-1)])
  | .init (some (download_request_cb, report_xtra_server_cb)) =>
      ({ s with
          download_request_cb := download_request_cb
          report_xtra_server_cb := report_xtra_server_cb }, [.returned 0])
  | .injectData none => (s, [.returned (-1)])
  | .injectData (some data) =>
      if data.length ≤ XTRA_DATA_MAX_SIZE
      then (s.sendMsg (.injectXtraData data), [.returned 0])
      else (s, [.returned (-1)])
  | .reportXtraServer url1 url2 url3 maxlength =>
      if mSupportsAgpsRequests then
        match LocEngReportXtraServer.new gps_conf url1 url2 url3 maxlength with
        | some msg => (s.sendMsg (.reportXtraServer msg), [])
        | none => (s, [])
      else (s, [])
  | .requestXtraData =>
      if mSupportsAgpsRequests then (s.sendMsg .requestXtra, []) else (s, [])
  | .msgTask =>
      match s.queue with
      | [] => (s, [])
      | msg :: queue => ({ s with queue := queue }, [s.proc msg])

end XtraModule

abbrev XtraRun := Traced XtraModule XtraEffect

def xtraStep (gps_conf : LocGpsCfg) (mSupportsAgpsRequests : Bool) :
    XtraRun → XtraInput → XtraRun :=
  Traced.step (XtraModule.machine gps_conf mSupportsAgpsRequests)

def xtraStart : XtraRun := ⟨⟨none, none, []⟩, []⟩

section Servers

variable {gps_conf : LocGpsCfg} {url1 url2 url3 : Option (List Char)}

/-- The URLs that a report reads. -/
def urls (gps_conf : LocGpsCfg) (url1 url2 url3 : Option (List Char)) :
    List (Option (List Char)) :=
  [LocEngReportXtraServer.override gps_conf.XTRA_SERVER_1 url1,
    LocEngReportXtraServer.override gps_conf.XTRA_SERVER_2 url2,
    LocEngReportXtraServer.override gps_conf.XTRA_SERVER_3 url3]

def isUsed (url : List Char) : Bool := strcasestr url XTRA1_GPSONEXTRA = none

/-- The framework has three strings: first the servers that are used, in their order, and then
empty ones. -/
def forwarded (maxlength : Nat) (used : List (List Char)) : List (List Char) :=
  [0, 1, 2].map fun i => (used[i]?.getD []).take maxlength

/-- The buffer and `cptr` when these URLs were copied. -/
def filled (n : Nat) (used : List (List Char)) : List Char × Nat :=
  (slots NUL (n + 1) used ++ List.replicate ((3 - used.length) * (n + 1)) NUL,
    used.length * (n + 1))

theorem copyUrl_filled {n : Nat} {used : List (List Char)} (h : used.length < 3)
    (url : List Char) :
    LocEngReportXtraServer.copyUrl n (filled n used) url =
      filled n (used ++ [url].filter isUsed) := by
  rw [LocEngReportXtraServer.copyUrl]
  split
  case isTrue hused =>
    have hroom : (3 - used.length) * (n + 1) = n + 1 + (3 - (used.length + 1)) * (n + 1) := by
      rw [Nat.add_comm (n + 1), ← Nat.succ_mul]
      congr 1
      omega
    have hfilter : [url].filter isUsed = [url] :=
      List.filter_eq_self.mpr fun other hother => by
        rw [List.mem_singleton.mp hother, isUsed, hused]
        rfl
    rw [hfilter, filled, filled, List.length_append, List.length_singleton, Nat.succ_mul]
    dsimp only
    rw [hroom, strlcpy_slots (Nat.succ_pos n)]
  case isFalse hused =>
    have hfilter : [url].filter isUsed = [] :=
      List.filter_eq_nil_iff.mpr fun other hother => by
        rw [List.mem_singleton.mp hother, isUsed, decide_eq_true_iff]
        exact hused
    rw [hfilter, List.append_nil]

/-- With the URLs at hand, the constructor lays out those that are used. -/
theorem reportXtraServer_new {texts : List (List Char)} (maxlength : Nat)
    (hurls : urls gps_conf url1 url2 url3 = texts.map some) :
    LocEngReportXtraServer.new gps_conf url1 url2 url3 maxlength =
      some ⟨maxlength, (filled maxlength (texts.filter isUsed)).1⟩ := by
  obtain ⟨text1, text2, text3, rfl⟩ : ∃ text1 text2 text3, texts = [text1, text2, text3] :=
    List.length_eq_three.mp (by rw [← List.length_map some, ← hurls]; rfl)
  have hstart : (List.replicate (3 * (maxlength + 1)) NUL, 0) = filled maxlength [] := by
    rw [filled, List.length_nil, Nat.zero_mul]
    rfl
  have hfirst := List.length_filter_le isUsed [text1]
  have hsecond := List.length_filter_le isUsed [text2]
  simp only [List.length_singleton] at hfirst hsecond
  simp only [urls, List.map_cons, List.map_nil, List.cons.injEq] at hurls
  rw [LocEngReportXtraServer.new, hurls.1, hurls.2.1, hurls.2.2.1]
  simp only [Option.bind_eq_bind, Option.bind_some]
  rw [hstart, copyUrl_filled (by decide), copyUrl_filled, copyUrl_filled, List.nil_append,
    ← List.filter_append, ← List.filter_append]
  · rfl
  · rw [List.nil_append, List.length_append]
    omega
  · rw [List.nil_append]
    omega

theorem servers_filled {used : List (List Char)} (maxlength : Nat)
    (hnul : ∀ text ∈ used, NUL ∉ text) :
    (LocEngReportXtraServer.mk maxlength (filled maxlength used).1).servers =
      forwarded maxlength used := by
  have hread (i : Nat) : textAt NUL (filled maxlength used).1 (i * (maxlength + 1)) =
      (used[i]?.getD []).take maxlength :=
    textAt_slots (Nat.succ_pos maxlength) hnul i
  have h0 := hread 0
  have h1 := hread 1
  have h2 := hread 2
  rw [Nat.zero_mul] at h0
  rw [Nat.one_mul] at h1
  rw [Nat.mul_comm] at h2
  rw [LocEngReportXtraServer.servers, h0, h1, h2]
  rfl

/-- A URL that is cut does not name the server that is not to be used. -/
theorem isUsed_take {url : List Char} (h : isUsed url = true) (n : Nat) :
    isUsed (url.take n) = true := by
  rw [isUsed, decide_eq_true_iff] at h ⊢
  rw [strcasestr, List.map_take]
  exact firstOccurrence_take (by decide) h n

theorem isUsed_forwarded {used : List (List Char)} {maxlength : Nat} {url : List Char}
    (hused : ∀ text ∈ used, isUsed text = true) (h : url ∈ forwarded maxlength used) :
    isUsed url = true := by
  obtain ⟨i, -, rfl⟩ := List.mem_map.mp h
  apply isUsed_take
  cases hi : used[i]? with
  | none => decide
  | some text => exact hused text (List.mem_of_getElem? hi)

end Servers

def XtraEffect.servers : XtraEffect → Option (List (List Char))
  | .reportXtraServer _ servers => some servers
  | _ => none

def XtraMsg.servers : XtraMsg → Option (List (List Char))
  | .reportXtraServer msg => some msg.servers
  | _ => none

def XtraEffect.data : XtraEffect → Option (List UInt8)
  | .setXtraData data => some data
  | _ => none

def XtraMsg.data : XtraMsg → Option (List UInt8)
  | .injectXtraData mData => some mData
  | _ => none

/-- The servers that the modem names in a report, as the framework is to get them. -/
def XtraInput.servers (gps_conf : LocGpsCfg) (mSupportsAgpsRequests : Bool) :
    XtraInput → List (List (List Char))
  | .reportXtraServer url1 url2 url3 maxlength =>
      if mSupportsAgpsRequests
      then [forwarded maxlength
        (((urls gps_conf url1 url2 url3).map fun url => url.getD []).filter isUsed)]
      else []
  | _ => []

/-- The data that the framework injects and that is taken. -/
def XtraInput.data : XtraInput → List (List UInt8)
  | .injectData (some data) => if data.length ≤ XTRA_DATA_MAX_SIZE then [data] else []
  | _ => []

/-- Each URL of a report is a string. -/
def XtraInput.Named (gps_conf : LocGpsCfg) : XtraInput → Prop
  | .reportXtraServer url1 url2 url3 _ =>
      ∃ texts : List (List Char),
        urls gps_conf url1 url2 url3 = texts.map some ∧ ∀ text ∈ texts, NUL ∉ text
  | _ => True

/-- The messages that an input puts into the queue. -/
def XtraInput.sent (gps_conf : LocGpsCfg) (mSupportsAgpsRequests : Bool) :
    XtraInput → List XtraMsg
  | .init _ | .injectData none | .msgTask => []
  | .injectData (some data) =>
      if data.length ≤ XTRA_DATA_MAX_SIZE then [.injectXtraData data] else []
  | .reportXtraServer url1 url2 url3 maxlength =>
      if mSupportsAgpsRequests
      then ((LocEngReportXtraServer.new gps_conf url1 url2 url3 maxlength).map
        .reportXtraServer).toList
      else []
  | .requestXtraData => if mSupportsAgpsRequests then [.requestXtra] else []

section Runs

variable {gps_conf : LocGpsCfg} {mSupportsAgpsRequests : Bool} {γ : Type}
  {f : XtraMsg → Option γ} {g : XtraEffect → Option γ}

/-- What a message carries is pending until the message is processed. -/
theorem conserves (hproc : ∀ s msg, g (XtraModule.proc s msg) = f msg)
    (hreturned : ∀ ret_val, g (.returned ret_val) = none) (s : XtraModule) (input : XtraInput) :
    (s.machine gps_conf mSupportsAgpsRequests input).2.filterMap g ++
        (s.machine gps_conf mSupportsAgpsRequests input).1.queue.filterMap f =
      s.queue.filterMap f ++ (input.sent gps_conf mSupportsAgpsRequests).filterMap f := by
  have hret (ret_val : Int) : [XtraEffect.returned ret_val].filterMap g = [] := by
    rw [List.filterMap_cons_none (hreturned ret_val), List.filterMap_nil]
  rw [← List.filterMap_append]
  cases input with
  | init callbacks =>
      cases callbacks with
      | none =>
          change [XtraEffect.returned (-1)].filterMap g ++ _ = _
          rw [hret, XtraInput.sent, List.append_nil]
          rfl
      | some callbacks =>
          change [XtraEffect.returned 0].filterMap g ++ _ = _
          rw [hret, XtraInput.sent, List.append_nil]
          rfl
  | injectData data =>
      cases data with
      | none =>
          change [XtraEffect.returned (-1)].filterMap g ++ _ = _
          rw [hret, XtraInput.sent, List.append_nil]
          rfl
      | some data =>
          rw [XtraModule.machine, XtraInput.sent]
          split
          case isTrue =>
            rw [hret]
            rfl
          case isFalse =>
            rw [hret, List.append_nil]
            rfl
  | reportXtraServer url1 url2 url3 maxlength =>
      rw [XtraModule.machine, XtraInput.sent]
      split
      case isTrue =>
        split
        case h_1 msg hmsg =>
          rw [hmsg]
          rfl
        case h_2 hmsg =>
          rw [hmsg, Option.map_none, Option.toList_none, List.append_nil]
          rfl
      case isFalse =>
        rw [List.append_nil]
        rfl
  | requestXtraData =>
      rw [XtraModule.machine, XtraInput.sent]
      split
      case isTrue => rfl
      case isFalse =>
        rw [List.append_nil]
        rfl
  | msgTask =>
      unfold XtraModule.machine
      dsimp only
      split
      case h_1 hqueue =>
        rw [hqueue]
        rfl
      case h_2 msg queue hqueue =>
        have hone : [s.proc msg].filterMap g = [msg].filterMap f := by
          simp only [List.filterMap_cons, List.filterMap_nil, hproc]
        rw [hqueue, hone, ← List.filterMap_append, XtraInput.sent, List.append_nil]
        rfl

theorem servers_sent {input : XtraInput} (h : input.Named gps_conf) :
    (input.sent gps_conf mSupportsAgpsRequests).filterMap XtraMsg.servers =
      input.servers gps_conf mSupportsAgpsRequests := by
  cases input with
  | reportXtraServer url1 url2 url3 maxlength =>
      obtain ⟨texts, hurls, hnul⟩ := h
      rw [XtraInput.sent, XtraInput.servers]
      split
      case isTrue =>
        have htexts : (urls gps_conf url1 url2 url3).map (fun url => url.getD []) = texts := by
          rw [hurls, List.map_map]
          exact List.map_id _
        rw [reportXtraServer_new maxlength hurls, htexts, ← servers_filled maxlength
          fun text htext => hnul text (List.mem_of_mem_filter htext)]
        rfl
      case isFalse => rfl
  | injectData data =>
      cases data with
      | none => rfl
      | some data =>
          rw [XtraInput.sent]
          split
          all_goals rfl
  | init => rfl
  | requestXtraData =>
      rw [XtraInput.sent]
      split
      all_goals rfl
  | msgTask => rfl

theorem data_sent (input : XtraInput) :
    (input.sent gps_conf mSupportsAgpsRequests).filterMap XtraMsg.data = input.data := by
  cases input with
  | injectData data =>
      cases data with
      | none => rfl
      | some data =>
          rw [XtraInput.sent, XtraInput.data]
          split
          all_goals rfl
  | reportXtraServer url1 url2 url3 maxlength =>
      rw [XtraInput.sent]
      split
      case isTrue =>
        cases LocEngReportXtraServer.new gps_conf url1 url2 url3 maxlength
        all_goals rfl
      case isFalse => rfl
  | init => rfl
  | requestXtraData =>
      rw [XtraInput.sent]
      split
      all_goals rfl
  | msgTask => rfl

theorem isUsed_servers {input : XtraInput} {servers : List (List Char)} {url : List Char}
    (hservers : servers ∈ input.servers gps_conf mSupportsAgpsRequests) (hurl : url ∈ servers) :
    isUsed url = true := by
  cases input with
  | reportXtraServer url1 url2 url3 maxlength =>
      rw [XtraInput.servers] at hservers
      split at hservers
      case isTrue =>
        rw [List.mem_singleton.mp hservers] at hurl
        exact isUsed_forwarded (fun text htext => (List.mem_filter.mp htext).2) hurl
      case isFalse => exact absurd hservers List.not_mem_nil
  | _ => exact absurd hservers List.not_mem_nil

end Runs

/-- The framework gets the servers of each report, those that are used first, and the modem the
data that is injected, once and in order, as far as the queue has been processed. No string that
the framework gets names the server that is not to be used. -/
theorem xtra_delivered (gps_conf : LocGpsCfg) (mSupportsAgpsRequests : Bool)
    (inputs : List XtraInput) (hinputs : ∀ input ∈ inputs, input.Named gps_conf) :
    let t := run (xtraStep gps_conf mSupportsAgpsRequests) xtraStart inputs
    t.log.filterMap XtraEffect.servers ++ t.state.queue.filterMap XtraMsg.servers =
        inputs.flatMap (XtraInput.servers gps_conf mSupportsAgpsRequests) ∧
      t.log.filterMap XtraEffect.data ++ t.state.queue.filterMap XtraMsg.data =
        inputs.flatMap XtraInput.data ∧
      ∀ servers ∈ t.log.filterMap XtraEffect.servers, ∀ url ∈ servers,
        strcasestr url XTRA1_GPSONEXTRA = none := by
  intro t
  have hservers : t.log.filterMap XtraEffect.servers ++ t.state.queue.filterMap XtraMsg.servers =
      inputs.flatMap (XtraInput.servers gps_conf mSupportsAgpsRequests) := by
    apply run_delivers (fun s : XtraModule => s.queue.filterMap XtraMsg.servers)
      (t := xtraStart) _ hinputs
    intro s input hinput
    rw [← servers_sent hinput]
    apply conserves
    · intro s msg
      cases msg
      all_goals rfl
    · intro ret_val
      rfl
  have hdata : t.log.filterMap XtraEffect.data ++ t.state.queue.filterMap XtraMsg.data =
      inputs.flatMap XtraInput.data := by
    apply run_delivers (fun s : XtraModule => s.queue.filterMap XtraMsg.data)
      (t := xtraStart) _ hinputs
    intro s input _
    rw [← data_sent input]
    apply conserves
    · intro s msg
      cases msg
      all_goals rfl
    · intro ret_val
      rfl
  refine ⟨hservers, hdata, ?_⟩
  intro servers hlog url hurl
  have hgiven : servers ∈ inputs.flatMap (XtraInput.servers gps_conf mSupportsAgpsRequests) := by
    rw [← hservers]
    exact List.mem_append_left _ hlog
  obtain ⟨input, -, hinput⟩ := List.mem_flatMap.mp hgiven
  exact of_decide_eq_true (isUsed_servers hinput hurl)

/-- The modem names the server that is not to be used first, and the next one is cut. -/
def reportedServers : List XtraInput :=
  [.init (some (none, some 7)), .reportXtraServer (some "Xtra1.gpsOneXtra.net/a".toList)
    (some "xtra2.net".toList) (some "x".toList) 5, .msgTask]

theorem xtra_delivered_cut :
    let t := run (xtraStep defaultConf true) xtraStart reportedServers
    t.log.filterMap XtraEffect.servers ++ t.state.queue.filterMap XtraMsg.servers =
      [["xtra2".toList, "x".toList, []]] :=
  have hnamed : ∀ input ∈ reportedServers, input.Named defaultConf := by
    rw [reportedServers, List.forall_mem_cons, List.forall_mem_cons, List.forall_mem_singleton]
    refine ⟨trivial, ?_, trivial⟩
    exact ⟨["Xtra1.gpsOneXtra.net/a".toList, "xtra2.net".toList, "x".toList], rfl, by decide⟩
  (xtra_delivered defaultConf true reportedServers hnamed).1.trans (by decide)

end G2Common.Eng

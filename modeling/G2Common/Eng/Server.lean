import G2Common.Agps.LocEng

/-!
The server settings of AGPS. A setting that comes before `loc_eng_init` is kept
in buffers for `loc_eng_agps_reinit`; a later one is sent to the adapter at once.
`loc_eng_init` clears the whole structure, the buffers with it.
-/

namespace G2Common.Eng

open Transition
open Agps (GnssTarget)

def MAX_URL_LEN : Nat := 256

inductive LocServerType where
  | cdmaPde | customPde | mpc | supl
  deriving DecidableEq, Repr

/-- `LocEngSetServerUrl` and `LocEngSetServerIpv4` -/
inductive ServerMsg where
  | url (url : List Char)
  | ipv4 (nlAddr : UInt32) (port : Int32) (serverType : LocServerType)
  deriving DecidableEq, Repr

/-- `set` is a call of `loc_eng_set_server_proxy` for the SUPL server; `agpsInit`
and `engineUp` are accepted calls of `loc_eng_agps_init` and
`loc_eng_handle_engine_up`. -/
inductive ServerEntry where
  | set (hostname : List Char) (port : Int32)
  | agpsInit
  | engineUp
  | sent (msg : ServerMsg)
  deriving DecidableEq, Repr

/-- `adapter` and `agpsStatusCb` are NULL or not. -/
structure Server where
  gnssType : GnssTarget
  adapter : Bool
  agpsStatusCb : Bool
  suplHostSet : Bool
  suplHostBuf : List Char
  suplPortBuf : Int32
  c2kHostSet : Bool
  c2kHostBuf : List Char
  c2kPortBuf : Int32
  deriving DecidableEq, Repr

/-- `0 == strncasecmp(a, b, n)`, with the terminating zero of both. -/
def strncasecmpEq (n : Nat) (a b : List Char) : Bool :=
  ((a ++ ['\x00']).map Char.toLower).take n == ((b ++ ['\x00']).map Char.toLower).take n

/-- The url of the SUPL server, printed with `%s:%u`. It is empty for no host. -/
def serverUrl (hostname : Option (List Char)) (port : Int32) : List Char :=
  match hostname with
  | none => []
  | some hostname =>
      if strncasecmpEq 5 "NONE".toList hostname then []
      else hostname ++ ':' :: Nat.toDigits 10 port.toUInt32.toNat

/-- `loc_eng_set_server`, where `resolved` is what `resolve_in_addr` finds. -/
def setServer (serverType : LocServerType) (hostname : Option (List Char)) (port : Int32)
    (resolved : Option UInt32) : List ServerMsg :=
  match serverType with
  | .supl =>
      let url := serverUrl hostname port
      if MAX_URL_LEN > url.length then [.url url] else []
  | _ =>
      match resolved with
      | none => []
      | some nlAddr => [.ipv4 nlAddr port serverType]

namespace Server

/-- `loc_eng_data_s_type` before `loc_eng_init`, and after the `memset` in it. -/
def cleared (gnssType : GnssTarget) : Server where
  gnssType := gnssType
  adapter := false
  agpsStatusCb := false
  suplHostSet := false
  suplHostBuf := []
  suplPortBuf := 0
  c2kHostSet := false
  c2kHostBuf := []
  c2kPortBuf := 0

/-- `loc_eng_set_server_proxy` -/
def setServerProxy (s : Server) (serverType : LocServerType) (hostname : List Char)
    (port : Int32) (resolved : Option UInt32) : Server × List ServerMsg :=
  if s.adapter then
    (s, setServer serverType (some hostname) port resolved)
  else
    match serverType with
    | .supl =>
        ({ s with suplHostBuf := hostname.take 100, suplPortBuf := port, suplHostSet := true }, [])
    | .cdmaPde =>
        ({ s with c2kHostBuf := hostname.take 100, c2kPortBuf := port, c2kHostSet := true }, [])
    | _ => (s, [])

/-- `loc_eng_init`. The parameters are bad if the callbacks are NULL or the event
mask is 0. -/
def init (s : Server) (bad : Bool) : Server :=
  if bad then s
  else if s.adapter then s
  else { cleared s.gnssType with adapter := true }

/-- `loc_eng_agps_reinit` -/
def agpsReinit (s : Server) (resolved : Option UInt32) : List ServerMsg :=
  (if s.suplHostSet then setServer .supl (some s.suplHostBuf) s.suplPortBuf none else []) ++
    if s.c2kHostSet then setServer .cdmaPde (some s.c2kHostBuf) s.c2kPortBuf resolved else []

/-- `loc_eng_agps_init` is accepted: the client is open, AGPS is not yet
initialised, and there are callbacks. -/
def acceptsAgpsInit (s : Server) (callbacks : Option Bool) : Bool :=
  s.adapter && !s.agpsStatusCb && callbacks.isSome

/-- `loc_eng_agps_init`. The callbacks may be NULL, and so may `status_cb` in
them. -/
def agpsInit (s : Server) (callbacks : Option Bool) (resolved : Option UInt32) :
    Server × List ServerMsg :=
  if s.acceptsAgpsInit callbacks then
    let s := { s with agpsStatusCb := callbacks.getD false }
    (s, if s.gnssType ≠ .gss ∧ s.gnssType ≠ .qca1530 then s.agpsReinit resolved else [])
  else
    (s, [])

/-- The part of `loc_eng_handle_engine_up` that is about the servers. -/
def handleEngineUp (s : Server) (resolved : Option UInt32) : List ServerMsg :=
  if s.agpsStatusCb then s.agpsReinit resolved else []

inductive Input where
  | setServerProxy (serverType : LocServerType) (hostname : List Char) (port : Int32)
      (resolved : Option UInt32)
  | init (bad : Bool)
  | agpsInit (callbacks : Option Bool) (resolved : Option UInt32)
  | engineUp (resolved : Option UInt32)
  deriving DecidableEq, Repr

/-- One call, with the entries of the log. There is no engine up before there is
an adapter. -/
def machine (s : Server) : Input → Server × List ServerEntry
  | .setServerProxy serverType hostname port resolved =>
      let result := s.setServerProxy serverType hostname port resolved
      (result.1, (if serverType = .supl then [.set hostname port] else []) ++
        result.2.map .sent)
  | .init bad => (s.init bad, [])
  | .agpsInit callbacks resolved =>
      let result := s.agpsInit callbacks resolved
      (result.1, (if s.acceptsAgpsInit callbacks then [.agpsInit] else []) ++
        result.2.map .sent)
  | .engineUp resolved =>
      if s.adapter then (s, .engineUp :: (s.handleEngineUp resolved).map .sent) else (s, [])

end Server

def ServerEntry.setting : ServerEntry → Option (List Char × Int32)
  | .set hostname port => some (hostname, port)
  | _ => none

def ServerEntry.url : ServerEntry → Option (List Char)
  | .sent (.url url) => some url
  | _ => none

/-- A setting, or an event after which the settings are sent again. -/
def ServerEntry.isMarker : ServerEntry → Bool
  | .sent _ => false
  | _ => true

/-- The most recent setting. -/
def latest (log : List ServerEntry) : Option (List Char × Int32) :=
  (log.filterMap ServerEntry.setting).getLast?

/-- The last url that was sent since the last marker. -/
def sentSince (log : List ServerEntry) : Option (List Char) :=
  (log.reverse.takeWhile (!·.isMarker)).findSome? ServerEntry.url

/-- Once AGPS is initialised the modem has the most recent setting, sent since
the last event or, if it came later, since the setting. -/
def Survives (log : List ServerEntry) : Prop :=
  .agpsInit ∈ log → ∀ setting ∈ latest log,
    sentSince log = some (serverUrl (some setting.1) setting.2)

namespace Server

abbrev Run := Traced Server ServerEntry

def step : Run → Input → Run :=
  Traced.step machine

def start (gnssType : GnssTarget) : Run :=
  ⟨cleared gnssType, []⟩

/-- The event comes before any setting. -/
def settingGuard (t : Run) : Input → Prop
  | .agpsInit callbacks _ => t.state.acceptsAgpsInit callbacks = true → latest t.log = none
  | .engineUp _ => .agpsInit ∈ t.log → latest t.log = none
  | _ => True

instance settingGuard.decidable (t : Run) : ∀ input, Decidable (settingGuard t input)
  | .setServerProxy _ _ _ _ => isTrue trivial
  | .init _ => isTrue trivial
  | .agpsInit _ _ => inferInstanceAs (Decidable (_ → _))
  | .engineUp _ => inferInstanceAs (Decidable (_ → _))

/-- The host names of SUPL servers have at most 100 characters. -/
def Input.fits : Input → Bool
  | .setServerProxy .supl hostname _ _ => hostname.length ≤ 100
  | _ => true

theorem length_serverUrl {hostname : List Char} (h : hostname.length ≤ 100) (port : Int32) :
    (serverUrl (some hostname) port).length < MAX_URL_LEN := by
  have hdigits : (Nat.toDigits 10 port.toUInt32.toNat).length ≤ 10 := by
    rw [Nat.length_toDigits_le_iff (by omega) (by omega)]
    exact Nat.lt_trans port.toUInt32.toNat_lt (by decide)
  unfold serverUrl MAX_URL_LEN
  dsimp only
  split
  · simp
  · simp only [List.length_append, List.length_cons]
    omega

/-- Right after a marker nothing has been sent. -/
theorem sentSince_marker (log : List ServerEntry) {entry : ServerEntry}
    (h : entry.isMarker = true) : sentSince (log ++ [entry]) = none := by
  simp [sentSince, h]

theorem sentSince_url (log : List ServerEntry) (url : List Char) :
    sentSince (log ++ [.sent (.url url)]) = some url := by
  rw [sentSince, List.reverse_append]
  rfl

theorem sentSince_ipv4 (log : List ServerEntry) (nlAddr : UInt32) (port : Int32)
    (serverType : LocServerType) :
    sentSince (log ++ [.sent (.ipv4 nlAddr port serverType)]) = sentSince log := by
  rw [sentSince, List.reverse_append]
  rfl

/-- Nothing is buffered once the client is open, and AGPS is initialised only
then. -/
structure Ready (s : Server) : Prop where
  unset : s.adapter = true → s.suplHostSet = false ∧ s.c2kHostSet = false
  registered : s.agpsStatusCb = true → s.adapter = true

theorem adapter_of_acceptsAgpsInit {s : Server} {callbacks : Option Bool}
    (h : s.acceptsAgpsInit callbacks = true) : s.adapter = true := by
  simp only [acceptsAgpsInit, Bool.and_eq_true] at h
  exact h.1.1

theorem ready_machine {s : Server} (hs : Ready s) (input : Input) :
    Ready (machine s input).1 ∧ (s.adapter = true → (machine s input).1.adapter = true) := by
  cases input with
  | init bad =>
      change Ready (s.init bad) ∧ (_ → (s.init bad).adapter = true)
      unfold init
      split
      · exact ⟨hs, id⟩
      · split
        · exact ⟨hs, id⟩
        · exact ⟨⟨fun _ => ⟨rfl, rfl⟩, fun _ => rfl⟩, fun _ => rfl⟩
  | agpsInit callbacks resolved =>
      change Ready (s.agpsInit callbacks resolved).1 ∧
        (_ → (s.agpsInit callbacks resolved).1.adapter = true)
      unfold agpsInit
      split
      · next haccepts =>
          have hopen : s.adapter = true := adapter_of_acceptsAgpsInit haccepts
          exact ⟨⟨hs.unset, fun _ => hopen⟩, id⟩
      · exact ⟨hs, id⟩
  | engineUp resolved =>
      simp only [machine]
      split <;> exact ⟨hs, id⟩
  | setServerProxy serverType hostname port resolved =>
      change Ready (s.setServerProxy serverType hostname port resolved).1 ∧
        (_ → (s.setServerProxy serverType hostname port resolved).1.adapter = true)
      unfold setServerProxy
      split
      · exact ⟨hs, id⟩
      · next hclosed =>
          cases serverType with
          | supl => exact ⟨⟨fun hopen => absurd hopen hclosed, hs.registered⟩, id⟩
          | cdmaPde => exact ⟨⟨fun hopen => absurd hopen hclosed, hs.registered⟩, id⟩
          | customPde => exact ⟨hs, id⟩
          | mpc => exact ⟨hs, id⟩

theorem agpsReinit_eq {s : Server} (hsupl : s.suplHostSet = false) (hc2k : s.c2kHostSet = false)
    (resolved : Option UInt32) : s.agpsReinit resolved = [] := by
  simp [agpsReinit, hsupl, hc2k]

/-- An accepted event sends nothing. -/
theorem log_agpsInit {s : Server} (hs : Ready s) {callbacks : Option Bool}
    (haccepts : s.acceptsAgpsInit callbacks = true) (resolved : Option UInt32) :
    (machine s (.agpsInit callbacks resolved)).2 = [.agpsInit] := by
  obtain ⟨hsupl, hc2k⟩ := hs.unset (adapter_of_acceptsAgpsInit haccepts)
  have hnone : ({ s with agpsStatusCb := callbacks.getD false }).agpsReinit resolved = [] :=
    agpsReinit_eq hsupl hc2k resolved
  simp only [machine, agpsInit, haccepts, if_true, hnone, ite_self, List.map_nil, List.append_nil]

theorem log_engineUp {s : Server} (hs : Ready s) (hadapter : s.adapter = true)
    (resolved : Option UInt32) : (machine s (.engineUp resolved)).2 = [.engineUp] := by
  obtain ⟨hsupl, hc2k⟩ := hs.unset hadapter
  simp only [machine, hadapter, if_true, handleEngineUp, agpsReinit_eq hsupl hc2k, ite_self,
    List.map_nil]

/-- What a call logs: a setting of an open client is sent at once. -/
inductive Logs (s : Server) : Input → List ServerEntry → Prop where
  | nothing (input) : Logs s input []
  | agpsInit (callbacks resolved) (h : s.acceptsAgpsInit callbacks = true) :
      Logs s (.agpsInit callbacks resolved) [.agpsInit]
  | engineUp (resolved) (h : s.adapter = true) : Logs s (.engineUp resolved) [.engineUp]
  | set (hostname port resolved) (h : s.adapter = true) :
      Logs s (.setServerProxy .supl hostname port resolved)
        (.set hostname port :: (setServer .supl (some hostname) port resolved).map .sent)
  | buffered (hostname port resolved) (h : s.adapter = false) :
      Logs s (.setServerProxy .supl hostname port resolved) [.set hostname port]
  | ipv4 (hostname port resolved nlAddr serverType) :
      Logs s (.setServerProxy serverType hostname port resolved)
        [.sent (.ipv4 nlAddr port serverType)]

theorem logs_machine {s : Server} (hs : Ready s) (input : Input) :
    Logs s input (machine s input).2 := by
  cases input with
  | init bad => exact .nothing _
  | agpsInit callbacks resolved =>
      cases haccepts : s.acceptsAgpsInit callbacks with
      | false =>
          simp only [machine, agpsInit, haccepts, Bool.false_eq_true, if_false, List.map_nil,
            List.append_nil]
          exact .nothing _
      | true =>
          rw [log_agpsInit hs haccepts]
          exact .agpsInit _ _ haccepts
  | engineUp resolved =>
      cases hadapter : s.adapter with
      | false =>
          simp only [machine, hadapter, Bool.false_eq_true, if_false]
          exact .nothing _
      | true =>
          rw [log_engineUp hs hadapter]
          exact .engineUp _ hadapter
  | setServerProxy serverType hostname port resolved =>
      cases hadapter : s.adapter with
      | true =>
          simp only [machine, setServerProxy, hadapter, if_true]
          cases serverType with
          | supl => exact .set _ _ _ hadapter
          | _ =>
              cases resolved with
              | none => exact .nothing _
              | some nlAddr => exact .ipv4 _ _ _ _ _
      | false =>
          simp only [machine, setServerProxy, hadapter, Bool.false_eq_true, if_false]
          cases serverType with
          | supl => exact .buffered _ _ _ hadapter
          | _ => exact .nothing _

/-- The state and the log belong together. -/
structure Opened (t : Run) : Prop where
  ready : Ready t.state
  adapter : .agpsInit ∈ t.log → t.state.adapter = true

theorem opened_step (t : Run) (input : Input) (ht : Opened t) : Opened (step t input) := by
  obtain ⟨hready, hmono⟩ := ready_machine ht.ready input
  refine ⟨hready, ?_⟩
  intro hmem
  apply hmono
  rcases List.mem_append.mp hmem with hmem | hmem
  · exact ht.adapter hmem
  · have hlogs := logs_machine ht.ready input
    generalize (machine t.state input).2 = entries at hmem hlogs
    cases hlogs with
    | nothing => cases hmem
    | agpsInit callbacks resolved haccepts => exact adapter_of_acceptsAgpsInit haccepts
    | engineUp resolved hadapter => exact hadapter
    | set hostname port resolved hadapter => exact hadapter
    | buffered hostname port resolved hadapter => simp at hmem
    | ipv4 hostname port resolved nlAddr serverType => simp at hmem

theorem opened_start (gnssType : GnssTarget) : Opened (start gnssType) :=
  ⟨⟨fun h => (by cases h), fun h => (by cases h)⟩, fun h => (by cases h)⟩

/-- A log that ends with an event and has no setting. -/
theorem survives_of_unset {log : List ServerEntry} (h : latest log = none) : Survives log := by
  intro _ setting hmem
  rw [h] at hmem
  cases hmem

theorem latest_append (log : List ServerEntry) {entry : ServerEntry}
    (h : entry.setting = none) : latest (log ++ [entry]) = latest log := by
  simp [latest, List.filterMap_append, h]

theorem latest_set (log : List ServerEntry) (hostname : List Char) (port : Int32) :
    latest (log ++ [.set hostname port]) = some (hostname, port) := by
  rw [latest, List.filterMap_append]
  exact List.getLast?_concat

theorem survives_step (t : Run) (input : Input) (ht : Opened t) (hsurvives : Survives t.log)
    (hguard : settingGuard t input) (hfits : input.fits = true) :
    Survives (step t input).log := by
  have hlogs := logs_machine ht.ready input
  change Survives (t.log ++ (machine t.state input).2)
  generalize (machine t.state input).2 = entries at hlogs
  cases hlogs with
  | nothing =>
      rw [List.append_nil]
      exact hsurvives
  | agpsInit callbacks resolved haccepts =>
      apply survives_of_unset
      rw [latest_append _ rfl]
      exact hguard haccepts
  | engineUp resolved hadapter =>
      intro hmem
      have hinit : .agpsInit ∈ t.log := by simpa using hmem
      apply survives_of_unset _ hmem
      rw [latest_append _ rfl]
      exact hguard hinit
  | set hostname port resolved hadapter =>
      have hhost : hostname.length ≤ 100 := by simpa [Input.fits] using hfits
      have hlength := length_serverUrl hhost port
      have hurl : setServer .supl (some hostname) port resolved =
          [.url (serverUrl (some hostname) port)] := if_pos hlength
      intro _ setting hmem
      change setting ∈ latest (t.log ++ .set hostname port :: (setServer _ _ _ _).map .sent) at hmem
      rw [hurl, List.append_cons] at hmem ⊢
      rw [List.map_singleton, latest_append _ rfl, latest_set] at hmem
      obtain rfl : (hostname, port) = setting := Option.some.inj hmem
      exact sentSince_url _ _
  | buffered hostname port resolved hadapter =>
      intro hmem
      have hinit : .agpsInit ∈ t.log := by simpa using hmem
      exact absurd (ht.adapter hinit) (by simp [hadapter])
  | ipv4 hostname port resolved nlAddr serverType =>
      intro hmem setting hsetting
      have hinit : .agpsInit ∈ t.log := by simpa using hmem
      rw [latest_append _ rfl] at hsetting
      rw [sentSince_ipv4]
      exact hsurvives hinit setting hsetting

theorem kept_step (t : Run) (input : Input) (h : Opened t ∧ Survives t.log)
    (hguard : settingGuard t input ∧ input.fits = true) :
    Opened (step t input) ∧ Survives (step t input).log :=
  ⟨opened_step t input h.1, survives_step t input h.1 h.2 hguard.1 hguard.2⟩

theorem opened_run (gnssType : GnssTarget) (inputs : List Input) :
    Opened (run step (start gnssType) inputs) :=
  run_invariant_all opened_step (opened_start gnssType) inputs

/-- An event that comes after a setting leaves the modem without it. -/
theorem latest_of_survives {t : Run} {entry : ServerEntry} (hentry : entry.isMarker = true)
    (hsetting : entry.setting = none) (hinit : .agpsInit ∈ t.log ++ [entry])
    (h : Survives (t.log ++ [entry])) : latest t.log = none := by
  rw [Option.eq_none_iff_forall_not_mem]
  intro setting hmem
  rw [← latest_append t.log hsetting] at hmem
  have hsent := h hinit setting hmem
  rw [sentSince_marker t.log hentry] at hsent
  cases hsent

/-- The most recent setting is with the modem at all times after AGPS was
initialised if and only if no event comes after a setting. -/
theorem server_survives_iff (gnssType : GnssTarget) (inputs : List Input)
    (hfits : ∀ input ∈ inputs, input.fits = true) :
    (∀ before after, inputs = before ++ after →
        Survives (run step (start gnssType) before).log) ↔
      Meets step settingGuard (start gnssType) inputs := by
  constructor
  · intro h
    rw [meets_iff_split]
    rintro before input after rfl
    have ht := opened_run gnssType before
    have hafter : Survives (step (run step (start gnssType) before) input).log := by
      have hlog := h (before ++ [input]) after (by simp)
      simpa [run] using hlog
    generalize run step (start gnssType) before = t at ht hafter
    cases input with
    | setServerProxy serverType hostname port resolved => trivial
    | init bad => trivial
    | agpsInit callbacks resolved =>
        intro haccepts
        change Survives (t.log ++ (machine t.state _).2) at hafter
        rw [log_agpsInit ht.ready haccepts] at hafter
        exact latest_of_survives rfl rfl (by simp) hafter
    | engineUp resolved =>
        intro hinit
        change Survives (t.log ++ (machine t.state _).2) at hafter
        rw [log_engineUp ht.ready (ht.adapter hinit)] at hafter
        exact latest_of_survives rfl rfl (by simp [hinit]) hafter
  · rintro h before after rfl
    have hboth : Meets step (fun t input => settingGuard t input ∧ input.fits = true)
        (start gnssType) before := by
      rw [meets_iff_split]
      rintro first input rest rfl
      have hguard := meets_iff_split.mp (meets_append.mp h).1 first input rest rfl
      exact ⟨hguard, hfits input (by simp)⟩
    have hkept := run_invariant kept_step ⟨opened_start gnssType, survives_of_unset rfl⟩ hboth
    exact hkept.2

/-- The server is set after AGPS was initialised, and set again. -/
theorem server_survives_set_last :
    Survives (run step (start .msm) [.init false, .agpsInit (some true) none, .engineUp none,
      .setServerProxy .supl "supl.host".toList 7276 none,
      .setServerProxy .supl "none".toList 0 none]).log :=
  (server_survives_iff .msm [.init false, .agpsInit (some true) none, .engineUp none,
    .setServerProxy .supl "supl.host".toList 7276 none,
    .setServerProxy .supl "none".toList 0 none] (by decide)).mpr (by decide) _ [] (by simp)

/-- The server is set before `loc_eng_init`, which clears the buffer. -/
theorem server_forgotten :
    ¬∀ inputs : List Input, (∀ input ∈ inputs, input.fits = true) →
      Survives (run step (start .msm) inputs).log := by
  intro hall
  have hsurvives := hall [.setServerProxy .supl ['h'] 7276 none, .init false,
    .agpsInit (some true) none] (by decide)
  have hsent := hsurvives (by decide) (['h'], 7276) (by decide)
  revert hsent
  decide

end Server

end G2Common.Eng

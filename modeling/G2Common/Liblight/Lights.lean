import G2Common.Printf
import G2Common.Transition
import Mathlib.Data.List.Infix

/-!
The lights of `lights.c`. A call ends with at most one write to a file of the driver,
which may not open or may refuse the write. The lock makes a call one step.
-/

namespace G2Common.Liblight

open Printf Transition

/-- `struct light_state_t`, less the brightness mode, which is not read. -/
structure LightState where
  color : UInt32
  flashMode : Int32
  flashOnMS : Int32
  flashOffMS : Int32
  deriving DecidableEq, Repr

def LIGHT_FLASH_TIMED : Int32 := 1

def LCD_FILE : String := "/sys/class/leds/lcd-backlight/brightness"

def PTN_BLINK_FILE : String := "/sys/class/lg_rgb_led/use_patterns/blink_patterns"

def PAGE_SIZE : Nat := 4096

/-- The lights that `open_lights` knows. -/
inductive Light where
  | backlight | notifications | battery | attention
  deriving DecidableEq, Repr

/-- The `LIGHT_ID_` of a light. -/
def Light.id : Light → String
  | .backlight => "backlight"
  | .notifications => "notifications"
  | .battery => "battery"
  | .attention => "attention"

def EINVAL : Int := 22

/-- `open_lights`, with the light whose setter the device gets. -/
def openLights (name : String) : Except Int Light :=
  if Light.id .backlight = name then .ok .backlight
  else if Light.id .notifications = name then .ok .notifications
  else if Light.id .battery = name then .ok .battery
  else if Light.id .attention = name then .ok .attention
  else .error (-EINVAL)

theorem openLights_eq_ok_iff {name : String} {light : Light} :
    openLights name = .ok light ↔ name = light.id := by
  constructor
  · intro h
    rw [openLights] at h
    split_ifs at h with hid hid hid hid
    all_goals cases h; exact hid.symm
  · rintro rfl
    cases light
    all_goals rfl

/-- What becomes of `open` and `write`, with `errno`. -/
inductive Outcome where
  | notOpened (errno : Int)
  | notWritten (errno : Int)
  | written
  deriving DecidableEq, Repr

/-- A file and the text that it took. -/
abbrev Write := String × List Char

/-- `write_str`. -/
def writeStr (path : String) (value : List Char) : Outcome → Int × List Write
  | .notOpened errno => (-errno, [])
  | .notWritten errno => (-errno, [])
  | .written => (0, [(path, value ++ ['\n'])])

/-- `write_int`. -/
def writeInt (path : String) (value : Int) : Outcome → Int × List Write
  | .notOpened errno => (-errno, [])
  | .notWritten errno => (-errno, [])
  | .written => (0, [(path, decimal value ++ ['\n'])])

def isLit (state : LightState) : Bool := state.color &&& 0x00ffffff ≠ 0

def rgbToBrightness (state : LightState) : Nat :=
  let color := (state.color &&& 0x00ffffff).toNat
  (77 * ((color >>> 16) &&& 0x00ff) + 150 * ((color >>> 8) &&& 0x00ff) +
    29 * (color &&& 0x00ff)) >>> 8

/-- The times of `set_speaker_light_locked`, on and off. -/
def flashTimes (state : LightState) : Int × Int :=
  if state.flashMode = LIGHT_FLASH_TIMED then (state.flashOnMS.toInt, state.flashOffMS.toInt)
  else (-1, -1)

/-- The text of `set_speaker_light_locked`. -/
def blinkPattern (state : LightState) : List Char :=
  "0x".toList ++ hexadecimal state.color.toNat ++ ',' ::
    (decimal (flashTimes state).1 ++ ',' :: decimal (flashTimes state).2)

def setSpeakerLightLocked (state : LightState) (outcome : Outcome) : List Write :=
  (writeStr PTN_BLINK_FILE (blinkPattern state) outcome).2

/-- `g_notification`, `g_battery` and `g_attention`. -/
structure Globals where
  notification : LightState
  battery : LightState
  attention : LightState
  deriving DecidableEq, Repr

def off : LightState := ⟨0, 0, 0, 0⟩

def Globals.init : Globals := ⟨off, off, off⟩

def handleLedPrioritizedLocked (g : Globals) (outcome : Outcome) : List Write :=
  if isLit g.attention then setSpeakerLightLocked g.attention outcome
  else if isLit g.notification then setSpeakerLightLocked g.notification outcome
  else if isLit g.battery then setSpeakerLightLocked g.battery outcome
  else setSpeakerLightLocked g.notification outcome

/-- What a setter leaves: the globals, its result and its writes. -/
abbrev Done := Globals × Int × List Write

def setLightBacklight (g : Globals) (state : LightState) (outcome : Outcome) : Done :=
  (g, writeInt LCD_FILE (rgbToBrightness state) outcome)

def setLightBattery (g : Globals) (state : LightState) (outcome : Outcome) : Done :=
  let g := { g with battery := state }
  (g, 0, handleLedPrioritizedLocked g outcome)

def setLightNotifications (g : Globals) (state : LightState) (outcome : Outcome) : Done :=
  let g := { g with notification := state }
  (g, 0, handleLedPrioritizedLocked g outcome)

/-- The attention light is turned off by two times of 0. -/
def heeded (state : LightState) : LightState :=
  if state.flashOnMS = 0 ∧ state.flashOffMS = 0 then { state with color := 0 } else state

def setLightAttention (g : Globals) (state : LightState) (outcome : Outcome) : Done :=
  let g := { g with attention := heeded state }
  (g, 0, handleLedPrioritizedLocked g outcome)

/-- A call through the device of a light. -/
structure Call where
  light : Light
  state : LightState
  outcome : Outcome
  deriving DecidableEq, Repr

def setLight (g : Globals) (call : Call) : Done :=
  match call.light with
  | .backlight => setLightBacklight g call.state call.outcome
  | .notifications => setLightNotifications g call.state call.outcome
  | .battery => setLightBattery g call.state call.outcome
  | .attention => setLightAttention g call.state call.outcome

/-- The globals, and what the files took so far. -/
abbrev Lights := Traced Globals Write

def Lights.init : Lights := ⟨.init, []⟩

def step : Lights → Call → Lights :=
  Traced.step fun g call => ((setLight g call).1, (setLight g call).2.2)

/-- What a file took last. -/
def lastWrite (path : String) (log : List Write) : Option (List Char) :=
  ((log.filter (·.1 = path)).getLast?).map (·.2)

/-- The state that was asked for last, with all lights off at first. -/
def lastAsked (light : Light) (calls : List Call) : LightState :=
  (((calls.filter (·.light = light)).getLast?).map (·.state)).getD off

/-- The states by priority, where only the attention light has an extra way to be off. -/
def claimants (calls : List Call) : List LightState :=
  [heeded (lastAsked .attention calls), lastAsked .notifications calls, lastAsked .battery calls]

/-- What the one LED is to show: the first that is lit, else the notification. -/
def due (calls : List Call) : LightState :=
  ((claimants calls).find? isLit).getD (lastAsked .notifications calls)

/-- The calls that reach the file of the LED. -/
def Call.shows (call : Call) : Bool := call.light ≠ .backlight ∧ call.outcome = .written

section Runs

variable {calls before after : List Call} {call : Call} {light : Light} {g : Globals}
  {path : String} {log writes : List Write}

theorem lastAsked_append (light : Light) (calls : List Call) (call : Call) :
    lastAsked light (calls ++ [call]) =
      if call.light = light then call.state else lastAsked light calls := by
  rw [lastAsked, List.filter_append]
  split
  case isTrue h => simp [h]
  case isFalse h => simp [h, lastAsked]

/-- The globals after the calls. -/
def kept (calls : List Call) : Globals :=
  ⟨lastAsked .notifications calls, lastAsked .battery calls,
    heeded (lastAsked .attention calls)⟩

theorem setLight_kept (calls : List Call) (call : Call) :
    (setLight (kept calls) call).1 = kept (calls ++ [call]) := by
  obtain ⟨light, state, outcome⟩ := call
  rw [kept.eq_def (calls ++ _), lastAsked_append, lastAsked_append, lastAsked_append]
  cases light with
  | backlight => rfl
  | notifications => rfl
  | battery => rfl
  | attention => rfl

theorem run_state (calls : List Call) : (run step .init calls).state = kept calls := by
  induction calls using List.reverseRecOn with
  | nil => rfl
  | append_singleton calls call ih =>
      rw [run_append]
      change (setLight (run step .init calls).state call).1 = _
      rw [ih, setLight_kept]

/-- Of the globals the first lit one is shown. -/
theorem handle_kept (calls : List Call) (outcome : Outcome) :
    handleLedPrioritizedLocked (kept calls) outcome =
      setSpeakerLightLocked (due calls) outcome := by
  rw [handleLedPrioritizedLocked, due, claimants, List.find?_cons, List.find?_cons,
    List.find?_cons, List.find?_nil, kept]
  split
  case isTrue h => rw [h]; rfl
  case isFalse h =>
    rw [Bool.not_eq_true] at h
    rw [h]
    split
    case isTrue h => rw [h]; rfl
    case isFalse h =>
      rw [Bool.not_eq_true] at h
      rw [h]
      split
      case isTrue h => rw [h]; rfl
      case isFalse h =>
        rw [Bool.not_eq_true] at h
        rw [h]
        rfl

/-- Each LED call shows what is due after it. -/
theorem setLight_writes (h : call.light ≠ .backlight) (calls : List Call) :
    (setLight (kept calls) call).2.2 =
      setSpeakerLightLocked (due (calls ++ [call])) call.outcome := by
  rw [← handle_kept, ← setLight_kept]
  obtain ⟨light, state, outcome⟩ := call
  cases light with
  | backlight => exact absurd rfl h
  | notifications => rfl
  | battery => rfl
  | attention => rfl

theorem setSpeakerLightLocked_silent {outcome : Outcome} (h : outcome ≠ .written)
    (state : LightState) : setSpeakerLightLocked state outcome = [] := by
  cases outcome with
  | notOpened errno => rfl
  | notWritten errno => rfl
  | written => exact absurd rfl h

theorem lastWrite_append (path : String) (log writes : List Write) :
    lastWrite path (log ++ writes) = (lastWrite path writes).or (lastWrite path log) := by
  rw [lastWrite, List.filter_append, List.getLast?_append]
  unfold lastWrite
  cases (writes.filter (·.1 = path)).getLast? with
  | none => rfl
  | some write => rfl

/-- A call that does not reach the file of the LED leaves it alone. -/
theorem lastWrite_silent (h : call.shows = false) (calls : List Call) :
    lastWrite PTN_BLINK_FILE (setLight (kept calls) call).2.2 = none := by
  rw [Call.shows, decide_eq_false_iff_not, not_and] at h
  rcases Decidable.eq_or_ne call.light .backlight with hlight | hlight
  · obtain ⟨light, state, outcome⟩ := call
    cases hlight
    cases outcome with
    | notOpened errno => rfl
    | notWritten errno => rfl
    | written =>
        change lastWrite PTN_BLINK_FILE [(LCD_FILE, _)] = none
        simp [lastWrite, LCD_FILE, PTN_BLINK_FILE]
  · rw [setLight_writes hlight, setSpeakerLightLocked_silent (h hlight)]
    rfl

theorem lastWrite_step (t : List Call) (call : Call) :
    lastWrite PTN_BLINK_FILE (run step .init (t ++ [call])).log =
      (lastWrite PTN_BLINK_FILE (setLight (kept t) call).2.2).or
        (lastWrite PTN_BLINK_FILE (run step .init t).log) := by
  rw [run_append, ← run_state, ← lastWrite_append]
  rfl

/-- Calls that do not reach the file leave its text as it was. -/
theorem lastWrite_run_silent (hafter : ∀ call ∈ after, call.shows = false) :
    lastWrite PTN_BLINK_FILE (run step .init (before ++ after)).log =
      lastWrite PTN_BLINK_FILE (run step .init before).log := by
  induction after using List.reverseRecOn with
  | nil => rw [List.append_nil]
  | append_singleton after call ih =>
      rw [← List.append_assoc, lastWrite_step, lastWrite_silent (hafter call (by simp)),
        Option.none_or]
      exact ih fun call' hcall => hafter call' (by simp [hcall])

/-- After any calls the LED has the pattern that was due when a call reached its file
last, whatever failed before or since. -/
theorem led_shows_due (hcall : call.shows = true)
    (hafter : ∀ call' ∈ after, call'.shows = false) :
    lastWrite PTN_BLINK_FILE (run step .init (before ++ call :: after)).log =
      some (blinkPattern (due (before ++ [call])) ++ ['\n']) := by
  rw [Call.shows, decide_eq_true_iff] at hcall
  rw [List.append_cons, lastWrite_run_silent hafter, lastWrite_step,
    setLight_writes hcall.1, hcall.2]
  rfl

end Runs

/-- The attention light failed to open its file, and the battery's call shows it. -/
theorem led_shows_due_retry :
    lastWrite PTN_BLINK_FILE (run step .init
      ([⟨.attention, ⟨0xff0000ff, 1, 500, 250⟩, .notOpened 13⟩] ++
        ⟨.battery, ⟨0xff00ff00, 0, 0, 0⟩, .written⟩ ::
          [⟨.backlight, ⟨0xffffffff, 0, 0, 0⟩, .written⟩])).log =
      some "0xff0000ff,500,250\n".toList :=
  (led_shows_due rfl (by simp [Call.shows])).trans rfl

section Texts

variable {a b : LightState}

/-- Two states have one pattern if and only if they have the color and the times in common. -/
theorem blinkPattern_eq_iff :
    blinkPattern a = blinkPattern b ↔ a.color = b.color ∧ flashTimes a = flashTimes b := by
  have hcolor (state : LightState) :
      ',' ∉ "0x".toList ++ hexadecimal state.color.toNat := by
    rw [List.mem_append, not_or]
    exact ⟨by decide, comma_notMem_toDigits (by omega) (by omega) _⟩
  constructor
  · intro h
    obtain ⟨hhex, htimes⟩ := (append_separator_inj (hcolor a) (hcolor b)).mp h
    obtain ⟨hon, hoff⟩ := (append_separator_inj (comma_notMem_decimal _)
      (comma_notMem_decimal _)).mp htimes
    have hdigits := toDigits_injective (by omega) (by omega) (List.append_cancel_left hhex)
    exact ⟨UInt32.toNat_inj.mp hdigits,
      Prod.ext (decimal_injective hon) (decimal_injective hoff)⟩
  · rintro ⟨hcolor, htimes⟩
    rw [blinkPattern, blinkPattern, hcolor, htimes]

/-- The text and its NUL are within the buffers of `set_speaker_light_locked` and
`write_str`. -/
theorem length_blinkPattern_lt (state : LightState) :
    (blinkPattern state ++ ['\n']).length < PAGE_SIZE := by
  have hcolor := length_hexadecimal_le state.color
  have htime (v : Int32) := length_decimal_le v
  have htimes : (decimal (flashTimes state).1).length ≤ 11 ∧
      (decimal (flashTimes state).2).length ≤ 11 := by
    rw [flashTimes]
    split
    · exact ⟨htime _, htime _⟩
    · exact ⟨htime (-1), htime (-1)⟩
  have hpage : PAGE_SIZE = 4096 := rfl
  have hzero : "0x".toList.length = 2 := rfl
  rw [blinkPattern, List.length_append, List.length_append, List.length_append,
    List.length_cons, List.length_append, List.length_cons, List.length_singleton]
  omega

end Texts

section Brightness

variable {state : LightState} {calls : List Call} {write : Write}

def red (state : LightState) : Nat := state.color.toNat / 65536 % 256

def green (state : LightState) : Nat := state.color.toNat / 256 % 256

def blue (state : LightState) : Nat := state.color.toNat % 256

theorem rgbToBrightness_eq (state : LightState) :
    rgbToBrightness state = (77 * red state + 150 * green state + 29 * blue state) / 256 := by
  have hcolor : (state.color &&& 0x00ffffff).toNat = state.color.toNat % 16777216 := by
    rw [UInt32.toNat_and]
    exact Nat.and_two_pow_sub_one_eq_mod _ 24
  have hlow (n : Nat) : n &&& 0x00ff = n % 256 := Nat.and_two_pow_sub_one_eq_mod n 8
  rw [rgbToBrightness, hcolor, hlow, hlow, hlow, Nat.shiftRight_eq_div_pow,
    Nat.shiftRight_eq_div_pow, Nat.shiftRight_eq_div_pow, red, green, blue]
  omega

/-- The weights sum up to 256, so the brightness is between the channels. -/
theorem rgbToBrightness_between (state : LightState) :
    min (red state) (min (green state) (blue state)) ≤ rgbToBrightness state ∧
      rgbToBrightness state ≤ max (red state) (max (green state) (blue state)) := by
  rw [rgbToBrightness_eq]
  omega

theorem rgbToBrightness_le (state : LightState) : rgbToBrightness state ≤ 255 := by
  have hbetween := (rgbToBrightness_between state).2
  rw [red, green, blue] at hbetween
  omega

theorem mem_writeStr {path : String} {value : List Char} {outcome : Outcome}
    (h : write ∈ (writeStr path value outcome).2) : write = (path, value ++ ['\n']) := by
  cases outcome with
  | notOpened errno => exact absurd h List.not_mem_nil
  | notWritten errno => exact absurd h List.not_mem_nil
  | written => exact List.mem_singleton.mp h

theorem mem_handle {g : Globals} {outcome : Outcome}
    (h : write ∈ handleLedPrioritizedLocked g outcome) :
    ∃ state, write = (PTN_BLINK_FILE, blinkPattern state ++ ['\n']) := by
  rw [handleLedPrioritizedLocked] at h
  split_ifs at h
  · exact ⟨g.attention, mem_writeStr h⟩
  · exact ⟨g.notification, mem_writeStr h⟩
  · exact ⟨g.battery, mem_writeStr h⟩
  · exact ⟨g.notification, mem_writeStr h⟩

theorem mem_setLight {g : Globals} {call : Call} (h : write ∈ (setLight g call).2.2) :
    (call.light = .backlight ∧
        write = (LCD_FILE, decimal (rgbToBrightness call.state) ++ ['\n'])) ∨
      ∃ state, write = (PTN_BLINK_FILE, blinkPattern state ++ ['\n']) := by
  obtain ⟨light, state, outcome⟩ := call
  cases light with
  | backlight =>
      left
      cases outcome with
      | notOpened errno => exact absurd h List.not_mem_nil
      | notWritten errno => exact absurd h List.not_mem_nil
      | written => exact ⟨rfl, List.mem_singleton.mp h⟩
  | notifications => exact .inr (mem_handle h)
  | battery => exact .inr (mem_handle h)
  | attention => exact .inr (mem_handle h)

theorem mem_log (h : write ∈ (run step .init calls).log) :
    ∃ g, ∃ call ∈ calls, write ∈ (setLight g call).2.2 := by
  induction calls using List.reverseRecOn with
  | nil => exact absurd h List.not_mem_nil
  | append_singleton calls call ih =>
      rw [run_append] at h
      rcases List.mem_append.mp h with hbefore | hnow
      · obtain ⟨g, call', hcall, hwrite⟩ := ih hbefore
        exact ⟨g, call', List.mem_append_left _ hcall, hwrite⟩
      · exact ⟨_, call, List.mem_append_right _ List.mem_cons_self, hnow⟩

/-- The backlight gets the brightness of one of its calls, which is between the channels of
the color, and every text fits the buffer it is printed into. -/
theorem texts_fit (h : write ∈ (run step .init calls).log) :
    (write.1 = PTN_BLINK_FILE ∧ write.2.length < PAGE_SIZE) ∨
      write.1 = LCD_FILE ∧ write.2.length < 20 ∧
        ∃ call ∈ calls, ∃ n : Nat, call.light = .backlight ∧ write.2 = decimal n ++ ['\n'] ∧
          n ≤ 255 ∧ min (red call.state) (min (green call.state) (blue call.state)) ≤ n ∧
          n ≤ max (red call.state) (max (green call.state) (blue call.state)) := by
  obtain ⟨g, call, hcall, hwrite⟩ := mem_log h
  rcases mem_setLight hwrite with ⟨hlight, rfl⟩ | ⟨state, rfl⟩
  · have hle := rgbToBrightness_le call.state
    refine .inr ⟨rfl, ?_, call, hcall, _, hlight, rfl, hle, rgbToBrightness_between call.state⟩
    have hdigits : (Nat.toDigits 10 (rgbToBrightness call.state)).length ≤ 3 := by
      apply (Nat.length_toDigits_le_iff (by omega) (by omega)).mpr
      omega
    rw [decimal_nonneg (by omega), List.length_append, List.length_singleton, Int.natAbs_natCast]
    omega
  · exact .inl ⟨rfl, length_blinkPattern_lt state⟩

theorem texts_fit_gray :
    ((LCD_FILE, "128\n".toList).1 = PTN_BLINK_FILE ∧
        (LCD_FILE, "128\n".toList).2.length < PAGE_SIZE) ∨
      (LCD_FILE, "128\n".toList).1 = LCD_FILE ∧ (LCD_FILE, "128\n".toList).2.length < 20 ∧
        ∃ call ∈ [(⟨.backlight, ⟨0xff808080, 0, 0, 0⟩, .written⟩ : Call)], ∃ n : Nat,
          call.light = .backlight ∧ (LCD_FILE, "128\n".toList).2 = decimal n ++ ['\n'] ∧
          n ≤ 255 ∧ min (red call.state) (min (green call.state) (blue call.state)) ≤ n ∧
          n ≤ max (red call.state) (max (green call.state) (blue call.state)) :=
  texts_fit (List.mem_singleton.mpr rfl)

end Brightness

end G2Common.Liblight

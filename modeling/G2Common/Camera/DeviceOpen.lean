import G2Common.Camera.FixedParams
import G2Common.Utils.LocCfg

/-!
`camera_device_open` with all its failures. The array of parameter buffers is replaced
before anything is checked, and one label cleans up after every failure.
-/

namespace G2Common.Camera

variable {S : Type*}

def EINVAL : Int := 22
def ENOMEM : Int := 12

/-- `wrapper_camera_device_t`. -/
structure WrapperCameraDevice where
  id : Int
  vendor : Nat
  deriving DecidableEq, Repr

/-- The globals with the memory of the buffers, and the vendor devices that are opened and
not closed. `none` is a `NULL` pointer. -/
structure Globals (S : Type*) where
  gVendorModule : Bool
  heap : Heap S
  fixed_set_params : Option (List (Option Nat))
  vendorDevices : List Nat

/-- What the calls of `camera_device_open` answer: the vendor module, the allocations, and
the vendor's `open`, which opens `vendor` if it returns zero. -/
structure OpenAnswers where
  hw_get_module_by_class : Int
  get_number_of_cameras : Nat
  mallocParams : Bool
  mallocDevice : Bool
  vendorOpen : Int
  vendor : Nat
  mallocOps : Bool
  deriving DecidableEq, Repr

/-- `check_vendor_module`. -/
def checkVendorModule (answers : OpenAnswers) (s : Globals S) : Int × Globals S :=
  if s.gVendorModule then (0, s)
  else if answers.hw_get_module_by_class = 0 then (0, { s with gVendorModule := true })
  else (answers.hw_get_module_by_class, s)

/-- `camera_device_open`: what it returns, `*device`, and the globals. At `fail` the device
and its operations are freed, and `*device` is `NULL`. -/
def cameraDeviceOpen (answers : OpenAnswers) (name : Option (List Char))
    (device : Option WrapperCameraDevice) (s : Globals S) :
    Int × Option WrapperCameraDevice × Globals S :=
  match name with
  | none => (0, device, s)
  | some name =>
      let (rv, s) := checkVendorModule answers s
      if rv ≠ 0 then (-EINVAL, device, s)
      else
        let cameraid := Utils.atoi name
        let num_cameras := answers.get_number_of_cameras
        if answers.mallocParams = false then
          (-ENOMEM, none, { s with fixed_set_params := none })
        else
          let s := { s with fixed_set_params := some (List.replicate num_cameras none) }
          if cameraid > num_cameras then (-EINVAL, none, s)
          else if answers.mallocDevice = false then (-ENOMEM, none, s)
          else if answers.vendorOpen ≠ 0 then (answers.vendorOpen, none, s)
          else
            let s := { s with vendorDevices := answers.vendor :: s.vendorDevices }
            if answers.mallocOps = false then (-ENOMEM, none, s)
            else (0, some ⟨cameraid, answers.vendor⟩, s)

/-- If the call fails, it gives no device, and the number of vendor devices and the array
with its buffers are as before. -/
def LeavesNoTrace (answers : OpenAnswers) (name : Option (List Char))
    (device : Option WrapperCameraDevice) (s : Globals S) : Prop :=
  let (rv, device, s') := cameraDeviceOpen answers name device s
  rv ≠ 0 → device = none ∧ s'.vendorDevices.length = s.vendorDevices.length ∧
    s'.fixed_set_params = s.fixed_set_params ∧ s'.heap = s.heap

/-- The vendor module is missing. -/
def NoModule (answers : OpenAnswers) (s : Globals S) : Prop :=
  s.gVendorModule = false ∧ answers.hw_get_module_by_class ≠ 0

/-- The call fails after the array was replaced and before the vendor device is open. -/
def FailsEarly (answers : OpenAnswers) (name : List Char) : Prop :=
  Utils.atoi name > answers.get_number_of_cameras ∨ answers.mallocDevice = false ∨
    answers.vendorOpen ≠ 0

/-- What there is to change is as the failing call leaves it, and the last allocation does not
fail. -/
structure Untouched (answers : OpenAnswers) (name : List Char)
    (device : Option WrapperCameraDevice) (s : Globals S) : Prop where
  device : NoModule answers s → device = none
  null : ¬ NoModule answers s → answers.mallocParams = false → s.fixed_set_params = none
  empty : ¬ NoModule answers s → answers.mallocParams = true → FailsEarly answers name →
    s.fixed_set_params = some (List.replicate answers.get_number_of_cameras none)
  ops : ¬ NoModule answers s → answers.mallocParams = true → ¬ FailsEarly answers name →
    answers.mallocOps = true

section Open

variable {answers : OpenAnswers} {name : List Char} {device : Option WrapperCameraDevice}
  {s : Globals S}

theorem checkVendorModule_fails (h : NoModule answers s) :
    checkVendorModule answers s = (answers.hw_get_module_by_class, s) := by
  rw [checkVendorModule, h.1, if_neg Bool.false_ne_true, if_neg h.2]

theorem checkVendorModule_works (h : ¬ NoModule answers s) :
    checkVendorModule answers s = (0, { s with gVendorModule := true }) := by
  rw [checkVendorModule]
  split
  case isTrue hloaded => rw [← hloaded]
  case isFalse hloaded =>
      rw [if_pos]
      apply Decidable.by_contra
      exact fun hfails => h ⟨Bool.eq_false_iff.mpr hloaded, hfails⟩

theorem open_noModule (h : NoModule answers s) :
    cameraDeviceOpen answers (some name) device s = (-EINVAL, device, s) := by
  rw [cameraDeviceOpen, checkVendorModule_fails h]
  exact if_pos h.2

theorem open_noParams (h : ¬ NoModule answers s) (hparams : answers.mallocParams = false) :
    cameraDeviceOpen answers (some name) device s =
      (-ENOMEM, none, { s with gVendorModule := true, fixed_set_params := none }) := by
  rw [cameraDeviceOpen, checkVendorModule_works h]
  dsimp only
  rw [if_neg (not_not_intro rfl), if_pos hparams]

/-- From the check of the id to the vendor's `open`, a failure leaves a new array. -/
theorem open_failsEarly (h : ¬ NoModule answers s) (hparams : answers.mallocParams = true)
    (hearly : FailsEarly answers name) :
    ∃ rv, rv ≠ 0 ∧ cameraDeviceOpen answers (some name) device s = (rv, none,
      { s with
        gVendorModule := true
        fixed_set_params := some (List.replicate answers.get_number_of_cameras none) }) := by
  rw [cameraDeviceOpen, checkVendorModule_works h]
  dsimp only
  rw [if_neg (not_not_intro rfl), if_neg (by rw [hparams]; decide)]
  split
  case isTrue => exact ⟨-EINVAL, by decide, rfl⟩
  case isFalse hid =>
      split
      case isTrue => exact ⟨-ENOMEM, by decide, rfl⟩
      case isFalse hdevice =>
          have hvendor : answers.vendorOpen ≠ 0 :=
            (hearly.resolve_left hid).resolve_left hdevice
          rw [if_pos hvendor]
          exact ⟨answers.vendorOpen, hvendor, rfl⟩

theorem open_late (h : ¬ NoModule answers s) (hparams : answers.mallocParams = true)
    (hlate : ¬ FailsEarly answers name) :
    cameraDeviceOpen answers (some name) device s =
      (if answers.mallocOps = false then -ENOMEM else 0,
        if answers.mallocOps = false then none
        else some ⟨Utils.atoi name, answers.vendor⟩,
        { s with
          gVendorModule := true
          fixed_set_params := some (List.replicate answers.get_number_of_cameras none)
          vendorDevices := answers.vendor :: s.vendorDevices }) := by
  unfold FailsEarly at hlate
  obtain ⟨hid, hlate⟩ := not_or.mp hlate
  obtain ⟨hdevice, hvendor⟩ := not_or.mp hlate
  rw [cameraDeviceOpen, checkVendorModule_works h]
  dsimp only
  rw [if_neg (not_not_intro rfl), if_neg (by rw [hparams]; decide), if_neg hid,
    if_neg hdevice, if_neg hvendor]
  split <;> rfl

/-- The ways in which a call with a name can end: the last one succeeds if its allocation does. -/
theorem open_cases (answers : OpenAnswers) (name : List Char)
    (device : Option WrapperCameraDevice) (s : Globals S) :
    (NoModule answers s ∧ cameraDeviceOpen answers (some name) device s = (-EINVAL, device, s)) ∨
    (¬ NoModule answers s ∧ answers.mallocParams = false ∧
      cameraDeviceOpen answers (some name) device s =
        (-ENOMEM, none, { s with gVendorModule := true, fixed_set_params := none })) ∨
    (¬ NoModule answers s ∧ answers.mallocParams = true ∧ FailsEarly answers name ∧
      ∃ rv, rv ≠ 0 ∧ cameraDeviceOpen answers (some name) device s = (rv, none,
        { s with
          gVendorModule := true
          fixed_set_params := some (List.replicate answers.get_number_of_cameras none) })) ∨
    (¬ NoModule answers s ∧ answers.mallocParams = true ∧ ¬ FailsEarly answers name ∧
      cameraDeviceOpen answers (some name) device s =
        (if answers.mallocOps = false then -ENOMEM else 0,
          if answers.mallocOps = false then none
          else some ⟨Utils.atoi name, answers.vendor⟩,
          { s with
            gVendorModule := true
            fixed_set_params := some (List.replicate answers.get_number_of_cameras none)
            vendorDevices := answers.vendor :: s.vendorDevices })) := by
  by_cases hmodule : NoModule answers s
  · exact Or.inl ⟨hmodule, open_noModule hmodule⟩
  · apply Or.inr
    cases hparams : answers.mallocParams with
    | false => exact Or.inl ⟨hmodule, rfl, open_noParams hmodule hparams⟩
    | true =>
        apply Or.inr
        by_cases hearly : FailsEarly answers name
        · exact Or.inl ⟨hmodule, rfl, hearly, open_failsEarly hmodule hparams hearly⟩
        · exact Or.inr ⟨hmodule, rfl, hearly, open_late hmodule hparams hearly⟩

/-- Each way to fail spares exactly the states that it leaves as they are. -/
theorem leavesNoTrace_some_iff :
    LeavesNoTrace answers (some name) device s ↔ Untouched answers name device s := by
  rw [LeavesNoTrace]
  rcases open_cases answers name device s with ⟨hmodule, hopen⟩ | ⟨hmodule, hparams, hopen⟩ |
    ⟨hmodule, hparams, hearly, rv, hrv, hopen⟩ | ⟨hmodule, hparams, hlate, hopen⟩
  · rw [hopen]
    constructor
    · intro h
      have hdevice := (h (by decide)).1
      exact ⟨fun _ => hdevice, fun hnot => absurd hmodule hnot, fun hnot => absurd hmodule hnot,
        fun hnot => absurd hmodule hnot⟩
    · exact fun h _ => ⟨h.device hmodule, rfl, rfl, rfl⟩
  · rw [hopen]
    constructor
    · intro h
      have hsame := (h (by decide)).2.2.1
      exact ⟨fun hno => absurd hno hmodule, fun _ _ => hsame.symm,
        fun _ htrue => absurd (hparams.symm.trans htrue) Bool.false_ne_true,
        fun _ htrue => absurd (hparams.symm.trans htrue) Bool.false_ne_true⟩
    · exact fun h _ => ⟨rfl, rfl, (h.null hmodule hparams).symm, rfl⟩
  · rw [hopen]
    constructor
    · intro h
      have hsame := (h hrv).2.2.1
      exact ⟨fun hno => absurd hno hmodule,
        fun _ hfalse => absurd (hfalse.symm.trans hparams) Bool.false_ne_true,
        fun _ _ _ => hsame.symm, fun _ _ hlate => absurd hearly hlate⟩
    · exact fun h _ => ⟨rfl, rfl, (h.empty hmodule hparams hearly).symm, rfl⟩
  · rw [hopen]
    cases hops : answers.mallocOps with
    | false =>
        constructor
        · intro h
          have hcount := (h (by decide)).2.1
          rw [List.length_cons] at hcount
          omega
        · intro h
          have htrue := h.ops hmodule hparams hlate
          rw [hops] at htrue
          cases htrue
    | true =>
        constructor
        · intro _
          exact ⟨fun hno => absurd hno hmodule,
            fun _ hfalse => absurd (hfalse.symm.trans hparams) Bool.false_ne_true,
            fun _ _ hearly => absurd hearly hlate, fun _ _ _ => hops⟩
        · exact fun _ hrv => absurd rfl hrv

end Open

/-- A call without a name never fails. -/
theorem leavesNoTrace_iff (answers : OpenAnswers) (name : Option (List Char))
    (device : Option WrapperCameraDevice) (s : Globals S) :
    LeavesNoTrace answers name device s ↔
      ∀ name', name = some name' → Untouched answers name' device s := by
  cases name with
  | none =>
      apply iff_of_true
      · exact fun hrv => absurd rfl hrv
      · exact fun _ h => nomatch h
  | some name =>
      rw [leavesNoTrace_some_iff]
      constructor
      · rintro h name' ⟨⟩
        exact h
      · exact fun h => h name rfl

/-- Camera 0 has a buffer, and camera 7 does not exist. -/
theorem leaves_trace_seven :
    let answers : OpenAnswers := ⟨0, 2, true, true, 0, 1, true⟩
    let s : Globals Nat := ⟨true, [some 5], some [some 0, none], [0]⟩
    cameraDeviceOpen answers (some "7".toList) none s =
        (-EINVAL, none, { s with fixed_set_params := some [none, none] }) ∧
      ¬ LeavesNoTrace answers (some "7".toList) none s := by
  have hopen : cameraDeviceOpen ⟨0, 2, true, true, 0, 1, true⟩ (some "7".toList) none
      (⟨true, [some 5], some [some 0, none], [0]⟩ : Globals Nat) =
      (-EINVAL, none, ⟨true, [some 5], some [none, none], [0]⟩) := rfl
  refine ⟨hopen, ?_⟩
  rw [LeavesNoTrace, hopen]
  intro h
  exact absurd (h (by decide)).2.2.1 (by decide)

/-- It gives the wrapper the array that `Wrapper.cameraDeviceOpen` says. -/
theorem open_succeeds {answers : OpenAnswers} {name : List Char} {s s' : Globals S}
    {device device' : Option WrapperCameraDevice} (wrapper : Wrapper S)
    (h : cameraDeviceOpen answers (some name) device s = (0, device', s')) :
    Utils.atoi name ≤ answers.get_number_of_cameras ∧
      s'.fixed_set_params = some (wrapper.cameraDeviceOpen answers.get_number_of_cameras
        (Utils.atoi name)).fixed_set_params ∧
      device' = some ⟨Utils.atoi name, answers.vendor⟩ := by
  rcases open_cases answers name device s with ⟨_, hopen⟩ | ⟨_, _, hopen⟩ |
    ⟨_, _, _, rv, hrv, hopen⟩ | ⟨_, _, hlate, hopen⟩
  · rw [hopen] at h
    cases h
  · rw [hopen] at h
    cases h
  · rw [hopen] at h
    exact absurd (Prod.mk.inj h).1 hrv
  · rw [hopen] at h
    cases hops : answers.mallocOps with
    | false =>
        rw [hops] at h
        cases h
    | true =>
        rw [hops] at h
        cases h
        exact ⟨Int.not_lt.mp (fun hid => hlate (Or.inl hid)), rfl, rfl⟩

end G2Common.Camera

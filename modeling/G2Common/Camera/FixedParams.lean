import G2Common.Transition

/-!
The parameter buffers of `CameraWrapper.cpp`. One array has the buffer of each
camera; it is replaced when a camera is opened, and all that it has is freed when
one is closed. A buffer that is not live cannot be freed, and an index outside of
the array cannot be used.
-/

namespace G2Common.Camera

open Transition

/-- The memory of the buffers with their strings. A freed buffer is `none`, and no
number is used for a second buffer. -/
abbrev Heap (S : Type*) := List (Option S)

/-- The globals of the wrapper, and for each device that is open the buffer that
`camera_set_parameters` last gave to it. -/
structure Wrapper (S : Type*) where
  heap : Heap S
  fixed_set_params : List (Option Nat)
  devices : Int → Option (Option Nat)

section Memory

variable {S : Type*}

def Heap.live (heap : Heap S) (buf : Nat) : Bool := heap[buf]?.join.isSome

/-- `free`. -/
def Heap.free (heap : Heap S) (buf : Nat) : Option (Heap S) :=
  if heap.live buf then some (heap.set buf none) else none

/-- `fixed_set_params[id]`. -/
def entry (fixed_set_params : List (Option Nat)) (id : Int) : Option (Option Nat) :=
  if id < 0 then none else fixed_set_params[id.toNat]?

/-- `if (fixed_set_params[id]) free(fixed_set_params[id]);`. -/
def freeEntry (fixed_set_params : List (Option Nat)) (heap : Heap S) (id : Int) :
    Option (Heap S) :=
  match entry fixed_set_params id with
  | none => none
  | some none => some heap
  | some (some buf) => heap.free buf

/-- The loop of `camera_device_close` over the first cameras. -/
def freeLoop (fixed_set_params : List (Option Nat)) (heap : Heap S) : Nat → Option (Heap S)
  | 0 => some heap
  | i + 1 => (freeLoop fixed_set_params heap i).bind fun heap => freeEntry fixed_set_params heap i

end Memory

namespace Wrapper

variable {S : Type*}

/-- The calls, with the camera of the device. `strdup` may fail. -/
inductive Input (S : Type*) where
  | deviceOpen (cameraid : Int)
  | setParameters (id : Int) (settings : S) (strdup : Bool)
  | deviceClose (id : Int)
  deriving DecidableEq, Repr

def Input.camera : Input S → Int
  | .deviceOpen cameraid => cameraid
  | .setParameters id _ _ => id
  | .deviceClose id => id

def init : Wrapper S := ⟨[], [], fun _ => none⟩

section Calls

variable (n : Nat) (fixup : Int → S → S)

/-- A `camera_device_open` that succeeds. -/
def cameraDeviceOpen (s : Wrapper S) (cameraid : Int) : Wrapper S :=
  { s with
    fixed_set_params := List.replicate n none
    devices := Function.update s.devices cameraid (some none) }

/-- `camera_set_parameters` with `camera_fixup_setparams`, where `fixup` is what
`CameraParameters` makes of the settings. -/
def cameraSetParameters (s : Wrapper S) (id : Int) (settings : S) (strdup : Bool) :
    Option (Wrapper S) :=
  (freeEntry s.fixed_set_params s.heap id).map fun heap =>
    if strdup then
      { heap := heap ++ [some (fixup id settings)]
        fixed_set_params := s.fixed_set_params.set id.toNat (some heap.length)
        devices := Function.update s.devices id (some (some heap.length)) }
    else
      { heap := heap
        fixed_set_params := s.fixed_set_params.set id.toNat none
        devices := Function.update s.devices id (some none) }

/-- `camera_device_close`. -/
def cameraDeviceClose (s : Wrapper S) (id : Int) : Option (Wrapper S) :=
  (freeLoop s.fixed_set_params s.heap n).map fun heap =>
    { s with heap := heap, devices := Function.update s.devices id none }

/-- A call of a run in which every open succeeds. What is no such call is skipped: an open of
a camera that is open or that the check refuses, and a call for a device that is not open. -/
def machine (s : Wrapper S) : Input S → Option (Wrapper S)
  | .deviceOpen cameraid =>
      if s.devices cameraid = none ∧ cameraid ≤ n then some (s.cameraDeviceOpen n cameraid)
      else some s
  | .setParameters id settings strdup =>
      if s.devices id = none then some s else s.cameraSetParameters fixup id settings strdup
  | .deviceClose id => if s.devices id = none then some s else s.cameraDeviceClose n id

/-- A run ends where a buffer is freed that is not live, or an index is used that
is out of bounds. -/
def step (s : Option (Wrapper S)) (input : Input S) : Option (Wrapper S) :=
  s.bind (machine n fixup · input)

/-- The call uses its indices and frees its buffers properly, each open camera still
has the buffer that it was given, and the call leaves the entry of each other open
camera as it was. -/
def Proper (s : Option (Wrapper S)) (input : Input S) : Prop :=
  ∃ before after, s = some before ∧ machine n fixup before input = some after ∧
    (∀ camera buf, after.devices camera = some (some buf) → after.heap.live buf) ∧
    ∀ camera, camera ≠ input.camera → before.devices camera ≠ none →
      entry after.fixed_set_params camera = entry before.fixed_set_params camera

/-- The array has no buffer of this camera. -/
def NoBuffer (s : Wrapper S) (camera : Int) : Prop :=
  ∀ buf, entry s.fixed_set_params camera ≠ some (some buf)

/-- A camera is opened while no other open camera has a buffer in the array, its
parameters are set if it is one of the `n` cameras, and it is closed while the array
has no buffer of another camera. -/
def Alone (s : Option (Wrapper S)) (input : Input S) : Prop :=
  ∀ before, s = some before →
    match input with
    | .deviceOpen cameraid => before.devices cameraid = none → cameraid ≤ n →
        ∀ camera, camera ≠ cameraid → before.devices camera ≠ none → before.NoBuffer camera
    | .setParameters id _ _ => before.devices id ≠ none → 0 ≤ id ∧ id < n
    | .deviceClose id => before.devices id ≠ none → ∀ camera, camera ≠ id → before.NoBuffer camera

end Calls

end Wrapper

section Memory

variable {S : Type*} {heap heap' : Heap S} {buf : Nat} {fixed_set_params : List (Option Nat)}

theorem Heap.live_lt (h : heap.live buf = true) : buf < heap.length := by
  by_contra hge
  simp [Heap.live, List.getElem?_eq_none (Nat.not_lt.mp hge)] at h

theorem Heap.free_eq_some :
    heap.free buf = some heap' ↔ heap.live buf = true ∧ heap' = heap.set buf none := by
  unfold Heap.free
  split
  · rename_i hlive
    rw [Option.some.injEq]
    exact ⟨fun heq => ⟨hlive, heq.symm⟩, fun h => h.2.symm⟩
  · rename_i hlive
    exact ⟨fun heq => (by cases heq), fun h => absurd h.1 hlive⟩

theorem Heap.live_set (heap : Heap S) (buf other : Nat) :
    Heap.live (heap.set buf none) other = true ↔ heap.live other = true ∧ other ≠ buf := by
  by_cases hother : other = buf
  · subst hother
    by_cases hlt : other < heap.length <;> simp [Heap.live, hlt]
  · rw [Heap.live, List.getElem?_set_ne (Ne.symm hother)]
    simp [Heap.live, hother]

/-- A new buffer. -/
theorem Heap.live_append (heap : Heap S) (content : S) (other : Nat) :
    Heap.live (heap ++ [some content]) other = true ↔
      heap.live other = true ∨ other = heap.length := by
  rcases Nat.lt_trichotomy other heap.length with hlt | rfl | hgt
  · rw [Heap.live, List.getElem?_append_left hlt]
    have hne : other ≠ heap.length := Nat.ne_of_lt hlt
    simp [Heap.live, hne]
  · simp [Heap.live]
  · have hnone : heap[other]? = none := List.getElem?_eq_none (Nat.le_of_lt hgt)
    rw [Heap.live, List.getElem?_append_right (Nat.le_of_lt hgt), List.getElem?_eq_none]
    · have hne : other ≠ heap.length := Nat.ne_of_gt hgt
      simp [Heap.live, hnone, hne]
    · simp
      omega

/-- The index is one of the array. -/
theorem entry_ne_none {id : Int} :
    entry fixed_set_params id ≠ none ↔ 0 ≤ id ∧ id < fixed_set_params.length := by
  unfold entry
  split
  · simp
    omega
  · rw [ne_eq, List.getElem?_eq_none_iff]
    omega

theorem entry_replicate (n : Nat) (id : Int) :
    entry (List.replicate n none) id = if 0 ≤ id ∧ id < n then some none else none := by
  unfold entry
  split
  · rw [if_neg (by omega)]
  · rw [List.getElem?_replicate]
    split
    · rw [if_pos (by omega)]
    · rw [if_neg (by omega)]

theorem entry_set_ne {id other : Int} (value : Option Nat) (hid : 0 ≤ id) (h : other ≠ id) :
    entry (fixed_set_params.set id.toNat value) other = entry fixed_set_params other := by
  unfold entry
  split
  · rfl
  · rw [List.getElem?_set_ne]
    omega

theorem entry_set_self {id : Int} (value : Option Nat)
    (h : entry fixed_set_params id ≠ none) :
    entry (fixed_set_params.set id.toNat value) id = some value := by
  obtain ⟨hpos, hlt⟩ := entry_ne_none.mp h
  rw [entry, if_neg (by omega), List.getElem?_set_self]
  omega

theorem freeEntry_frees {id : Int} (h : freeEntry fixed_set_params heap id = some heap') :
    (∀ buf, heap'.live buf = true → heap.live buf = true) ∧
      ∀ buf, entry fixed_set_params id = some (some buf) →
        heap.live buf = true ∧ heap'.live buf = false := by
  unfold freeEntry at h
  split at h
  · cases h
  · rename_i hentry
    cases h
    exact ⟨fun _ hlive => hlive, fun buf hbuf => by simp [hentry] at hbuf⟩
  · rename_i freed hentry
    obtain ⟨hlive, rfl⟩ := Heap.free_eq_some.mp h
    refine ⟨fun buf hbuf => ((Heap.live_set heap freed buf).mp hbuf).1, ?_⟩
    intro buf hbuf
    obtain rfl : freed = buf := by simpa [hentry] using hbuf
    refine ⟨hlive, ?_⟩
    rw [Bool.eq_false_iff]
    exact fun hstill => ((Heap.live_set heap freed freed).mp hstill).2 rfl

/-- What the loop frees was live before, and is not live after it. -/
theorem freeLoop_frees {i : Nat} (h : freeLoop fixed_set_params heap i = some heap') :
    (∀ buf, heap'.live buf = true → heap.live buf = true) ∧
      ∀ k : Nat, k < i → ∀ buf, entry fixed_set_params k = some (some buf) →
        heap.live buf = true ∧ heap'.live buf = false := by
  induction i generalizing heap' with
  | zero =>
      cases h
      exact ⟨fun _ hlive => hlive, fun _ hlt => absurd hlt (Nat.not_lt_zero _)⟩
  | succ i ih =>
      obtain ⟨heap₁, hloop, hentry⟩ := Option.bind_eq_some_iff.mp h
      obtain ⟨hless, hfreed⟩ := ih hloop
      obtain ⟨hless', hfreed'⟩ := freeEntry_frees hentry
      refine ⟨fun buf hlive => hless buf (hless' buf hlive), ?_⟩
      intro k hk buf hbuf
      rcases Nat.lt_or_eq_of_le (Nat.lt_succ_iff.mp hk) with hlt | rfl
      · obtain ⟨hlive, hdead⟩ := hfreed k hlt buf hbuf
        refine ⟨hlive, ?_⟩
        rw [Bool.eq_false_iff] at hdead ⊢
        exact mt (hless' buf) hdead
      · obtain ⟨hlive, hdead⟩ := hfreed' buf hbuf
        exact ⟨hless buf hlive, hdead⟩

/-- The loop frees the one buffer that the array has. -/
theorem freeLoop_alone {id : Int} {i : Nat} (hi : i ≤ fixed_set_params.length)
    (hother : ∀ k : Nat, (k : Int) ≠ id → ∀ buf, entry fixed_set_params k ≠ some (some buf))
    (hown : ∀ buf, entry fixed_set_params id = some (some buf) → heap.live buf = true) :
    ∃ heap', freeLoop fixed_set_params heap i = some heap' ∧ heap'.length = heap.length ∧
      ∀ buf, heap'.live buf = true ↔
        heap.live buf = true ∧ ¬ (id < i ∧ entry fixed_set_params id = some (some buf)) := by
  induction i with
  | zero =>
      refine ⟨heap, rfl, rfl, ?_⟩
      intro buf
      refine (and_iff_left ?_).symm
      rintro ⟨hneg, hentry⟩
      have := (entry_ne_none.mp (by rw [hentry]; simp) : 0 ≤ id ∧ _).1
      omega
  | succ i ih =>
      obtain ⟨heap₁, hloop, hlength, hlive⟩ := ih (by omega)
      have hin : entry fixed_set_params i ≠ none := by
        rw [entry_ne_none]
        omega
      obtain ⟨params, hparams⟩ := Option.ne_none_iff_exists'.mp hin
      rw [freeLoop, hloop, Option.bind_some, freeEntry, hparams]
      cases params with
      | none =>
          refine ⟨heap₁, rfl, hlength, ?_⟩
          intro buf
          have hsame : (id < ↑(i + 1) ∧ entry fixed_set_params id = some (some buf)) ↔
              (id < ↑i ∧ entry fixed_set_params id = some (some buf)) := by
            constructor
            · rintro ⟨hlt, hentry⟩
              have hne : id ≠ i := by
                rintro rfl
                rw [hparams] at hentry
                cases hentry
              exact ⟨by omega, hentry⟩
            · rintro ⟨hlt, hentry⟩
              exact ⟨by omega, hentry⟩
          rw [hsame]
          exact hlive buf
      | some freed =>
          have hid : (i : Int) = id := by
            by_contra hne
            exact hother i hne freed hparams
          subst hid
          have hfreed : heap₁.live freed = true := by
            refine (hlive freed).mpr ⟨hown freed hparams, ?_⟩
            rintro ⟨hlt, -⟩
            omega
          refine ⟨heap₁.set freed none, Heap.free_eq_some.mpr ⟨hfreed, rfl⟩, by simpa using hlength,
            ?_⟩
          intro buf
          rw [Heap.live_set, hlive buf, hparams]
          constructor
          · rintro ⟨⟨hbuf, -⟩, hne⟩
            exact ⟨hbuf, fun hown => hne (by simpa using hown.2.symm)⟩
          · rintro ⟨hbuf, hnot⟩
            refine ⟨⟨hbuf, fun hlt => by omega⟩, ?_⟩
            rintro rfl
            exact hnot ⟨by omega, rfl⟩

end Memory

namespace Wrapper

section Step

variable {S : Type*} {n : Nat} {fixup : Int → S → S} {s : Wrapper S}

/-- The array has the buffer of each open camera, which is live and no other's; the
buffers that it has of other cameras were freed. -/
structure Inv (n : Nat) (s : Wrapper S) : Prop where
  size : ∀ camera, s.devices camera ≠ none → s.fixed_set_params.length = n
  own : ∀ camera params, s.devices camera = some params →
    entry s.fixed_set_params camera = some params ∨
      entry s.fixed_set_params camera = none ∧ params = none
  live : ∀ camera buf, s.devices camera = some (some buf) → s.heap.live buf = true
  distinct : ∀ camera camera' buf, s.devices camera = some (some buf) →
    s.devices camera' = some (some buf) → camera = camera'
  dead : ∀ camera buf, s.devices camera = none →
    entry s.fixed_set_params camera = some (some buf) → s.heap.live buf = false
  bound : ∀ camera buf, entry s.fixed_set_params camera = some (some buf) → buf < s.heap.length

theorem inv_init : Inv n (init : Wrapper S) := by
  constructor <;> simp [init, entry]

/-- An open camera without a buffer was given none. -/
theorem Inv.none_of_noBuffer (h : Inv n s) {camera : Int} {params : Option Nat}
    (hopen : s.devices camera = some params) (hno : s.NoBuffer camera) : params = none := by
  cases params with
  | none => rfl
  | some buf =>
      rcases h.own camera _ hopen with hentry | ⟨-, hnone⟩
      · exact absurd hentry (hno buf)
      · exact hnone

/-- Only the other devices have been given a buffer. -/
theorem update_eq_buffer {devices : Int → Option (Option Nat)} {id camera : Int}
    {params : Option (Option Nat)} {buf : Nat} (hparams : params ≠ some (some buf)) :
    Function.update devices id params camera = some (some buf) ↔
      camera ≠ id ∧ devices camera = some (some buf) := by
  by_cases hcamera : camera = id
  · subst hcamera
    simp [hparams]
  · simp [hcamera]

theorem open_proper_iff (h : Inv n s) {cameraid : Int} :
    (∀ camera, camera ≠ cameraid → s.devices camera ≠ none →
      entry (s.cameraDeviceOpen n cameraid).fixed_set_params camera =
        entry s.fixed_set_params camera) ↔
      ∀ camera, camera ≠ cameraid → s.devices camera ≠ none → s.NoBuffer camera := by
  have hreplaced (camera : Int) (hopen : s.devices camera ≠ none) :
      entry (List.replicate n none) camera = entry s.fixed_set_params camera ↔
        s.NoBuffer camera := by
    have hsize := h.size camera hopen
    rw [entry_replicate]
    constructor
    · intro heq buf hbuf
      rw [hbuf] at heq
      split at heq <;> cases heq
    · intro hno
      split
      · rename_i hin
        obtain ⟨params, hparams⟩ :=
          Option.ne_none_iff_exists'.mp (entry_ne_none.mpr (hsize.symm ▸ hin))
        cases params with
        | none => exact hparams.symm
        | some buf => exact absurd hparams (hno buf)
      · rename_i hout
        by_contra hne
        exact hout (hsize ▸ entry_ne_none.mp (Ne.symm hne))
  constructor
  · intro heq camera hcamera hopen
    exact (hreplaced camera hopen).mp (heq camera hcamera hopen)
  · intro hno camera hcamera hopen
    exact (hreplaced camera hopen).mpr (hno camera hcamera hopen)

theorem open_live (h : Inv n s) (cameraid camera : Int) (buf : Nat)
    (hbuf : (s.cameraDeviceOpen n cameraid).devices camera = some (some buf)) :
    s.heap.live buf = true :=
  h.live camera buf ((update_eq_buffer (by simp)).mp hbuf).2

theorem open_inv (h : Inv n s) {cameraid : Int}
    (halone : ∀ camera, camera ≠ cameraid → s.devices camera ≠ none → s.NoBuffer camera) :
    Inv n (s.cameraDeviceOpen n cameraid) where
  size camera _ := List.length_replicate
  own camera params hopen := by
    have hparams : params = none := by
      by_cases hcamera : camera = cameraid
      · subst hcamera
        simpa [cameraDeviceOpen] using hopen.symm
      · have hopen' : s.devices camera = some params := by
          simpa [cameraDeviceOpen, hcamera] using hopen
        exact h.none_of_noBuffer hopen' (halone camera hcamera (by simp [hopen']))
    rw [cameraDeviceOpen, entry_replicate, hparams]
    split <;> simp
  live := open_live h cameraid
  distinct camera camera' buf hbuf hbuf' :=
    h.distinct camera camera' buf ((update_eq_buffer (by simp)).mp hbuf).2
      ((update_eq_buffer (by simp)).mp hbuf').2
  dead camera buf _ hentry := by
    rw [cameraDeviceOpen, entry_replicate] at hentry
    split at hentry <;> simp at hentry
  bound camera buf hentry := by
    rw [cameraDeviceOpen, entry_replicate] at hentry
    split at hentry <;> simp at hentry

/-- The buffer of a camera is replaced by a new one, or by none. -/
theorem Inv.replace (h : Inv n s) {id : Int} {params params' : Option Nat} {heap : Heap S}
    (hopen : s.devices id = some params) (hid : entry s.fixed_set_params id ≠ none)
    (hlength : s.heap.length ≤ heap.length)
    (hlive : ∀ buf, heap.live buf = true ↔
      s.heap.live buf = true ∧ params ≠ some buf ∨ params' = some buf)
    (hnew : ∀ buf, params' = some buf → s.heap.length ≤ buf ∧ buf < heap.length) :
    Inv n ⟨heap, s.fixed_set_params.set id.toNat params',
      Function.update s.devices id (some params')⟩ := by
  have hpos := (entry_ne_none.mp hid).1
  constructor
  · intro camera _
    rw [List.length_set]
    exact h.size id (by simp [hopen])
  · intro camera other hother
    by_cases hcamera : camera = id
    · subst hcamera
      rw [entry_set_self _ hid]
      simp only [Function.update_self, Option.some.injEq] at hother
      exact .inl (congrArg some hother)
    · rw [entry_set_ne _ hpos hcamera]
      exact h.own camera other (by simpa [hcamera] using hother)
  · intro camera buf hbuf
    rw [hlive]
    by_cases hcamera : camera = id
    · subst hcamera
      simp only [Function.update_self, Option.some.injEq] at hbuf
      exact .inr hbuf
    · have hbuf' : s.devices camera = some (some buf) := by simpa [hcamera] using hbuf
      refine .inl ⟨h.live camera buf hbuf', ?_⟩
      rintro rfl
      exact hcamera (h.distinct camera id buf hbuf' hopen)
  · have hother {camera : Int} {buf : Nat} (hcamera : camera ≠ id)
        (hbuf : Function.update s.devices id (some params') camera = some (some buf)) :
        s.devices camera = some (some buf) ∧ params' ≠ some buf := by
      have hbuf' : s.devices camera = some (some buf) := by simpa [hcamera] using hbuf
      refine ⟨hbuf', ?_⟩
      intro heq
      have := Heap.live_lt (h.live camera buf hbuf')
      have := (hnew buf heq).1
      omega
    have hself {buf : Nat}
        (hbuf : Function.update s.devices id (some params') id = some (some buf)) :
        params' = some buf := by simpa using hbuf
    intro camera camera' buf hbuf hbuf'
    by_cases hcamera : camera = id
    · by_cases hcamera' : camera' = id
      · rw [hcamera, hcamera']
      · subst hcamera
        exact absurd (hself hbuf) (hother hcamera' hbuf').2
    · by_cases hcamera' : camera' = id
      · subst hcamera'
        exact absurd (hself hbuf') (hother hcamera hbuf).2
      · exact h.distinct camera camera' buf (hother hcamera hbuf).1 (hother hcamera' hbuf').1
  · intro camera buf hclosed hentry
    have hcamera : camera ≠ id := by
      rintro rfl
      simp at hclosed
    rw [entry_set_ne _ hpos hcamera] at hentry
    have hdead := h.dead camera buf (by simpa [hcamera] using hclosed) hentry
    rw [Bool.eq_false_iff, ne_eq, hlive, hdead]
    rintro (⟨hfalse, -⟩ | heq)
    · cases hfalse
    · have := h.bound camera buf hentry
      have := (hnew buf heq).1
      omega
  · intro camera buf hentry
    by_cases hcamera : camera = id
    · subst hcamera
      rw [entry_set_self _ hid, Option.some.injEq] at hentry
      exact (hnew buf hentry).2
    · rw [entry_set_ne _ hpos hcamera] at hentry
      exact Nat.lt_of_lt_of_le (h.bound camera buf hentry) hlength

/-- An open camera of the `n` has its entry. -/
theorem Inv.entry_eq (h : Inv n s) {id : Int} {params : Option Nat}
    (hopen : s.devices id = some params) (hid : 0 ≤ id ∧ id < n) :
    entry s.fixed_set_params id = some params := by
  rcases h.own id params hopen with hentry | ⟨hnone, -⟩
  · exact hentry
  · have hsize := h.size id (by simp [hopen])
    exact absurd hnone (entry_ne_none.mpr (hsize.symm ▸ hid))

theorem freeEntry_own (h : Inv n s) {id : Int} {params : Option Nat}
    (hopen : s.devices id = some params) (hid : 0 ≤ id ∧ id < n) :
    ∃ heap, freeEntry s.fixed_set_params s.heap id = some heap ∧ heap.length = s.heap.length ∧
      ∀ buf, heap.live buf = true ↔ s.heap.live buf = true ∧ params ≠ some buf := by
  rw [freeEntry, h.entry_eq hopen hid]
  cases params with
  | none => exact ⟨s.heap, rfl, rfl, by simp⟩
  | some freed =>
      refine ⟨s.heap.set freed none, Heap.free_eq_some.mpr ⟨h.live id freed hopen, rfl⟩,
        List.length_set, ?_⟩
      intro buf
      rw [Heap.live_set, ne_eq, ne_eq, Option.some.injEq, eq_comm (a := buf)]

theorem setParameters_proper (h : Inv n s) {id : Int} (hopen : s.devices id ≠ none)
    (hid : 0 ≤ id ∧ id < n) (settings : S) (strdup : Bool) :
    ∃ after, s.cameraSetParameters fixup id settings strdup = some after ∧ Inv n after ∧
      ∀ camera, camera ≠ id →
        entry after.fixed_set_params camera = entry s.fixed_set_params camera := by
  obtain ⟨params, hparams⟩ := Option.ne_none_iff_exists'.mp hopen
  obtain ⟨heap, hfree, hlength, hlive⟩ := freeEntry_own h hparams hid
  have hentry : entry s.fixed_set_params id ≠ none := by simp [h.entry_eq hparams hid]
  cases strdup with
  | true =>
      refine ⟨_, by simp [cameraSetParameters, hfree]; rfl, ?_, ?_⟩
      · apply h.replace hparams hentry
        · simp [hlength]
        · intro buf
          rw [Heap.live_append, hlive, Option.some.injEq, eq_comm (a := buf)]
        · rintro buf ⟨⟩
          simp [hlength]
      · intro camera hcamera
        exact entry_set_ne _ hid.1 hcamera
  | false =>
      refine ⟨_, by simp [cameraSetParameters, hfree]; rfl, ?_, ?_⟩
      · apply h.replace hparams hentry
        · simp [hlength]
        · intro buf
          simp [hlive]
        · rintro buf ⟨⟩
      · intro camera hcamera
        exact entry_set_ne _ hid.1 hcamera

theorem close_proper (h : Inv n s) {id : Int} (hopen : s.devices id ≠ none)
    (halone : ∀ camera, camera ≠ id → s.NoBuffer camera) :
    ∃ after, s.cameraDeviceClose n id = some after ∧ Inv n after ∧
      after.fixed_set_params = s.fixed_set_params := by
  obtain ⟨params, hparams⟩ := Option.ne_none_iff_exists'.mp hopen
  have hsize := h.size id hopen
  have hown (buf : Nat) (hbuf : entry s.fixed_set_params id = some (some buf)) :
      s.devices id = some (some buf) := by
    rcases h.own id params hparams with hentry | ⟨hnone, -⟩
    · rw [hparams, ← hbuf, hentry]
    · rw [hnone] at hbuf
      cases hbuf
  obtain ⟨heap, hloop, hlength, hlive⟩ := freeLoop_alone (Nat.le_of_eq hsize.symm)
    (fun k hk buf => halone k hk buf) (fun buf hbuf => h.live id buf (hown buf hbuf))
  refine ⟨{ s with heap := heap, devices := Function.update s.devices id none },
    by simp [cameraDeviceClose, hloop], ?_, rfl⟩
  constructor
  · intro camera _
    exact hsize
  · intro camera other hother
    have hcamera : camera ≠ id := by
      rintro rfl
      simp at hother
    exact h.own camera other (by simpa [hcamera] using hother)
  · intro camera buf hbuf
    obtain ⟨hcamera, hbuf'⟩ := (update_eq_buffer (by simp)).mp hbuf
    refine (hlive buf).mpr ⟨h.live camera buf hbuf', ?_⟩
    rintro ⟨-, hentry⟩
    exact hcamera (h.distinct camera id buf hbuf' (hown buf hentry))
  · intro camera camera' buf hbuf hbuf'
    exact h.distinct camera camera' buf ((update_eq_buffer (by simp)).mp hbuf).2
      ((update_eq_buffer (by simp)).mp hbuf').2
  · intro camera buf _ hentry
    have hcamera : camera = id := by
      by_contra hne
      exact halone camera hne buf hentry
    subst hcamera
    rw [Bool.eq_false_iff, ne_eq, hlive]
    rintro ⟨-, hnot⟩
    have hin := entry_ne_none.mp (by rw [hentry]; simp : entry s.fixed_set_params camera ≠ none)
    exact hnot ⟨hsize ▸ hin.2, hentry⟩
  · intro camera buf hentry
    exact hlength.symm ▸ h.bound camera buf hentry

/-- A buffer of another camera is freed, though that camera is open, or it was freed
before. -/
theorem close_improper (h : Inv n s) {id camera : Int} {buf : Nat} {after : Wrapper S}
    (hopen : s.devices id ≠ none) (hcamera : camera ≠ id)
    (hentry : entry s.fixed_set_params camera = some (some buf))
    (hclose : s.cameraDeviceClose n id = some after) :
    after.devices camera = some (some buf) ∧ after.heap.live buf = false := by
  obtain ⟨heap, hloop, rfl⟩ := Option.map_eq_some_iff.mp hclose
  have hsize := h.size id hopen
  obtain ⟨hpos, hlt⟩ := entry_ne_none.mp (by rw [hentry]; simp)
  obtain ⟨k, rfl⟩ := Int.eq_ofNat_of_zero_le hpos
  obtain ⟨hlive, hfreed⟩ := (freeLoop_frees hloop).2 k (by omega) buf hentry
  refine ⟨?_, hfreed⟩
  cases hdevice : s.devices k with
  | none =>
      have hdead := h.dead k buf hdevice hentry
      rw [hlive] at hdead
      cases hdead
  | some params =>
      rcases h.own k params hdevice with hown | ⟨hnone, -⟩
      · rw [hentry, Option.some.injEq] at hown
        simp [hcamera, hdevice, ← hown]
      · rw [hnone] at hentry
        cases hentry

theorem proper_of_machine {input : Input S} {after : Wrapper S}
    (hafter : machine n fixup s input = some after) :
    Proper n fixup (some s) input ↔
      (∀ camera buf, after.devices camera = some (some buf) → after.heap.live buf = true) ∧
        ∀ camera, camera ≠ input.camera → s.devices camera ≠ none →
          entry after.fixed_set_params camera = entry s.fixed_set_params camera := by
  constructor
  · rintro ⟨before, after', heq, hafter', hproper⟩
    cases heq
    rw [hafter, Option.some.injEq] at hafter'
    exact hafter' ▸ hproper
  · intro hproper
    exact ⟨s, after, rfl, hafter, hproper⟩

/-- What is skipped changes nothing. -/
theorem proper_refused (h : Inv n s) {input : Input S}
    (hafter : machine n fixup s input = some s) : Proper n fixup (some s) input :=
  (proper_of_machine hafter).mpr ⟨h.live, fun _ _ _ => rfl⟩

theorem proper_open (h : Inv n s) (cameraid : Int) :
    (Proper n fixup (some s) (.deviceOpen cameraid) ↔ Alone n (some s) (.deviceOpen cameraid)) ∧
      (Alone n (some s) (.deviceOpen cameraid) →
        ∃ after, machine n fixup s (.deviceOpen cameraid) = some after ∧ Inv n after) := by
  by_cases henabled : s.devices cameraid = none ∧ cameraid ≤ n
  · have hafter : machine n fixup s (.deviceOpen cameraid) = some (s.cameraDeviceOpen n cameraid) :=
      if_pos henabled
    have halone : Alone n (some s) (.deviceOpen cameraid) ↔
        ∀ camera, camera ≠ cameraid → s.devices camera ≠ none → s.NoBuffer camera := by
      simp [Alone, henabled]
    rw [proper_of_machine hafter, halone, ← open_proper_iff h]
    refine ⟨and_iff_right (open_live h cameraid), ?_⟩
    intro hsame
    exact ⟨_, hafter, open_inv h ((open_proper_iff h).mp hsame)⟩
  · have hafter : machine n fixup s (.deviceOpen cameraid) = some s := if_neg henabled
    have halone : Alone n (some s) (.deviceOpen cameraid) := by
      rintro before ⟨⟩ hclosed hle
      exact absurd ⟨hclosed, hle⟩ henabled
    exact ⟨iff_of_true (proper_refused h hafter) halone, fun _ => ⟨s, hafter, h⟩⟩

theorem proper_setParameters (h : Inv n s) (id : Int) (settings : S) (strdup : Bool) :
    (Proper n fixup (some s) (.setParameters id settings strdup) ↔
        Alone n (some s) (.setParameters id settings strdup)) ∧
      (Alone n (some s) (.setParameters id settings strdup) →
        ∃ after, machine n fixup s (.setParameters id settings strdup) = some after ∧
          Inv n after) := by
  by_cases hclosed : s.devices id = none
  · have hafter : machine n fixup s (.setParameters id settings strdup) = some s :=
      if_pos hclosed
    have halone : Alone n (some s) (.setParameters id settings strdup) := by
      rintro before ⟨⟩ hopen
      exact absurd hclosed hopen
    exact ⟨iff_of_true (proper_refused h hafter) halone, fun _ => ⟨s, hafter, h⟩⟩
  · have halone : Alone n (some s) (.setParameters id settings strdup) ↔ 0 ≤ id ∧ id < n := by
      simp [Alone, hclosed]
    have hmachine : machine n fixup s (.setParameters id settings strdup) =
        s.cameraSetParameters fixup id settings strdup := if_neg hclosed
    rw [halone]
    constructor
    · constructor
      · rintro ⟨before, after, heq, hafter, -⟩
        cases heq
        obtain ⟨heap, hfree, -⟩ := Option.map_eq_some_iff.mp (hmachine.symm.trans hafter)
        rw [← h.size id hclosed, ← entry_ne_none]
        intro hnone
        simp [freeEntry, hnone] at hfree
      · intro hid
        obtain ⟨after, hafter, hinv, hsame⟩ := setParameters_proper h hclosed hid settings strdup
        exact (proper_of_machine (hmachine.trans hafter)).mpr
          ⟨hinv.live, fun camera hcamera _ => hsame camera hcamera⟩
    · intro hid
      obtain ⟨after, hafter, hinv, -⟩ := setParameters_proper h hclosed hid settings strdup
      exact ⟨after, hmachine.trans hafter, hinv⟩

theorem proper_close (h : Inv n s) (id : Int) :
    (Proper n fixup (some s) (.deviceClose id) ↔ Alone n (some s) (.deviceClose id)) ∧
      (Alone n (some s) (.deviceClose id) →
        ∃ after, machine n fixup s (.deviceClose id) = some after ∧ Inv n after) := by
  by_cases hclosed : s.devices id = none
  · have hafter : machine n fixup s (.deviceClose id) = some s := if_pos hclosed
    have halone : Alone n (some s) (.deviceClose id) := by
      rintro before ⟨⟩ hopen
      exact absurd hclosed hopen
    exact ⟨iff_of_true (proper_refused h hafter) halone, fun _ => ⟨s, hafter, h⟩⟩
  · have halone : Alone n (some s) (.deviceClose id) ↔
        ∀ camera, camera ≠ id → s.NoBuffer camera := by
      simp [Alone, hclosed]
    have hmachine : machine n fixup s (.deviceClose id) = s.cameraDeviceClose n id := if_neg hclosed
    rw [halone]
    constructor
    · constructor
      · rintro ⟨before, after, heq, hafter, hlive, -⟩ camera hcamera buf hentry
        cases heq
        obtain ⟨hdevice, hdead⟩ :=
          close_improper h hclosed hcamera hentry (hmachine.symm.trans hafter)
        rw [hlive camera buf hdevice] at hdead
        cases hdead
      · intro hno
        obtain ⟨after, hafter, hinv, hsame⟩ := close_proper h hclosed hno
        exact (proper_of_machine (hmachine.trans hafter)).mpr
          ⟨hinv.live, fun camera _ _ => by rw [hsame]⟩
    · intro hno
      obtain ⟨after, hafter, hinv, -⟩ := close_proper h hclosed hno
      exact ⟨after, hmachine.trans hafter, hinv⟩

/-- A call is proper if and only if its guard allows it, and then the invariant
stays. -/
theorem proper_iff (fixup : Int → S → S) (h : Inv n s) (input : Input S) :
    (Proper n fixup (some s) input ↔ Alone n (some s) input) ∧
      (Alone n (some s) input → ∃ after, machine n fixup s input = some after ∧ Inv n after) := by
  cases input with
  | deviceOpen cameraid => exact proper_open h cameraid
  | setParameters id settings strdup => exact proper_setParameters h id settings strdup
  | deviceClose id => exact proper_close h id

end Step

section Run

variable {S : Type*} {n : Nat} {fixup : Int → S → S}

theorem meets_proper {s : Wrapper S} (h : Inv n s) (inputs : List (Input S)) :
    Meets (step n fixup) (Proper n fixup) (some s) inputs ↔
      Meets (step n fixup) (Alone n) (some s) inputs := by
  induction inputs generalizing s with
  | nil => exact Iff.rfl
  | cons input inputs ih =>
      obtain ⟨hiff, hkeeps⟩ := proper_iff fixup h input
      rw [Meets, Meets, hiff]
      refine and_congr_right ?_
      intro halone
      obtain ⟨after, hafter, hinv⟩ := hkeeps halone
      rw [step, Option.bind_some, hafter]
      exact ih hinv

end Run

end Wrapper

open Wrapper

/-- In a run from the start each call uses its indices and frees its buffers
properly and spares the other open cameras, if and only if each camera is opened and
closed while no other one has a buffer in the array, and none beyond the last has
parameters set. -/
theorem buffers_owned {S : Type*} (n : Nat) (fixup : Int → S → S) (inputs : List (Input S)) :
    Meets (step n fixup) (Proper n fixup) (some init) inputs ↔
      Meets (step n fixup) (Alone n) (some init) inputs :=
  meets_proper inv_init inputs

/-- With two cameras open, closing the second one frees the buffer of the first one,
which still has it; closing the first one then frees it again. -/
theorem buffer_freed_twice :
    let inputs : List (Input Nat) :=
      [.deviceOpen 0, .deviceOpen 1, .setParameters 0 7 true, .deviceClose 1]
    let s : Option (Wrapper Nat) := run (step 2 fun _ settings => settings) (some init) inputs
    s.map (fun s => s.devices 0) = some (some (some 0)) ∧
      s.map (fun s => s.heap.live 0) = some false ∧
      (step 2 (fun _ settings => settings) s (.deviceClose 0)).isNone = true := by
  decide

end G2Common.Camera

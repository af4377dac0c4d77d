import G2Common.CString
import G2Common.Recovery.BmSearch

/-!
`g2.verify_trustzone`: the version in the TrustZone image, found by its marker, and its
comparison with the versions that an installer accepts. The line that `uiPrintf` shows for
each comparison is left out.
-/

namespace G2Common.Recovery

open CString StringSearch

def KB : Nat := 1024

def TZ_SZ : Nat := 500 * KB

/-- QC_IMAGE_VERSION_STRING= -/
def TZ_VER_STR : List UInt8 :=
  ['Q', 'C', '_', 'I', 'M', 'A', 'G', 'E', '_', 'V', 'E', 'R', 'S', 'I', 'O', 'N', '_', 'S',
    'T', 'R', 'I', 'N', 'G', '='].map (fun c => UInt8.ofNat c.toNat)

def TZ_VER_STR_LEN : Nat := 24

example : TZ_VER_STR.length = TZ_VER_STR_LEN := by decide

def TZ_VER_BUF_LEN : Nat := 255

def ENOENT : Int := 2

/-- What `open` and `mmap` of the partition lead to. The memory goes on behind the image. -/
inductive Partition where
  | openFailed (errno : Int)
  | mmapFailed (errno : Int)
  | mapped (tz_data : Nat → UInt8)

def bytesAt (memory : Nat → UInt8) (start n : Nat) : List UInt8 :=
  (List.range n).map (fun k => memory (start + k))

/-- The mapped image. -/
def image (tz_data : Nat → UInt8) : List UInt8 := bytesAt tz_data 0 TZ_SZ

/-- `get_tz_version`: what it returns and what `ver_str` holds then. -/
def getTzVersion (partition : Partition) (ver_str : List UInt8) (len : Nat) :
    Option (Int × List UInt8) :=
  match partition with
  | .openFailed errno | .mmapFailed errno => some (errno, ver_str)
  | .mapped tz_data => do
      match ← bmSearch (image tz_data) TZ_VER_STR with
      | some offset =>
          some (0, strncpy (bytesAt tz_data (offset + TZ_VER_STR_LEN) len))
      | none => some (-ENOENT, ver_str)

inductive CauseCode where
  | kArgsParsingFailure | kFreadFailure
  deriving DecidableEq, Repr

/-- What the function returns: `ErrorAbort` or a string value. -/
inductive Value where
  | errorAbort (cause : CauseCode) (text : String)
  | string (text : String)
  deriving DecidableEq, Repr

def Value.aborts : Value → Bool
  | .errorAbort .. => true
  | .string _ => false

/-- `VerifyTrustZoneFn`, with what `ReadVarArgs` returns and what the buffer on the stack
holds before. -/
def verifyTrustZoneFn (name : String) (partition : Partition) (stack : List UInt8)
    (readVarArgs : Option (List (List UInt8))) : Option Value := do
  let (ret, current_tz_version) ← getTzVersion partition stack TZ_VER_BUF_LEN
  if ret ≠ 0 then
    some (.errorAbort .kFreadFailure
      (name ++ "() failed to read current TZ version: " ++ toString ret))
  else
    match readVarArgs with
    | none => some (.errorAbort .kArgsParsingFailure (name ++ "() error parsing arguments"))
    | some tz_version =>
        if tz_version.any (fun v => strncmpZero v.length v current_tz_version) then
          some (.string "1")
        else
          some (.string "0")

theorem apart_marker (n : Nat) : Apart TZ_VER_STR n := by
  refine .inr ?_
  have hnone : ∀ k < TZ_VER_STR.length, 0 < k → ¬IsPeriod TZ_VER_STR k := by decide
  intro k hpos hk hperiod
  exact absurd hperiod (hnone k hk hpos)

theorem length_bytesAt (memory : Nat → UInt8) (start n : Nat) :
    (bytesAt memory start n).length = n := by
  rw [bytesAt, List.length_map, List.length_range]

/-- The search for the marker is right in every image. -/
theorem bmSearch_image (tz_data : Nat → UInt8) :
    bmSearch (image tz_data) TZ_VER_STR =
      some (firstOccurrence (image tz_data) TZ_VER_STR) := by
  have hsmall : TZ_SZ + TZ_VER_STR.length < 2 ^ 31 := by decide
  apply bmSearch_agrees (by decide) (by decide)
  · rwa [image, length_bytesAt]
  · exact apart_marker _

section Compare

variable {arg bytes : List UInt8}

/-- A string without NUL agrees with the copy exactly if it is a prefix of the C string. -/
theorem strncmpZero_strncpy (hzero : 0 ∉ arg) (hlen : arg.length ≤ bytes.length) :
    strncmpZero arg.length arg (strncpy bytes) = true ↔ arg <+: cString bytes := by
  induction arg generalizing bytes with
  | nil => simp [strncmpZero]
  | cons a arg ih =>
      cases bytes with
      | nil => simp at hlen
      | cons c rest =>
          obtain ⟨ha, hrest⟩ : a ≠ 0 ∧ 0 ∉ arg := by simpa [eq_comm] using hzero
          have htail := ih hrest (by simpa using hlen)
          rw [strncpy, cString, List.takeWhile_cons, List.length_cons]
          by_cases hc : c = 0
          · simp [hc, List.replicate_succ, strncmpZero, ha]
          · rw [if_neg hc, if_pos (by simpa using hc), List.cons_prefix_cons]
            simp only [strncmpZero, Bool.and_eq_true, beq_iff_eq, Bool.or_eq_true, ha, false_or,
              htail]
            rfl

end Compare

/-- Where the first marker is at `s`. -/
theorem verifyTrustZoneFn_found (name : String) (stack : List UInt8)
    {tz_data : Nat → UInt8} {args : List (List UInt8)} {s : Nat}
    (hargs : ∀ arg ∈ args, 0 ∉ arg ∧ arg.length < TZ_VER_BUF_LEN)
    (hfirst : firstOccurrence (image tz_data) TZ_VER_STR = some s) :
    verifyTrustZoneFn name (.mapped tz_data) stack (some args) =
      some (.string (if ∃ arg ∈ args, arg <+:
        cString (bytesAt tz_data (s + TZ_VER_STR_LEN) TZ_VER_BUF_LEN) then "1" else "0")) := by
  generalize hcopy : bytesAt tz_data (s + TZ_VER_STR_LEN) TZ_VER_BUF_LEN = bytes
  have hversion : getTzVersion (.mapped tz_data) stack TZ_VER_BUF_LEN =
      some (0, strncpy bytes) := by
    rw [getTzVersion, bmSearch_image, hfirst, ← hcopy]
    rfl
  have hany : args.any (fun v => strncmpZero v.length v (strncpy bytes)) =
      decide (∃ arg ∈ args, arg <+: cString bytes) := by
    rw [Bool.eq_iff_iff, List.any_eq_true, decide_eq_true_iff]
    apply exists_congr
    intro arg
    apply and_congr_right
    intro harg
    obtain ⟨hzero, hlen⟩ := hargs arg harg
    apply strncmpZero_strncpy hzero
    rw [← hcopy, length_bytesAt]
    exact Nat.le_of_lt hlen
  rw [verifyTrustZoneFn, hversion]
  change (if args.any _ = true then some (Value.string "1") else some (.string "0")) = _
  rw [hany]
  split <;> simp_all

/-- Where there is no marker. -/
theorem verifyTrustZoneFn_missing (name : String) (stack : List UInt8)
    {tz_data : Nat → UInt8} (args : Option (List (List UInt8)))
    (hnone : firstOccurrence (image tz_data) TZ_VER_STR = none) :
    verifyTrustZoneFn name (.mapped tz_data) stack args =
      some (.errorAbort .kFreadFailure
        (name ++ "() failed to read current TZ version: " ++ toString (-ENOENT))) := by
  have hversion : getTzVersion (.mapped tz_data) stack TZ_VER_BUF_LEN =
      some (-ENOENT, stack) := by
    rw [getTzVersion, bmSearch_image, hnone]
    rfl
  rw [verifyTrustZoneFn, hversion]
  rfl

/-- The installer's check aborts exactly if the marker does not occur in the image, and
otherwise goes by the version after its first occurrence. -/
theorem verify_trustzone_first_marker (name : String) (tz_data : Nat → UInt8)
    (stack : List UInt8) {args : List (List UInt8)}
    (hargs : ∀ arg ∈ args, 0 ∉ arg ∧ arg.length < TZ_VER_BUF_LEN) :
    ∃ value, verifyTrustZoneFn name (.mapped tz_data) stack (some args) = some value ∧
      (value.aborts = true ↔ ∀ s, ¬OccursAt (image tz_data) TZ_VER_STR s) ∧
      ∀ s, OccursAt (image tz_data) TZ_VER_STR s →
        (∀ r < s, ¬OccursAt (image tz_data) TZ_VER_STR r) →
        value = .string (if ∃ arg ∈ args, arg <+:
          cString (bytesAt tz_data (s + TZ_VER_STR_LEN) TZ_VER_BUF_LEN) then "1" else "0") := by
  have hpat : TZ_VER_STR ≠ [] := by decide
  by_cases hmarker : ∃ s, OccursAt (image tz_data) TZ_VER_STR s
  · obtain ⟨s, hocc, hbelow⟩ :
        ∃ s, OccursAt (image tz_data) TZ_VER_STR s ∧
          ∀ r < s, ¬OccursAt (image tz_data) TZ_VER_STR r :=
      ⟨Nat.find hmarker, Nat.find_spec hmarker, fun _ hr => Nat.find_min hmarker hr⟩
    have hfound := verifyTrustZoneFn_found name stack hargs
      (firstOccurrence_eq_some hpat hocc hbelow)
    refine ⟨_, hfound, ?_, ?_⟩
    · exact iff_of_false Bool.false_ne_true (fun hnone => hnone s hocc)
    · intro r hocc' hbelow'
      obtain rfl : s = r := by
        rcases Nat.lt_trichotomy s r with hlt | heq | hgt
        · exact absurd hocc (hbelow' s hlt)
        · exact heq
        · exact absurd hocc' (hbelow r hgt)
      rfl
  · have hnone : ∀ s, ¬OccursAt (image tz_data) TZ_VER_STR s := not_exists.mp hmarker
    have hmissing := verifyTrustZoneFn_missing name stack (some args)
      (firstOccurrence_eq_none hnone)
    refine ⟨_, hmissing, iff_of_true rfl hnone, ?_⟩
    intro s hocc
    exact absurd hocc (hnone s)

/-- The marker at the start of the image, and two versions to compare with. -/
theorem verify_trustzone_first_marker_two :
    ∃ value, verifyTrustZoneFn "g2.verify_trustzone" (.mapped fun n => TZ_VER_STR.getD n 66) []
        (some [[65], [66, 66]]) = some value ∧
      (value.aborts = true ↔
        ∀ s, ¬OccursAt (image fun n => TZ_VER_STR.getD n 66) TZ_VER_STR s) ∧
      ∀ s, OccursAt (image fun n => TZ_VER_STR.getD n 66) TZ_VER_STR s →
        (∀ r < s, ¬OccursAt (image fun n => TZ_VER_STR.getD n 66) TZ_VER_STR r) →
        value = .string (if ∃ arg ∈ ([[65], [66, 66]] : List (List UInt8)), arg <+:
          cString (bytesAt (fun n => TZ_VER_STR.getD n 66) (s + TZ_VER_STR_LEN) TZ_VER_BUF_LEN)
          then "1" else "0") :=
  verify_trustzone_first_marker _ _ _ (by decide)

end G2Common.Recovery

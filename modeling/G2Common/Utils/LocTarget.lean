import G2Common.Utils.LocCfgRead

/-!
The detection of the target in `loc_target.cpp`: which value is kept in `gTarget`, from two
properties and three files. Whatever is kept is what later calls return, except the value
that stands for nothing kept.
-/

namespace G2Common.Utils

def TARGET_SET (gnss ssc : UInt32) : UInt32 := (gnss <<< 1) ||| ssc

def GNSS_NONE : UInt32 := 0
def GNSS_MSM : UInt32 := 1
def GNSS_GSS : UInt32 := 2
def GNSS_MDM : UInt32 := 3
def GNSS_QCA1530 : UInt32 := 4
def GNSS_PDS : UInt32 := 5
def GNSS_AUTO : UInt32 := 6
def GNSS_UNKNOWN : UInt32 := 7

def NO_SSC : UInt32 := 0
def HAS_SSC : UInt32 := 1

def TARGET_DEFAULT : UInt32 := TARGET_SET GNSS_MSM HAS_SSC
def TARGET_MDM : UInt32 := TARGET_SET GNSS_MDM HAS_SSC
def TARGET_APQ_SA : UInt32 := TARGET_SET GNSS_GSS NO_SSC
def TARGET_MPQ : UInt32 := TARGET_SET GNSS_NONE NO_SSC
def TARGET_MSM_NO_SSC : UInt32 := TARGET_SET GNSS_MSM NO_SSC
def TARGET_QCA1530 : UInt32 := TARGET_SET GNSS_QCA1530 NO_SSC
def TARGET_PDS : UInt32 := TARGET_SET GNSS_PDS NO_SSC
def TARGET_AUTO : UInt32 := TARGET_SET GNSS_AUTO NO_SSC
def TARGET_UNKNOWN : UInt32 := TARGET_SET GNSS_UNKNOWN NO_SSC

/-- The targets that `loc_target.h` defines. -/
def targets : List UInt32 :=
  [TARGET_DEFAULT, TARGET_MDM, TARGET_APQ_SA, TARGET_MPQ, TARGET_MSM_NO_SSC, TARGET_QCA1530,
    TARGET_PDS, TARGET_AUTO, TARGET_UNKNOWN]

/-- `(unsigned int)-1`: `gTarget` before it is set. -/
def unsetTarget : UInt32 := -1

inductive File where
  | absent | unreadable
  | readable (content : List Char)
  deriving DecidableEq, Repr

/-- What a call finds: the answers of `property_get` to each poll of `sys.qca1530`, `none` if
it fails, the value of `ro.baseband`, and the files. -/
structure Environment where
  qca1530 : Nat → Option (List Char)
  baseband : List Char
  hw_platform : File
  hw_platform_dep : File
  id : File
  id_dep : File
  mdm : File

def LINE_LEN : Nat := 100

def QCA1530_DETECT_TIMEOUT : Nat := 15

/-- `read_a_line`: what it returns and the line. -/
def readALine (file : File) (line_size : Nat) : Int × List Char :=
  match file with
  | .readable content => (0, (fgets (line_size - 1) content).1.takeWhile (· ≠ '\x00'))
  | .absent | .unreadable => (-1, [])

/-- The polls of `is_qca1530` from `i` on, with `left` still to go. -/
def pollQca1530 (qca1530 : Nat → Option (List Char)) : Nat → Nat → Bool
  | 0, _ => false
  | left + 1, i =>
      match qca1530 i with
      | none => false
      | some buf =>
          if buf = "yes".toList then true
          else if buf = "detect".toList then pollQca1530 qca1530 left (i + 1)
          else false

def isQca1530 (e : Environment) : Bool := pollQca1530 e.qca1530 QCA1530_DETECT_TIMEOUT 0

/-- `IS_STR_END`, with `none` for the terminator. -/
def isStrEnd (c : Option Char) : Bool := c = none || c = some '\n' || c = some '\r'

/-- `memcmp` with a literal, for as many bytes as it has. -/
def startsWith (s : List Char) (literal : String) : Bool :=
  s.take literal.length = literal.toList

/-- The literal, and then the end of the line. -/
def reads (s : List Char) (literal : String) : Bool :=
  startsWith s literal && isStrEnd s[literal.length]?

/-- The path that is read if the first one does not exist. -/
def orDeprecated (file deprecated : File) : File :=
  match file with
  | .absent => deprecated
  | _ => file

def Environment.rd_hw_platform (e : Environment) : List Char :=
  (readALine (orDeprecated e.hw_platform e.hw_platform_dep) LINE_LEN).2

def Environment.rd_id (e : Environment) : List Char :=
  (readALine (orDeprecated e.id e.id_dep) LINE_LEN).2

/-- What a call makes of `gTarget` if it is not set. -/
def detectTarget (e : Environment) (gTarget : UInt32) : UInt32 :=
  if isQca1530 e then TARGET_QCA1530
  else if startsWith e.baseband "auto" then TARGET_AUTO
  else if startsWith e.rd_hw_platform "MTP" then
    if reads e.rd_id "178" then TARGET_PDS else gTarget
  else if startsWith e.baseband "apq" then
    if reads e.rd_id "130" then TARGET_MPQ else TARGET_APQ_SA
  else if reads e.rd_hw_platform "Liquid" || reads e.rd_hw_platform "Surf" ||
      reads e.rd_hw_platform "MTP" then
    if (readALine e.mdm LINE_LEN).1 = 0 then TARGET_MDM else gTarget
  else if reads e.rd_id "142" || reads e.rd_id "116" then TARGET_MSM_NO_SSC
  else TARGET_UNKNOWN

/-- `loc_get_target`: the new `gTarget`, which is what it returns. -/
def locGetTarget (gTarget : UInt32) (e : Environment) : UInt32 :=
  if gTarget ≠ unsetTarget then gTarget else detectTarget e gTarget

/-- What successive calls return. -/
def targetsReturned (gTarget : UInt32) : List Environment → List UInt32
  | [] => []
  | e :: later =>
      let gTarget := locGetTarget gTarget e
      gTarget :: targetsReturned gTarget later

variable {e : Environment}

/-- A board on which the modem is to be looked for, and none of those that are told before. -/
structure LooksForMdm (e : Environment) : Prop where
  qca1530 : isQca1530 e = false
  auto : startsWith e.baseband "auto" = false
  apq : startsWith e.baseband "apq" = false
  platform : reads e.rd_hw_platform "MTP" ∨ reads e.rd_hw_platform "Surf" ∨
    reads e.rd_hw_platform "Liquid"

def IsPds (e : Environment) : Prop :=
  startsWith e.rd_hw_platform "MTP" ∧ reads e.rd_id "178"

def MdmReadable (e : Environment) : Prop := ∃ content, e.mdm = .readable content

/-- What is asked of the first call and of all later ones. -/
structure Detects (e : Environment) : Prop where
  defined : locGetTarget unsetTarget e ∈ targets
  mdm : LooksForMdm e → ¬ IsPds e → MdmReadable e → locGetTarget unsetTarget e = TARGET_MDM
  kept : ∀ later, targetsReturned unsetTarget (e :: later) =
    List.replicate (later.length + 1) (locGetTarget unsetTarget e)

/-- The branches that set `gTarget`: an `MTP` platform is a PDS, and the modem that is looked
for on a `Liquid` or a `Surf` is readable. -/
structure Sets (e : Environment) : Prop where
  pds : isQca1530 e = false → startsWith e.baseband "auto" = false →
    startsWith e.rd_hw_platform "MTP" → reads e.rd_id "178"
  modem : isQca1530 e = false → startsWith e.baseband "auto" = false →
    startsWith e.rd_hw_platform "MTP" = false → startsWith e.baseband "apq" = false →
    reads e.rd_hw_platform "Surf" ∨ reads e.rd_hw_platform "Liquid" → MdmReadable e

theorem mdmReadable_iff : (readALine e.mdm LINE_LEN).1 = 0 ↔ MdmReadable e := by
  unfold MdmReadable
  cases e.mdm with
  | absent => exact iff_of_false (by decide) (fun h => nomatch h)
  | unreadable => exact iff_of_false (by decide) (fun h => nomatch h)
  | readable content => exact iff_of_true rfl ⟨content, rfl⟩

theorem unsetTarget_notMem : unsetTarget ∉ targets := by decide

theorem locGetTarget_unset (e : Environment) :
    locGetTarget unsetTarget e = detectTarget e unsetTarget :=
  if_neg (not_not_intro rfl)

theorem reads_startsWith {s : List Char} {literal : String} (h : reads s literal) :
    startsWith s literal := by
  rw [reads, Bool.and_eq_true] at h
  exact h.1

/-- An `MTP` platform that is no PDS leaves `gTarget` unset. -/
theorem detectTarget_mtp (hqca : isQca1530 e = false)
    (hauto : startsWith e.baseband "auto" = false) (hmtp : startsWith e.rd_hw_platform "MTP")
    (hid : ¬ reads e.rd_id "178") (gTarget : UInt32) : detectTarget e gTarget = gTarget := by
  rw [detectTarget, hqca, if_neg Bool.false_ne_true, hauto, if_neg Bool.false_ne_true,
    if_pos hmtp, if_neg hid]

/-- Without an `MTP` platform, a `Liquid` or a `Surf` is a modem if that is readable. -/
theorem detectTarget_modem (hqca : isQca1530 e = false)
    (hauto : startsWith e.baseband "auto" = false)
    (hmtp : startsWith e.rd_hw_platform "MTP" = false)
    (hapq : startsWith e.baseband "apq" = false)
    (hplatform : reads e.rd_hw_platform "Surf" ∨ reads e.rd_hw_platform "Liquid")
    (gTarget : UInt32) :
    detectTarget e gTarget =
      if (readALine e.mdm LINE_LEN).1 = 0 then TARGET_MDM else gTarget := by
  have hreads : (reads e.rd_hw_platform "Liquid" || reads e.rd_hw_platform "Surf" ||
      reads e.rd_hw_platform "MTP") = true := by
    rcases hplatform with h | h <;> rw [h] <;> simp
  rw [detectTarget, hqca, if_neg Bool.false_ne_true, hauto, if_neg Bool.false_ne_true, hmtp,
    if_neg Bool.false_ne_true, hapq, if_neg Bool.false_ne_true, if_pos hreads]

theorem sets_of_defined (h : locGetTarget unsetTarget e ∈ targets) : Sets e := by
  rw [locGetTarget_unset] at h
  refine ⟨?_, ?_⟩
  · intro hqca hauto hmtp
    apply Decidable.by_contra
    intro hid
    rw [detectTarget_mtp hqca hauto hmtp hid] at h
    exact unsetTarget_notMem h
  · intro hqca hauto hmtp hapq hplatform
    apply mdmReadable_iff.mp
    apply Decidable.by_contra
    intro hmdm
    rw [detectTarget_modem hqca hauto hmtp hapq hplatform, if_neg hmdm] at h
    exact unsetTarget_notMem h

/-- Every other branch sets a target. -/
theorem defined_of_sets (h : Sets e) : detectTarget e unsetTarget ∈ targets := by
  rw [detectTarget]
  split
  case isTrue => decide
  case isFalse hqca =>
      rw [Bool.not_eq_true] at hqca
      split
      case isTrue => decide
      case isFalse hauto =>
          rw [Bool.not_eq_true] at hauto
          split
          case isTrue hmtp => rw [if_pos (h.pds hqca hauto hmtp)]; decide
          case isFalse hmtp =>
              have hmtp' := Bool.eq_false_iff.mpr hmtp
              split
              case isTrue => split <;> decide
              case isFalse hapq =>
                  rw [Bool.not_eq_true] at hapq
                  split
                  case isTrue hplatform =>
                      rw [Bool.or_eq_true, Bool.or_eq_true] at hplatform
                      have hmodem : reads e.rd_hw_platform "Surf" ∨
                          reads e.rd_hw_platform "Liquid" := by
                        rcases hplatform with (hliquid | hsurf) | hexact
                        · exact Or.inr hliquid
                        · exact Or.inl hsurf
                        · exact absurd (reads_startsWith hexact) hmtp
                      rw [if_pos (mdmReadable_iff.mpr (h.modem hqca hauto hmtp' hapq hmodem))]
                      decide
                  case isFalse => split <;> decide

/-- What is set is returned from then on. -/
theorem targetsReturned_eq {gTarget : UInt32} (h : gTarget ≠ unsetTarget)
    (later : List Environment) :
    targetsReturned gTarget later = List.replicate later.length gTarget := by
  induction later with
  | nil => rfl
  | cons e later ih =>
      have hkept : locGetTarget gTarget e = gTarget := if_pos h
      rw [targetsReturned, hkept, ih, List.length_cons, List.replicate_succ]

theorem detects_iff (e : Environment) : Detects e ↔ Sets e := by
  constructor
  · exact fun h => sets_of_defined h.defined
  · intro h
    have hdefined : locGetTarget unsetTarget e ∈ targets := by
      rw [locGetTarget_unset]
      exact defined_of_sets h
    refine ⟨hdefined, ?_, ?_⟩
    · intro hlooks hpds hmdm
      have hmtp : startsWith e.rd_hw_platform "MTP" = false := by
        apply Bool.eq_false_iff.mpr
        exact fun hmtp => hpds ⟨hmtp, h.pds hlooks.qca1530 hlooks.auto hmtp⟩
      have hmodem : reads e.rd_hw_platform "Surf" ∨ reads e.rd_hw_platform "Liquid" := by
        rcases hlooks.platform with hexact | hmodem
        · rw [reads_startsWith hexact] at hmtp
          cases hmtp
        · exact hmodem
      rw [locGetTarget_unset, detectTarget_modem hlooks.qca1530 hlooks.auto hmtp hlooks.apq hmodem,
        if_pos (mdmReadable_iff.mpr hmdm)]
    · intro later
      have hset : locGetTarget unsetTarget e ≠ unsetTarget := by
        intro hunset
        rw [hunset] at hdefined
        exact unsetTarget_notMem hdefined
      rw [targetsReturned, targetsReturned_eq hset, List.replicate_succ]

/-- An `MTP` platform with another `soc_id`, whose modem is readable. -/
def mtpBoard : Environment where
  qca1530 := fun _ => some "no".toList
  baseband := "mdm".toList
  hw_platform := .readable "MTP\n".toList
  hw_platform_dep := .absent
  id := .readable "109\n".toList
  id_dep := .absent
  mdm := .readable []

theorem not_detects_mtpBoard :
    locGetTarget unsetTarget mtpBoard = unsetTarget ∧ LooksForMdm mtpBoard ∧
      ¬ IsPds mtpBoard ∧ MdmReadable mtpBoard ∧ ¬ Detects mtpBoard := by
  have hunset : locGetTarget unsetTarget mtpBoard = unsetTarget := by decide +kernel
  refine ⟨hunset, ⟨by decide, by decide, by decide, Or.inl (by decide)⟩, ?_, ⟨[], rfl⟩, ?_⟩
  · rintro ⟨_, hid⟩
    exact absurd hid (by decide)
  · intro h
    have hdefined := h.defined
    rw [hunset] at hdefined
    exact absurd hdefined (by decide)

end G2Common.Utils

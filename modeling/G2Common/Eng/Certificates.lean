import G2Common.CheckedArray
import G2Common.Eng.ConfigUpdate
import G2Common.SetBits

/-!
`loc_eng_agps_install_certificates`: either one message with a copy of all certificates is
sent, or none.
-/

namespace G2Common.Eng

open CheckedArray SetBits

def AGPS_CERTIFICATE_MAX_LENGTH : Nat := 2000

inductive CertificateOperation where
  | AGPS_CERTIFICATE_OPERATION_SUCCESS
  | AGPS_CERTIFICATE_ERROR_GENERIC
  | AGPS_CERTIFICATE_ERROR_TOO_MANY_CERTIFICATES
  deriving DecidableEq, Repr

open CertificateOperation

/-- With as many bytes as its `length` says. -/
structure DerEncodedCertificate where
  data : List UInt8
  deriving DecidableEq, Repr

def DerEncodedCertificate.length (cert : DerEncodedCertificate) : Nat := cert.data.length

structure LocEngInstallAGpsCert (A : Type) where
  mpAdapter : A
  mNumberOfCerts : Nat
  mSlotBitMask : UInt32
  mpData : List DerEncodedCertificate
  deriving DecidableEq, Repr

/-- A new buffer of its length, and `memcpy`. -/
def DerEncodedCertificate.copy (cert : DerEncodedCertificate) : DerEncodedCertificate :=
  ⟨cert.data.take cert.length⟩

/-- The loop of the constructor from `i` on, with `left` certificates still to go. -/
def copyLoop (pData : List DerEncodedCertificate) :
    Nat → Nat → List DerEncodedCertificate → Except Fault (List DerEncodedCertificate)
  | 0, _, mpData => .ok mpData
  | left + 1, i, mpData => do
      let cert ← readAt pData i
      let mpData ← writeAt mpData i cert.copy
      copyLoop pData left (i + 1) mpData

variable {A : Type}

/-- The constructor. -/
def LocEngInstallAGpsCert.new (adapter : A) (pData : List DerEncodedCertificate)
    (numberOfCerts : Nat) (slotBitMask : UInt32) :
    Except Fault (LocEngInstallAGpsCert A) := do
  let mpData ← copyLoop pData numberOfCerts 0 (List.replicate numberOfCerts ⟨[]⟩)
  return ⟨adapter, numberOfCerts, slotBitMask, mpData⟩

theorem and_sub_one_lt {slots : UInt32} (h : slots ≠ 0) :
    (slots &&& (slots - 1)).toNat < slots.toNat := by
  have hpos : 0 < slots.toNat := by
    apply Nat.pos_of_ne_zero
    intro hzero
    exact h (UInt32.toNat_inj.mp hzero)
  have hle : (1 : UInt32) ≤ slots := UInt32.le_iff_toNat_le.mpr hpos
  rw [UInt32.toNat_and, UInt32.toNat_sub_of_le _ _ hle]
  have hand : slots.toNat &&& (slots.toNat - 1) ≤ slots.toNat - 1 := Nat.and_le_right
  exact Nat.lt_of_le_of_lt hand (by omega)

/-- The loop that counts the slots. -/
def countSlots (slotBitMaskCounter slotCount : UInt32) : UInt32 :=
  if h : slotBitMaskCounter = 0 then slotCount
  else countSlots (slotBitMaskCounter &&& (slotBitMaskCounter - 1)) (slotCount + 1)
termination_by slotBitMaskCounter.toNat
decreasing_by exact and_sub_one_lt h

/-- The loop over the lengths from `i` on, with `left` certificates still to go. -/
def checkLengths (certificates : List DerEncodedCertificate) :
    Nat → Nat → CertificateOperation → Except Fault CertificateOperation
  | 0, _, ret_val => .ok ret_val
  | left + 1, i, ret_val => do
      let cert ← readAt certificates i
      if cert.length > AGPS_CERTIFICATE_MAX_LENGTH then return AGPS_CERTIFICATE_ERROR_GENERIC
      else
        checkLengths certificates left (i + 1) ret_val

/-- `loc_eng_agps_install_certificates`: what it returns and the messages sent. -/
def locEngAgpsInstallCertificates (gps_conf : LocGpsCfg) (adapter : Option A)
    (certificates : List DerEncodedCertificate) (numberOfCerts : Nat) :
    Except Fault (CertificateOperation × List (LocEngInstallAGpsCert A)) :=
  let slotBitMask := gps_conf.AGPS_CERT_WRITABLE_MASK
  let slotCount := countSlots slotBitMask 0
  if numberOfCerts = 0 then .ok (AGPS_CERTIFICATE_OPERATION_SUCCESS, [])
  else
    match adapter with
    | none => .ok (AGPS_CERTIFICATE_ERROR_GENERIC, [])
    | some adapter =>
        if slotCount.toNat < numberOfCerts then
          .ok (AGPS_CERTIFICATE_ERROR_TOO_MANY_CERTIFICATES, [])
        else do
          let ret_val ←
            checkLengths certificates numberOfCerts 0 AGPS_CERTIFICATE_OPERATION_SUCCESS
          if ret_val = AGPS_CERTIFICATE_OPERATION_SUCCESS then
            let msg ← LocEngInstallAGpsCert.new adapter certificates numberOfCerts slotBitMask
            return (ret_val, [msg])
          else return (ret_val, [])

variable {done todo fresh certificates : List DerEncodedCertificate} {adapter : A}

/-- Each turn takes one set bit away. -/
theorem countSlots_toNat (slotBitMaskCounter slotCount : UInt32) :
    (countSlots slotBitMaskCounter slotCount).toNat =
      (slotCount.toNat + setBits 32 slotBitMaskCounter.toNat) % 2 ^ 32 := by
  fun_induction countSlots slotBitMaskCounter slotCount with
  | case1 slotCount =>
      rw [UInt32.toNat_zero, setBits_zero, Nat.add_zero]
      exact (Nat.mod_eq_of_lt slotCount.toNat_lt).symm
  | case2 slots slotCount h ih =>
      have hpos : 0 < slots.toNat := by
        apply Nat.pos_of_ne_zero
        intro hzero
        exact h (UInt32.toNat_inj.mp hzero)
      have hle : (1 : UInt32) ≤ slots := UInt32.le_iff_toNat_le.mpr hpos
      have hbits := setBits_and_sub_one hpos slots.toNat_lt
      rw [ih, UInt32.toNat_and, UInt32.toNat_sub_of_le _ _ hle, UInt32.toNat_add, ← hbits]
      change ((slotCount.toNat + 1) % 2 ^ 32 + setBits 32 (slots.toNat &&& (slots.toNat - 1))) %
        2 ^ 32 = _
      rw [Nat.mod_add_mod]
      congr 1
      omega

theorem countSlots_eq (slotBitMask : UInt32) :
    (countSlots slotBitMask 0).toNat = setBits 32 slotBitMask.toNat := by
  have hle : setBits 32 slotBitMask.toNat ≤ 32 := setBits_le 32 slotBitMask.toNat
  rw [countSlots_toNat, UInt32.toNat_zero, Nat.zero_add]
  apply Nat.mod_eq_of_lt
  omega

theorem copyLoop_eq (hlength : fresh.length = todo.length) :
    copyLoop (done ++ todo) todo.length done.length (done ++ fresh) = .ok (done ++ todo) := by
  induction todo generalizing done fresh with
  | nil => rw [List.length_eq_zero_iff.mp hlength, List.length_nil, copyLoop]
  | cons cert todo ih =>
      obtain ⟨x, fresh, rfl⟩ := List.exists_cons_of_length_eq_add_one hlength
      have hcopy : cert.copy = cert := by
        rw [DerEncodedCertificate.copy, DerEncodedCertificate.length, List.take_length]
      have hrest := @ih (done ++ [cert]) fresh (Nat.succ.inj hlength)
      rw [List.append_assoc, List.append_assoc, List.singleton_append, List.singleton_append,
        List.length_append, List.length_singleton] at hrest
      rw [List.length_cons, copyLoop, readAt_append_cons, ok_bind, writeAt_append_cons, ok_bind,
        hcopy]
      exact hrest

/-- The message has the certificates as they are. -/
theorem new_eq (adapter : A) (certificates : List DerEncodedCertificate) (slotBitMask : UInt32) :
    LocEngInstallAGpsCert.new adapter certificates certificates.length slotBitMask =
      .ok ⟨adapter, certificates.length, slotBitMask, certificates⟩ := by
  have hcopy := @copyLoop_eq [] certificates (List.replicate certificates.length ⟨[]⟩)
    List.length_replicate
  rw [List.nil_append, List.nil_append, List.length_nil] at hcopy
  rw [LocEngInstallAGpsCert.new, hcopy]
  rfl

theorem checkLengths_eq (ret_val : CertificateOperation) :
    checkLengths (done ++ todo) todo.length done.length ret_val =
      .ok (if ∀ cert ∈ todo, cert.length ≤ AGPS_CERTIFICATE_MAX_LENGTH then ret_val
        else AGPS_CERTIFICATE_ERROR_GENERIC) := by
  induction todo generalizing done with
  | nil => rw [if_pos (fun cert hcert => absurd hcert List.not_mem_nil)]; rfl
  | cons cert todo ih =>
      have hrest := @ih (done ++ [cert])
      rw [List.append_assoc, List.singleton_append, List.length_append,
        List.length_singleton] at hrest
      rw [List.length_cons, checkLengths, readAt_append_cons, ok_bind, hrest]
      simp only [List.forall_mem_cons]
      split
      case isTrue hlong => rw [if_neg (fun h => absurd h.1 (Nat.not_le.mpr hlong))]; rfl
      case isFalse hshort => simp only [Nat.not_lt.mp hshort, true_and]

/-- The certificates can be installed. -/
def Accepted (gps_conf : LocGpsCfg) (adapter : Option A)
    (certificates : List DerEncodedCertificate) : Prop :=
  0 < certificates.length ∧ adapter.isSome ∧
    certificates.length ≤ setBits 32 gps_conf.AGPS_CERT_WRITABLE_MASK.toNat ∧
    ∀ cert ∈ certificates, cert.length ≤ AGPS_CERTIFICATE_MAX_LENGTH

def TooMany (gps_conf : LocGpsCfg) (adapter : Option A)
    (certificates : List DerEncodedCertificate) : Prop :=
  0 < certificates.length ∧ adapter.isSome ∧
    setBits 32 gps_conf.AGPS_CERT_WRITABLE_MASK.toNat < certificates.length

theorem locEngAgpsInstallCertificates_eq (gps_conf : LocGpsCfg) (adapter : A)
    (certificates : List DerEncodedCertificate) :
    locEngAgpsInstallCertificates gps_conf (some adapter) certificates certificates.length =
      .ok (if certificates.length = 0 then (AGPS_CERTIFICATE_OPERATION_SUCCESS, [])
        else if setBits 32 gps_conf.AGPS_CERT_WRITABLE_MASK.toNat < certificates.length then
          (AGPS_CERTIFICATE_ERROR_TOO_MANY_CERTIFICATES, [])
        else if ∀ cert ∈ certificates, cert.length ≤ AGPS_CERTIFICATE_MAX_LENGTH then
          (AGPS_CERTIFICATE_OPERATION_SUCCESS,
            [⟨adapter, certificates.length, gps_conf.AGPS_CERT_WRITABLE_MASK, certificates⟩])
        else (AGPS_CERTIFICATE_ERROR_GENERIC, [])) := by
  have hcheck := @checkLengths_eq [] certificates AGPS_CERTIFICATE_OPERATION_SUCCESS
  rw [List.nil_append, List.length_nil] at hcheck
  rw [locEngAgpsInstallCertificates, countSlots_eq, hcheck]
  split
  case isTrue => rfl
  case isFalse =>
      split
      case isTrue => rfl
      case isFalse =>
          split
          case isTrue => rw [ok_bind, if_pos rfl, new_eq]; rfl
          case isFalse => rfl

/-- One message with all certificates, or none, and the result says which. -/
theorem install_all_or_nothing (gps_conf : LocGpsCfg) (adapter : Option A)
    (certificates : List DerEncodedCertificate) :
    ∃ ret_val sent,
      locEngAgpsInstallCertificates gps_conf adapter certificates certificates.length =
        .ok (ret_val, sent) ∧
      (Accepted gps_conf adapter certificates → ∃ a, adapter = some a ∧
        sent = [⟨a, certificates.length, gps_conf.AGPS_CERT_WRITABLE_MASK, certificates⟩]) ∧
      (¬ Accepted gps_conf adapter certificates → sent = []) ∧
      (ret_val = AGPS_CERTIFICATE_OPERATION_SUCCESS ↔
        certificates.length = 0 ∨ Accepted gps_conf adapter certificates) ∧
      (ret_val = AGPS_CERTIFICATE_ERROR_TOO_MANY_CERTIFICATES ↔
        TooMany gps_conf adapter certificates) ∧
      (ret_val = AGPS_CERTIFICATE_ERROR_GENERIC ↔
        ¬ (certificates.length = 0 ∨ Accepted gps_conf adapter certificates) ∧
          ¬ TooMany gps_conf adapter certificates) := by
  cases adapter with
  | none =>
      have haccepted : ¬ Accepted gps_conf (none : Option A) certificates :=
        fun h => Bool.false_ne_true h.2.1
      have hmany : ¬ TooMany gps_conf (none : Option A) certificates :=
        fun h => Bool.false_ne_true h.2.1
      by_cases hzero : certificates.length = 0
      · refine ⟨_, _, if_pos hzero, ?_⟩
        simp [haccepted, hmany, hzero]
      · refine ⟨_, _, if_neg hzero, ?_⟩
        simp [haccepted, hmany, hzero]
  | some adapter =>
      have hrun := locEngAgpsInstallCertificates_eq gps_conf adapter certificates
      split at hrun
      case isTrue hzero =>
          have haccepted : ¬ Accepted gps_conf (some adapter) certificates :=
            fun h => Nat.ne_of_gt h.1 hzero
          have hmany : ¬ TooMany gps_conf (some adapter) certificates :=
            fun h => Nat.ne_of_gt h.1 hzero
          refine ⟨_, _, hrun, ?_⟩
          simp [haccepted, hmany, hzero]
      case isFalse hzero =>
          split at hrun
          case isTrue hslots =>
              have haccepted : ¬ Accepted gps_conf (some adapter) certificates :=
                fun h => Nat.not_le.mpr hslots h.2.2.1
              have hmany : TooMany gps_conf (some adapter) certificates :=
                ⟨Nat.pos_of_ne_zero hzero, rfl, hslots⟩
              refine ⟨_, _, hrun, ?_⟩
              simp [haccepted, hmany, hzero]
          case isFalse hslots =>
              have hmany : ¬ TooMany gps_conf (some adapter) certificates :=
                fun h => hslots h.2.2
              split at hrun
              case isTrue hlengths =>
                  have haccepted : Accepted gps_conf (some adapter) certificates :=
                    ⟨Nat.pos_of_ne_zero hzero, rfl, Nat.not_lt.mp hslots, hlengths⟩
                  refine ⟨_, _, hrun, ?_⟩
                  simp [haccepted, hmany]
              case isFalse hlengths =>
                  have haccepted : ¬ Accepted gps_conf (some adapter) certificates :=
                    fun h => hlengths h.2.2.2
                  refine ⟨_, _, hrun, ?_⟩
                  simp [haccepted, hmany, hzero]

end G2Common.Eng

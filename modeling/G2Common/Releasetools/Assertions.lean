import G2Common.Pattern
import G2Common.Recovery.TrustZone

/-!
The assertions that `releasetools.py` writes into the script of an update, and what they come to
on a device. The packages are given by their `OTA/android-info.txt`. The interpreter of the script
is not part of the repository; the function that it calls for `g2.verify_trustzone` is.
-/

namespace G2Common.Releasetools

open CString Pattern Recovery StringSearch

def ascii (text : String) : List UInt8 := text.toList.map (fun c => UInt8.ofNat c.toNat)

/-- `\s` and `\S` of a pattern. -/
def isSpace (c : UInt8) : Bool := c ∈ [0x20, 0x09, 0x0A, 0x0D, 0x0C, 0x0B]

def isNonSpace (c : UInt8) : Bool := !isSpace c

/-- `re.search(r"require\s+NAME\s*=\s*(\S+)", android_info)`, and its group. -/
def requirement (name : List UInt8) : List UInt8 → Option (List UInt8) :=
  search (literal (ascii "require") (plus isSpace (literal name (star isSpace
    (literal (ascii "=") (star isSpace (group (plus isNonSpace))))))))

/-- What the functions use of `info`: the packages, where it has them, and what they record. -/
structure Info where
  input_zip : Option (List UInt8)
  target_zip : Option (List UInt8)
  script : List (List UInt8)
  preBootloader : Option (List UInt8)

def appendExtra (info : Info) (line : List UInt8) : Info :=
  { info with script := info.script ++ [line] }

/-- `m.group(1).split("|")`. -/
def alternatives (value : List UInt8) : List (List UInt8) := value.splitOn 0x7C

def quoted (text : List UInt8) : List UInt8 := 0x22 :: text ++ [0x22]

/-- The line of `AssertPartitionChecksum`. -/
def checksumAssertion (part : List UInt8) (size : Nat) (checksums : List (List UInt8)) :
    List UInt8 :=
  ascii "assert(" ++
    (ascii " || ").intercalate (checksums.map fun c =>
      ascii "sha1_check(read_file(\"EMMC:" ++ part ++ ascii ":" ++
        ascii (toString size) ++ ascii ":" ++ c ++ ascii "\")) != \"\"") ++
    (ascii " || abort(\"Invalid checksum for partition " ++ part ++ ascii "\")") ++ ascii ");"

def aboot : List UInt8 := ascii "/dev/block/platform/msm_sdcc.1/by-name/aboot"

def addBootloaderAssertion (info : Info) (input_zip : List UInt8) : Info :=
  match requirement (ascii "version-bootloader") input_zip with
  | none => info
  | some value =>
      let checked :=
        if ascii "*" ∈ alternatives value then info
        else appendExtra info (checksumAssertion aboot 1048576 (alternatives value))
      { checked with preBootloader := some value }

/-- The command of `AddTrustZoneAssertion`. -/
def trustZoneAssertion (versions : List (List UInt8)) : List UInt8 :=
  ascii "assert(g2.verify_trustzone(" ++ (ascii ",").intercalate (versions.map quoted) ++
    ascii ") == \"1\");"

/-- It reads the package of `info`, whatever it is given. -/
def addTrustZoneAssertion (info : Info) (_input_zip : List UInt8) : Option Info := do
  let android_info ← info.input_zip
  match requirement (ascii "version-trustzone") android_info with
  | none => some info
  | some value =>
      let versions := alternatives value
      if versions.length ≠ 0 ∧ ascii "*" ∉ versions
      then some (appendExtra info (trustZoneAssertion versions))
      else some info

/-- `none` where `info` lacks a package. -/
def fullOTAAssertions (info : Info) : Option Info := do
  let input_zip ← info.input_zip
  let checked := addBootloaderAssertion info input_zip
  addTrustZoneAssertion checked (← checked.input_zip)

def incrementalOTAAssertions (info : Info) : Option Info := do
  let checked := addBootloaderAssertion info (← info.input_zip)
  addTrustZoneAssertion checked (← checked.target_zip)

theorem alternatives_ne_nil (value : List UInt8) : alternatives value ≠ [] :=
  List.splitOn_ne_nil _ _

/-- The text starts with the requirement. -/
def Requires (name value text : List UInt8) : Prop :=
  ∃ s₁ s₂ s₃ rest, text = ascii "require" ++ (s₁ ++ (name ++ (s₂ ++ (ascii "=" ++ (s₃ ++ rest))))) ∧
    s₁ ≠ [] ∧ (∀ c ∈ s₁ ++ s₂ ++ s₃, isSpace c = true) ∧
    value = rest.takeWhile isNonSpace ∧ value ≠ []

/-- The first place of the text that has the requirement. -/
def FirstRequirement (name value text : List UInt8) : Prop :=
  ∃ after, after <:+ text ∧ Requires name value after ∧
    ∀ earlier, earlier <:+ text → after.length < earlier.length →
      ∀ other, ¬ Requires name other earlier

/-- The pattern at one place of the text. -/
theorem requires_iff {c : UInt8} {s value text : List UInt8} (hc : ¬ isSpace c = true) :
    literal (ascii "require") (plus isSpace (literal (c :: s) (star isSpace
      (literal (ascii "=") (star isSpace (group (plus isNonSpace))))))) text = some value ↔
    Requires (c :: s) value text := by
  have hname (next) : Excludes isSpace (literal (c :: s) next : List UInt8 → Option (List UInt8)) :=
    excludes_literal hc
  have hequals (next) :
      Excludes isSpace (literal (ascii "=") next : List UInt8 → Option (List UInt8)) :=
    excludes_literal (by decide)
  have hvalue : Excludes isSpace (group (plus isNonSpace)) := by
    apply excludes_group
    intro c hc
    rw [isNonSpace, hc]
    exact Bool.false_ne_true
  rw [Requires]
  generalize ascii "require" = require
  generalize ascii "=" = equals at hequals ⊢
  constructor
  · intro h
    obtain ⟨_, rfl, h₁⟩ := literal_eq_some.mp h
    obtain ⟨s₁, _, rfl, hne, hs₁, h₂⟩ := (plus_eq_some (hname _)).mp h₁
    obtain ⟨_, rfl, h₃⟩ := literal_eq_some.mp h₂
    obtain ⟨s₂, _, rfl, hs₂, h₄⟩ := (star_eq_some (hequals _)).mp h₃
    obtain ⟨_, rfl, h₅⟩ := literal_eq_some.mp h₄
    obtain ⟨s₃, rest, rfl, hs₃, h₆⟩ := (star_eq_some hvalue).mp h₅
    refine ⟨s₁, s₂, s₃, rest, rfl, hne, ?_, group_plus.mp h₆⟩
    simp only [List.forall_mem_append]
    exact ⟨⟨hs₁, hs₂⟩, hs₃⟩
  · rintro ⟨s₁, s₂, s₃, rest, rfl, hne, hs, h⟩
    simp only [List.forall_mem_append] at hs
    obtain ⟨⟨hs₁, hs₂⟩, hs₃⟩ := hs
    refine literal_eq_some.mpr ⟨_, rfl, (plus_eq_some (hname _)).mpr ⟨s₁, _, rfl, hne, hs₁, ?_⟩⟩
    refine literal_eq_some.mpr ⟨_, rfl, (star_eq_some (hequals _)).mpr ⟨s₂, _, rfl, hs₂, ?_⟩⟩
    exact literal_eq_some.mpr ⟨_, rfl, (star_eq_some hvalue).mpr ⟨s₃, rest, rfl, hs₃,
      group_plus.mpr h⟩⟩

theorem requirement_eq_some (name : List UInt8) {value text : List UInt8}
    (hname : name.head?.map isSpace = some false) :
    requirement name text = some value ↔ FirstRequirement name value text := by
  cases name with
  | nil => cases hname
  | cons c s =>
      have hc : ¬ isSpace c = true := by
        rw [Option.some_inj.mp hname]
        exact Bool.false_ne_true
      rw [requirement, search_eq_some, FirstRequirement]
      simp only [requires_iff hc, Option.eq_none_iff_forall_ne_some, ne_eq]

section Lines

variable {info : Info} {zip line : List UInt8}

theorem mem_addBootloaderAssertion :
    line ∈ (addBootloaderAssertion info zip).script ↔ line ∈ info.script ∨
      ∃ value, FirstRequirement (ascii "version-bootloader") value zip ∧
        ascii "*" ∉ alternatives value ∧
        line = checksumAssertion aboot 1048576 (alternatives value) := by
  simp only [← requirement_eq_some (ascii "version-bootloader") (by decide)]
  unfold addBootloaderAssertion
  split
  case h_1 hnone => simp [hnone]
  case h_2 value hvalue =>
    rw [hvalue]
    dsimp only
    split
    case isTrue hany => simp [hany]
    case isFalse hany => simp [appendExtra, hany]

theorem input_zip_addBootloaderAssertion (info : Info) (zip : List UInt8) :
    (addBootloaderAssertion info zip).input_zip = info.input_zip ∧
      (addBootloaderAssertion info zip).target_zip = info.target_zip := by
  unfold addBootloaderAssertion
  split
  case h_1 => exact ⟨rfl, rfl⟩
  case h_2 =>
    dsimp only
    split
    all_goals exact ⟨rfl, rfl⟩

theorem mem_addTrustZoneAssertion (hzip : info.input_zip = some zip) (other : List UInt8) :
    ∃ info', addTrustZoneAssertion info other = some info' ∧
      ∀ line, line ∈ info'.script ↔ line ∈ info.script ∨
        ∃ value, FirstRequirement (ascii "version-trustzone") value zip ∧
          ascii "*" ∉ alternatives value ∧ line = trustZoneAssertion (alternatives value) := by
  simp only [← requirement_eq_some (ascii "version-trustzone") (by decide)]
  rw [addTrustZoneAssertion, hzip, Option.bind_eq_bind, Option.bind_some]
  split
  case h_1 hnone => exact ⟨info, rfl, fun line => by simp [hnone]⟩
  case h_2 value hvalue =>
    dsimp only
    split
    case isTrue hany =>
      refine ⟨_, rfl, ?_⟩
      intro line
      simp [appendExtra, hvalue, hany.2]
    case isFalse hany =>
      refine ⟨_, rfl, ?_⟩
      intro line
      have hstar : ascii "*" ∈ alternatives value := by
        by_contra hstar
        exact hany ⟨(List.length_pos_of_ne_nil (alternatives_ne_nil value)).ne', hstar⟩
      simp [hvalue, hstar]

end Lines

/-- A byte that stands for itself in a string of the script. -/
def Plain (c : UInt8) : Prop := c ≠ 0 ∧ c ≠ 0x22 ∧ c ≠ 0x5C

instance (c : UInt8) : Decidable (Plain c) := inferInstanceAs (Decidable (_ ∧ _ ∧ _))

/-- With the function that it calls for `g2.verify_trustzone`, the interpreter tells whether it
goes on behind a line. -/
structure Interprets (edify : (List (List UInt8) → Option Value) → List UInt8 → Bool) :
    Prop where
  trustZone : ∀ verify versions, versions ≠ [] → (∀ v ∈ versions, ∀ c ∈ v, Plain c) →
    (edify verify (trustZoneAssertion versions) = true ↔ verify versions = some (.string "1"))

/-- The function on a device. -/
def verifyOn (tz_data : Nat → UInt8) (stack : List UInt8) (versions : List (List UInt8)) :
    Option Value :=
  verifyTrustZoneFn "g2.verify_trustzone" (.mapped tz_data) stack (some versions)

/-- The text behind the first marker of the image. -/
def HasVersion (tz_data : Nat → UInt8) (version : List UInt8) : Prop :=
  ∃ s, OccursAt (image tz_data) TZ_VER_STR s ∧
    (∀ r < s, ¬ OccursAt (image tz_data) TZ_VER_STR r) ∧
    version = cString (bytesAt tz_data (s + TZ_VER_STR_LEN) TZ_VER_BUF_LEN)

/-- What a package requires of a device. -/
structure RequirementsMet (goesOn : List UInt8 → Bool) (zip : List UInt8)
    (tz_data : Nat → UInt8) : Prop where
  bootloader : ∀ value, FirstRequirement (ascii "version-bootloader") value zip →
    ascii "*" ∉ alternatives value →
      goesOn (checksumAssertion aboot 1048576 (alternatives value)) = true
  trustZone : ∀ value, FirstRequirement (ascii "version-trustzone") value zip →
    ascii "*" ∈ alternatives value ∨
      ∃ version, HasVersion tz_data version ∧ ∃ v ∈ alternatives value, v <+: version

theorem HasVersion.eq {tz_data : Nat → UInt8} {version other : List UInt8}
    (h : HasVersion tz_data version) (hother : HasVersion tz_data other) : version = other := by
  obtain ⟨s, hocc, hbelow, rfl⟩ := h
  obtain ⟨r, hocc', hbelow', rfl⟩ := hother
  rcases Nat.lt_trichotomy s r with hlt | rfl | hgt
  · exact absurd hocc (hbelow' s hlt)
  · rfl
  · exact absurd hocc' (hbelow r hgt)

theorem verifyOn_iff {tz_data : Nat → UInt8} {versions : List (List UInt8)} (stack : List UInt8)
    (hversions : ∀ v ∈ versions, 0 ∉ v ∧ v.length < TZ_VER_BUF_LEN) :
    verifyOn tz_data stack versions = some (.string "1") ↔
      ∃ version, HasVersion tz_data version ∧ ∃ v ∈ versions, v <+: version := by
  by_cases hmarker : ∃ s, OccursAt (image tz_data) TZ_VER_STR s
  · obtain ⟨s, hocc, hbelow⟩ : ∃ s, OccursAt (image tz_data) TZ_VER_STR s ∧
        ∀ r < s, ¬ OccursAt (image tz_data) TZ_VER_STR r :=
      ⟨Nat.find hmarker, Nat.find_spec hmarker, fun _ hr => Nat.find_min hmarker hr⟩
    have hversion : HasVersion tz_data _ := ⟨s, hocc, hbelow, rfl⟩
    rw [verifyOn, verifyTrustZoneFn_found _ _ hversions
      (firstOccurrence_eq_some (by decide) hocc hbelow), Option.some_inj, Value.string.injEq]
    constructor
    · intro h
      split at h
      case isTrue hany => exact ⟨_, hversion, hany⟩
      case isFalse => exact absurd h (by decide)
    · rintro ⟨version, hother, hany⟩
      rw [← hversion.eq hother] at hany
      rw [if_pos hany]
  · have hnone : ∀ s, ¬ OccursAt (image tz_data) TZ_VER_STR s := not_exists.mp hmarker
    rw [verifyOn, verifyTrustZoneFn_missing _ _ _ (firstOccurrence_eq_none hnone),
      Option.some_inj]
    constructor
    · intro h
      cases h
    · rintro ⟨_, ⟨s, hocc, -⟩, -⟩
      exact absurd hocc (hnone s)

/-- An update that requires versions of the TrustZone goes on exactly on the devices whose version
begins with one of them, or on all if one is an asterisk. An incremental update gets the same
script, whatever its own package requires. -/
theorem update_asserts_version {edify : (List (List UInt8) → Option Value) → List UInt8 → Bool}
    (hedify : Interprets edify) {info : Info} {zip : List UInt8}
    (hzip : info.input_zip = some zip)
    (hplain : ∀ value, FirstRequirement (ascii "version-trustzone") value zip →
      ∀ v ∈ alternatives value, v.length < TZ_VER_BUF_LEN ∧ ∀ c ∈ v, Plain c)
    (tz_data : Nat → UInt8) (stack : List UInt8) :
    ∃ info', fullOTAAssertions info = some info' ∧
      (info.target_zip.isSome → incrementalOTAAssertions info = some info') ∧
      ((∀ line ∈ info'.script, edify (verifyOn tz_data stack) line = true) ↔
        (∀ line ∈ info.script, edify (verifyOn tz_data stack) line = true) ∧
          RequirementsMet (edify (verifyOn tz_data stack)) zip tz_data) := by
  have hchecked := input_zip_addBootloaderAssertion info zip
  have hzip' : (addBootloaderAssertion info zip).input_zip = some zip := hchecked.1.trans hzip
  obtain ⟨info', hinfo, hlines⟩ := mem_addTrustZoneAssertion hzip' zip
  have hverify : ∀ value, FirstRequirement (ascii "version-trustzone") value zip →
      (edify (verifyOn tz_data stack) (trustZoneAssertion (alternatives value)) = true ↔
        ∃ version, HasVersion tz_data version ∧ ∃ v ∈ alternatives value, v <+: version) := by
    intro value hvalue
    rw [hedify.trustZone _ _ (alternatives_ne_nil value)
      fun v hv => (hplain value hvalue v hv).2]
    apply verifyOn_iff
    intro v hv
    obtain ⟨hlength, hbytes⟩ := hplain value hvalue v hv
    exact ⟨fun hzero => (hbytes 0 hzero).1 rfl, hlength⟩
  refine ⟨info', ?_, ?_, ?_⟩
  · rw [fullOTAAssertions, hzip, Option.bind_eq_bind, Option.bind_some]
    dsimp only
    rw [hzip']
    exact hinfo
  · intro htarget
    obtain ⟨target, htarget⟩ := Option.isSome_iff_exists.mp htarget
    rw [incrementalOTAAssertions, hzip, Option.bind_eq_bind, Option.bind_some]
    dsimp only
    rw [hchecked.2.trans htarget]
    exact hinfo
  · simp only [hlines, mem_addBootloaderAssertion]
    constructor
    · intro h
      refine ⟨fun line hline => h line (.inl (.inl hline)), ?_, ?_⟩
      · intro value hvalue hstar
        exact h _ (.inl (.inr ⟨value, hvalue, hstar, rfl⟩))
      · intro value hvalue
        by_cases hstar : ascii "*" ∈ alternatives value
        · exact .inl hstar
        · exact .inr ((hverify value hvalue).mp (h _ (.inr ⟨value, hvalue, hstar, rfl⟩)))
    · rintro ⟨hscript, ⟨hbootloader, htrustZone⟩⟩ line
        ((hline | ⟨value, hvalue, hstar, rfl⟩) | ⟨value, hvalue, hstar, rfl⟩)
      · exact hscript line hline
      · exact hbootloader value hvalue hstar
      · apply (hverify value hvalue).mpr
        exact (htrustZone value hvalue).resolve_left hstar

def everySecond : List (List UInt8) → List (List UInt8)
  | _ :: text :: rest => text :: everySecond rest
  | _ => []

/-- The strings that a line holds. -/
def strings (line : List UInt8) : List (List UInt8) := everySecond (line.splitOn 0x22)

/-- It knows no other function, and takes the lines that do not call this one for done. -/
def runLine (verify : List (List UInt8) → Option Value) (line : List UInt8) : Bool :=
  if (ascii "assert(g2.verify_trustzone(").isPrefixOf line
  then verify (strings line).dropLast = some (.string "1") else true

/-- What stands between the quotes of the line after its first version. -/
def behind : List (List UInt8) → List (List UInt8)
  | [] => [ascii ") == ", ascii "1", ascii ");"]
  | v :: rest => ascii "," :: v :: behind rest

theorem intercalate_behind (start v : List UInt8) (rest : List (List UInt8)) :
    start ++ (ascii ",").intercalate ((v :: rest).map quoted) ++ ascii ") == \"1\");" =
      [0x22].intercalate (start :: v :: behind rest) := by
  induction rest generalizing start v with
  | nil =>
      have htail : ascii ") == \"1\");" =
        ascii ") == " ++ ([0x22] ++ (ascii "1" ++ ([0x22] ++ ascii ");"))) := by decide
      rw [htail]
      simp [behind, quoted, List.intercalate]
  | cons w rest ih =>
      have hnext := ih (ascii ",") w
      rw [behind, List.intercalate_cons_cons, List.intercalate_cons_cons, ← hnext]
      simp only [List.map_cons, List.intercalate_cons_cons, quoted, List.append_assoc,
        List.cons_append, List.nil_append]

theorem everySecond_behind (versions : List (List UInt8)) :
    everySecond (behind versions) = versions ++ [ascii "1"] := by
  induction versions with
  | nil => rfl
  | cons v rest ih => rw [behind, everySecond, ih, List.cons_append]

/-- It reads back the versions that were written. -/
theorem strings_trustZoneAssertion {versions : List (List UInt8)} (hne : versions ≠ [])
    (hversions : ∀ v ∈ versions, 0x22 ∉ v) :
    strings (trustZoneAssertion versions) = versions ++ [ascii "1"] := by
  obtain ⟨v, rest, rfl⟩ := List.exists_cons_of_ne_nil hne
  have hbehind (rest : List (List UInt8)) (h : ∀ v ∈ rest, 0x22 ∉ v) :
      ∀ text ∈ behind rest, 0x22 ∉ text := by
    induction rest with
    | nil => decide
    | cons w rest ih =>
        obtain ⟨hw, hrest⟩ := List.forall_mem_cons.mp h
        rw [behind, List.forall_mem_cons, List.forall_mem_cons]
        exact ⟨by decide, hw, ih hrest⟩
  obtain ⟨hv, hrest⟩ := List.forall_mem_cons.mp hversions
  rw [strings, trustZoneAssertion, intercalate_behind, List.splitOn_intercalate]
  · rw [everySecond, everySecond_behind, List.cons_append]
  · rw [List.forall_mem_cons, List.forall_mem_cons]
    exact ⟨by decide, hv, hbehind rest hrest⟩
  · exact List.cons_ne_nil _ _

theorem interprets_runLine : Interprets runLine where
  trustZone verify versions hne hplain := by
    have hstart :
        (ascii "assert(g2.verify_trustzone(").isPrefixOf (trustZoneAssertion versions) := by
      rw [trustZoneAssertion, List.isPrefixOf_iff_prefix, List.append_assoc]
      exact List.prefix_append _ _
    have hstrings := strings_trustZoneAssertion hne
      fun v hv hquote => (hplain v hv _ hquote).2.1 rfl
    rw [runLine, if_pos hstart, hstrings, List.dropLast_concat, decide_eq_true_iff]

/-- A package for two versions. -/
def twoVersions : List UInt8 := ascii "board=g2\nrequire version-trustzone = A|BB\n"

/-- On a device whose version is a row of the letter B. -/
theorem update_asserts_version_two :
    ∃ info', fullOTAAssertions ⟨some twoVersions, none, [], none⟩ = some info' ∧
      ((none : Option (List UInt8)).isSome →
        incrementalOTAAssertions ⟨some twoVersions, none, [], none⟩ = some info') ∧
      ((∀ line ∈ info'.script,
          runLine (verifyOn (fun n => TZ_VER_STR.getD n 66) []) line = true) ↔
        (∀ line ∈ ([] : List (List UInt8)),
          runLine (verifyOn (fun n => TZ_VER_STR.getD n 66) []) line = true) ∧
        RequirementsMet (runLine (verifyOn (fun n => TZ_VER_STR.getD n 66) [])) twoVersions
          (fun n => TZ_VER_STR.getD n 66)) := by
  have hrequired : requirement (ascii "version-trustzone") twoVersions = some (ascii "A|BB") := by
    decide +kernel
  apply update_asserts_version interprets_runLine rfl
  intro value hvalue
  rw [← requirement_eq_some _ (by decide), hrequired, Option.some_inj] at hvalue
  rw [← hvalue]
  decide +kernel

/-- An alternative that is left empty is met by every device. -/
example : alternatives (ascii "A|") = [ascii "A", []] := by decide

end G2Common.Releasetools

import G2Common.Decimal
import Mathlib.Data.List.Basic

/-!
The text of a sentence in `loc_eng_nmea.cpp`, as it grows in its buffer. Each segment is
printed with the space that is left and checked, and the first that does not fit ends the
function. A sentence stands without its checksum.
-/

namespace G2Common.Nmea

def NMEA_SENTENCE_MAX_LENGTH : Nat := 200

/-- A segment behind the text, where it fits with its NUL. -/
def append (text segment : List Char) : Option (List Char) :=
  if segment.length < NMEA_SENTENCE_MAX_LENGTH - text.length then some (text ++ segment)
  else none

/-- The last segment of most sentences is not checked, but cut. -/
def appendLast (text segment : List Char) : List Char :=
  text ++ segment.take (NMEA_SENTENCE_MAX_LENGTH - text.length - 1)

/-- A sentence of checked segments and a last one. -/
def sentence (segments : List (List Char)) (last : List Char) : Option (List Char) :=
  (segments.foldlM append []).map (appendLast · last)

/-- `"%0*d"` of an `int`, with the width. -/
def printInt (width : Nat) (i : Int) : List Char :=
  let sign := if i < 0 then ['-'] else []
  let digits := Nat.toDigits 10 i.natAbs
  sign ++ List.replicate (width - sign.length - digits.length) '0' ++ digits

/-- Fields with a comma behind each. -/
def commas (fs : List (List Char)) : List Char := fs.flatMap (· ++ [','])

/-- The sentences up to the first that does not fit, which ends the function, and whether the
function goes on. -/
def sendAll : List (Option (List Char)) → List (List Char) × Bool
  | [] => ([], true)
  | none :: _ => ([], false)
  | some text :: rest => (text :: (sendAll rest).1, (sendAll rest).2)

/-- The fields between the commas. -/
def fields : List Char → List (List Char)
  | [] => [[]]
  | c :: text =>
      if c = ',' then [] :: fields text
      else
        match fields text with
        | [] => [[c]]
        | field :: rest => (c :: field) :: rest

section PrintInt

open Decimal

theorem printInt_natCast (width n : Nat) : printInt width n = padded width n := by
  rw [printInt, if_neg (by omega), List.length_nil, Nat.sub_zero, List.nil_append]
  rfl

theorem printInt_neg {i : Int} (width : Nat) (hi : i < 0) :
    printInt width i = '-' :: padded (width - 1) i.natAbs := by
  rw [printInt, if_pos hi]
  rfl

theorem comma_notMem_printInt (width : Nat) (i : Int) : ',' ∉ printInt width i := by
  rcases Int.lt_or_le i 0 with hneg | hnonneg
  · rw [printInt_neg width hneg, List.mem_cons, not_or]
    exact ⟨by decide, notMem_padded rfl _ _⟩
  · obtain ⟨n, rfl⟩ := Int.eq_ofNat_of_zero_le hnonneg
    rw [printInt_natCast]
    exact notMem_padded rfl width n

theorem readInt_printInt (width : Nat) (i : Int) : readInt (printInt width i) = some i := by
  rcases Int.lt_or_le i 0 with hneg | hnonneg
  · rw [printInt_neg width hneg, readInt_minus]
    exact congrArg some (by omega)
  · obtain ⟨n, rfl⟩ := Int.eq_ofNat_of_zero_le hnonneg
    rw [printInt_natCast, readInt_padded]

theorem printInt_ne_nil (width : Nat) (i : Int) : printInt width i ≠ [] := by
  intro hnil
  have hread := readInt_printInt width i
  rw [hnil] at hread
  cases hread

end PrintInt

section Append

variable {text segment last t : List Char} {segments : List (List Char)}

theorem append_eq_some :
    append text segment = some t ↔
      t = text ++ segment ∧ t.length < NMEA_SENTENCE_MAX_LENGTH := by
  rw [append]
  split
  case isTrue h =>
    rw [Option.some.injEq, eq_comm]
    apply (and_iff_left_of_imp _).symm
    rintro rfl
    rw [List.length_append]
    omega
  case isFalse h =>
    apply iff_of_false (by simp)
    rintro ⟨rfl, hlt⟩
    rw [List.length_append] at hlt
    omega

theorem foldlM_append (h : (text ++ segments.flatten).length < NMEA_SENTENCE_MAX_LENGTH) :
    segments.foldlM append text = some (text ++ segments.flatten) := by
  induction segments generalizing text with
  | nil =>
      rw [List.flatten_nil, List.append_nil]
      rfl
  | cons segment segments ih =>
      rw [List.flatten_cons, ← List.append_assoc] at h ⊢
      have hle : (text ++ segment).length ≤ (text ++ segment ++ segments.flatten).length :=
        (List.prefix_append _ _).length_le
      have hfirst : append text segment = some (text ++ segment) :=
        append_eq_some.mpr ⟨rfl, Nat.lt_of_le_of_lt hle h⟩
      rw [List.foldlM_cons, hfirst]
      exact ih h

/-- Where the checked segments fit, only the last one can be cut. -/
theorem sentence_eq (h : segments.flatten.length < NMEA_SENTENCE_MAX_LENGTH) :
    sentence segments last = some (appendLast segments.flatten last) := by
  rw [sentence, foldlM_append h]
  rfl

theorem appendLast_eq (h : text.length + last.length < NMEA_SENTENCE_MAX_LENGTH) :
    appendLast text last = text ++ last := by
  rw [appendLast, List.take_of_length_le (by omega)]

end Append

section Fields

variable {field rest : List Char} {fs : List (List Char)}

theorem fields_of_notMem (h : ',' ∉ field) : fields field = [field] := by
  induction field with
  | nil => rfl
  | cons c field ih =>
      obtain ⟨hc, hfield⟩ : c ≠ ',' ∧ ',' ∉ field := by simpa [eq_comm] using h
      rw [fields, if_neg hc, ih hfield]

theorem fields_comma (h : ',' ∉ field) (rest : List Char) :
    fields (field ++ ',' :: rest) = field :: fields rest := by
  induction field with
  | nil => rw [List.nil_append, fields, if_pos rfl]
  | cons c field ih =>
      obtain ⟨hc, hfield⟩ : c ≠ ',' ∧ ',' ∉ field := by simpa [eq_comm] using h
      rw [List.cons_append, fields, if_neg hc, ih hfield]

/-- What was written with commas is read as these fields. -/
theorem fields_commas (h : ∀ field ∈ fs, ',' ∉ field) (rest : List Char) :
    fields (commas fs ++ rest) = fs ++ fields rest := by
  induction fs with
  | nil => rfl
  | cons field fs ih =>
      have htail := ih (fun f hf => h f (List.mem_cons_of_mem _ hf))
      rw [commas, List.flatMap_cons, List.append_assoc, List.append_assoc, List.singleton_append,
        fields_comma (h field List.mem_cons_self), List.cons_append]
      exact congrArg (field :: ·) htail

theorem flatten_commas (fss : List (List (List Char))) :
    (fss.map commas).flatten = commas fss.flatten := by
  induction fss with
  | nil => rfl
  | cons fs fss ih =>
      rw [List.map_cons, List.flatten_cons, ih, List.flatten_cons, commas, commas, commas,
        List.flatMap_append]

end Fields

end G2Common.Nmea

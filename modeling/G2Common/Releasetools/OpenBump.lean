import G2Common.Hex
import G2Common.Paging
import Mathlib.Logic.Function.Basic

/-!
`open_bump.py`: the magic that is appended to a boot image, after what the script takes for
padding has been cut off. Python's integers have no bound, and `POC` is off.
-/

namespace G2Common.Releasetools

open Hex Paging

/-- How a run ends: `sys.exit`, or an error of Python. -/
inductive Stop where
  | exit (code : Nat)
  | structError | valueError | zeroDivisionError | ioError
  deriving DecidableEq, Repr

abbrev Files := String → Option (List UInt8)

def lgMagic : String := "41a9e467744d1d1ba429f2ecea655279"

/-- `binascii.unhexlify(lgMagic)`. -/
def magic : List UInt8 := (unhexlify lgMagic.toList).getD []

/-- `bumped`. -/
def bumped (image_data : List UInt8) : Bool :=
  let d := hexlify (image_data.drop (image_data.length - 1024))
  lgMagic.toList.isSuffixOf d || lgMagic.toList.isPrefixOf d

/-- `struct.unpack` of a text into numbers of two bytes each. -/
def unpack : List Char → Except Stop (List (Char × Char))
  | [] => .ok []
  | [_] => .error .structError
  | c :: c' :: s => do
      let rest ← unpack s
      return (c, c') :: rest

/-- `pair_reverse`. -/
def pairReverse (s : List Char) : Except Stop (List Char) := do
  let pairs ← unpack s
  return pairs.reverse.flatMap fun pair => [pair.1, pair.2]

/-- `int(…, 16)` of the word that is read from an offset on. -/
def readWord (f_image : List UInt8) (seek_size : Nat) : Except Stop Nat := do
  let digits ← pairReverse (hexlify ((f_image.drop seek_size).take 4))
  match ofHexDigits digits with
  | none => throw .valueError
  | some n => return n

def floorDiv (n d : Nat) : Except Stop Nat :=
  if d = 0 then throw .zeroDivisionError else return n / d

/-- `get_page_size`. -/
def getPageSize (image : List UInt8) : Except Stop Nat := readWord image 36

/-- `get_size_from_kernel`. -/
def getSizeFromKernel (f_image : List UInt8) (page_size seek_size : Nat) : Except Stop Nat := do
  let size ← readWord f_image seek_size
  let pages ← floorDiv size page_size
  return pages * page_size

/-- The `while` loop of `pad_image`, with `i + 1` pages to go. The file is cut off before a
page if no byte of it stands before its first zero. -/
def removePadding (page_size : Nat) : Nat → List UInt8 → List UInt8
  | 0, f_image => f_image
  | i + 1, f_image =>
      let data := (f_image.drop (page_size * i)).take page_size
      if data.takeWhile (· ≠ 0) = [] then
        removePadding page_size i (f_image.take (page_size * i))
      else f_image

/-- `pad_image`: the file as it leaves it. Where it stops, the file is as before. -/
def padImage (image : List UInt8) : Except Stop (List UInt8) := do
  let page_size ← getPageSize image
  let image_size := image.length
  let num_pages ← floorDiv image_size page_size
  let paged_kernel_size ← getSizeFromKernel image page_size 8
  let paged_ramdisk_size ← getSizeFromKernel image page_size 16
  let second_size ← getSizeFromKernel image page_size 24
  let paged_second_size := if second_size ≤ 0 then 0 else second_size
  let dt_size ← getSizeFromKernel image page_size 40
  let paged_dt_size := if dt_size ≤ 0 then 0 else dt_size
  let calculated_size :=
    page_size + paged_kernel_size + paged_ramdisk_size + paged_second_size + paged_dt_size
  if image_size < calculated_size then throw (.exit 1)
  else if calculated_size < image_size then
    let difference := image_size - calculated_size
    if difference ∈ [page_size, page_size * 2] then return image
    else if difference ∈ [1024, page_size + 1024, 2 * page_size + 1024] then throw (.exit 1)
    else return removePadding page_size num_pages image
  else return image

/-- `main`: how it ends, and the files. -/
def main (files : Files) (in_image out_image : String) : Stop × Files :=
  match files in_image with
  | none => (.ioError, files)
  | some d_in_image =>
      let files := Function.update files out_image (some d_in_image)
      if bumped d_in_image then (.exit 0, files)
      else
        match padImage d_in_image with
        | .error stop => (stop, files)
        | .ok image => (.exit 0, Function.update files out_image (some (image ++ magic)))

/-- A number of 32 bits in the header, the lowest byte first. -/
def wordAt (image : List UInt8) (offset : Nat) : Nat := littleEndian ((image.drop offset).take 4)

/-- The sizes of kernel, ramdisk, second stage and device tree. -/
def sectionSizes (image : List UInt8) : List Nat := [8, 16, 24, 40].map (wordAt image)

/-- A page of header, then the sections in whole pages, and nothing behind them. -/
structure WellFormed (page_size : Nat) (image : List UInt8) : Prop where
  page_size_eq : wordAt image 36 = page_size
  page_size_ge : 1024 ≤ page_size
  length_eq : image.length = page_size + ((sectionSizes image).map (roundUp page_size)).sum

/-- The parts of a boot image. The header is as long as a page. -/
structure BootImage where
  header : List UInt8
  kernel : List UInt8
  ramdisk : List UInt8
  second : List UInt8
  dt : List UInt8
  page_size_eq : wordAt header 36 = header.length
  page_size_ge : 1024 ≤ header.length
  sizes_eq : sectionSizes header = [kernel, ramdisk, second, dt].map List.length

namespace BootImage

def sections (image : BootImage) : List (List UInt8) :=
  [image.kernel, image.ramdisk, image.second, image.dt]

/-- The file, with zeros up to the end of the last page of each section. -/
def bytes (image : BootImage) : List UInt8 :=
  image.header ++ (image.sections.map (padded image.header.length)).flatten

theorem wordAt_append {header rest : List UInt8} {offset : Nat}
    (h : offset + 4 ≤ header.length) : wordAt (header ++ rest) offset = wordAt header offset := by
  rw [wordAt, wordAt, List.drop_append_of_le_length (by omega),
    List.take_append_of_le_length (by rw [List.length_drop]; omega)]

theorem wordAt_bytes (image : BootImage) {offset : Nat} (h : offset ≤ 40) :
    wordAt image.bytes offset = wordAt image.header offset := by
  have hge := image.page_size_ge
  exact wordAt_append (by omega)

theorem sectionSizes_bytes (image : BootImage) :
    sectionSizes image.bytes = image.sections.map List.length := by
  rw [sectionSizes, sections, ← image.sizes_eq, sectionSizes]
  simp [wordAt_bytes]

theorem wellFormed (image : BootImage) : WellFormed image.header.length image.bytes := by
  have hge := image.page_size_ge
  refine ⟨(image.wordAt_bytes (by omega)).trans image.page_size_eq, hge, ?_⟩
  rw [sectionSizes_bytes, bytes, List.length_append, List.length_flatten, List.map_map,
    List.map_map]
  congr 2
  apply List.map_congr_left
  intro content _
  exact length_padded (by omega) content

end BootImage

variable {image data : List UInt8} {page_size offset n : Nat}

theorem hexlify_magic : hexlify magic = lgMagic.toList := by decide +kernel

theorem length_magic : magic.length = 16 := by decide +kernel

theorem bumped_iff :
    bumped image = true ↔
      magic <:+ image ∨ magic <+: image.drop (image.length - 1024) := by
  rw [bumped, Bool.or_eq_true, List.isSuffixOf_iff_suffix, List.isPrefixOf_iff_prefix,
    ← hexlify_magic, hexlify_suffix_iff, hexlify_prefix_iff]
  apply or_congr_left
  constructor
  · intro h
    exact h.trans (List.drop_suffix _ _)
  · intro h
    apply List.suffix_of_suffix_length_le h (List.drop_suffix _ _)
    have hle := h.length_le
    rw [length_magic] at hle ⊢
    rw [List.length_drop]
    omega

theorem bumped_append_magic (image : List UInt8) : bumped (image ++ magic) = true :=
  bumped_iff.mpr (Or.inl (List.suffix_append image magic))

theorem unpack_hexlify (data : List UInt8) :
    unpack (hexlify data) =
      .ok (data.map fun b => (hexDigit (b.toNat / 16), hexDigit (b.toNat % 16))) := by
  induction data with
  | nil => rfl
  | cons b data ih =>
      rw [hexlify_cons, unpack, ih]
      rfl

/-- The bytes of a text of digits are reversed, not the digits. -/
theorem pairReverse_hexlify (data : List UInt8) :
    pairReverse (hexlify data) = .ok (hexlify data.reverse) := by
  rw [pairReverse, unpack_hexlify]
  change Except.ok _ = _
  rw [← List.map_reverse, List.flatMap_map]
  rfl

theorem readWord_eq (h : offset < image.length) :
    readWord image offset = .ok (wordAt image offset) := by
  have hne : ((image.drop offset).take 4).reverse ≠ [] := by
    intro hnil
    have hlength := congrArg List.length hnil
    rw [List.length_reverse, List.length_take, List.length_drop, List.length_nil] at hlength
    omega
  rw [readWord, pairReverse_hexlify]
  change (match ofHexDigits (hexlify ((image.drop offset).take 4).reverse) with
    | none => throw Stop.valueError
    | some n => return n) = _
  rw [ofHexDigits_hexlify hne, bigEndian_reverse, wordAt]
  rfl

theorem getSizeFromKernel_eq (hpage : 0 < page_size) (h : offset < image.length) :
    getSizeFromKernel image page_size offset =
      .ok (roundDown page_size (wordAt image offset)) := by
  rw [getSizeFromKernel, readWord_eq h]
  change (do
    let pages ← floorDiv (wordAt image offset) page_size
    return pages * page_size) = _
  rw [floorDiv, if_neg (by omega)]
  rfl

/-- How many sections do not end with a page. -/
def unaligned (page_size : Nat) (image : List UInt8) : Nat :=
  (sectionSizes image).countP fun size => ¬ page_size ∣ size

theorem unaligned_le (page_size : Nat) (image : List UInt8) : unaligned page_size image ≤ 4 := by
  apply List.countP_le_length.trans
  simp [sectionSizes]

namespace WellFormed

theorem length_ge (h : WellFormed page_size image) : page_size ≤ image.length := by
  rw [h.length_eq]
  exact Nat.le_add_right _ _

theorem dvd_length (h : WellFormed page_size image) : page_size ∣ image.length := by
  rw [h.length_eq]
  exact Nat.dvd_add (Nat.dvd_refl page_size) (dvd_sum_roundUp _ _)

/-- What the script calculates misses a page for each section that does not end with one. -/
theorem length_eq_calculated (h : WellFormed page_size image) :
    image.length = page_size + ((sectionSizes image).map (roundDown page_size)).sum +
      unaligned page_size image * page_size := by
  have hge := h.page_size_ge
  rw [unaligned, Nat.add_assoc, ← sum_roundUp (by omega)]
  exact h.length_eq

theorem padImage_eq (h : WellFormed page_size image) :
    padImage image =
      let difference := unaligned page_size image * page_size
      if difference = 0 then .ok image
      else if difference ∈ [page_size, page_size * 2] then .ok image
      else if difference ∈ [1024, page_size + 1024, 2 * page_size + 1024] then .error (.exit 1)
      else .ok (removePadding page_size (image.length / page_size) image) := by
  have hge := h.page_size_ge
  have hlength := h.length_ge
  have hcalculated := h.length_eq_calculated
  have hpage : 0 < page_size := by omega
  have hsize {offset : Nat} (hle : offset ≤ 40) :
      getSizeFromKernel image page_size offset =
        .ok (roundDown page_size (wordAt image offset)) :=
    getSizeFromKernel_eq hpage (by omega)
  have hword : readWord image 36 = .ok page_size := by
    rw [readWord_eq (by omega), h.page_size_eq]
  have hkeep (n : Nat) : (if n ≤ 0 then 0 else n) = n := by
    split <;> omega
  rw [padImage, getPageSize, hword]
  simp only [bind, Except.bind, floorDiv, if_neg hpage.ne', pure, Except.pure, throw,
    throwThe, MonadExceptOf.throw, hsize (show 8 ≤ 40 by omega), hsize (show 16 ≤ 40 by omega),
    hsize (show 24 ≤ 40 by omega), hsize (show 40 ≤ 40 by omega), hkeep]
  have hsum : image.length = page_size + roundDown page_size (wordAt image 8) +
      roundDown page_size (wordAt image 16) + roundDown page_size (wordAt image 24) +
      roundDown page_size (wordAt image 40) + unaligned page_size image * page_size := by
    simpa [sectionSizes, Nat.add_assoc] using hcalculated
  generalize page_size + roundDown page_size (wordAt image 8) +
      roundDown page_size (wordAt image 16) + roundDown page_size (wordAt image 24) +
      roundDown page_size (wordAt image 40) = calculated_size at hsum
  have hdifference : image.length - calculated_size = unaligned page_size image * page_size := by
    omega
  rw [if_neg (by omega), hdifference]
  split
  case isTrue hless =>
      have hmissed : unaligned page_size image * page_size ≠ 0 := by omega
      rw [if_neg hmissed]
  case isFalse hsame =>
      have hexact : unaligned page_size image * page_size = 0 := by omega
      rw [if_pos hexact]

/-- Up to two such sections are within what the script tolerates. -/
theorem padImage_few (h : WellFormed page_size image) (hk : unaligned page_size image ≤ 2) :
    padImage image = .ok image := by
  have hcount : unaligned page_size image = 0 ∨ unaligned page_size image = 1 ∨
      unaligned page_size image = 2 := by omega
  rw [h.padImage_eq]
  rcases hcount with hk | hk | hk
  · simp [hk]
  · simp [hk]
  · simp [hk, Nat.mul_comm]

/-- Three pages of 1024 bytes look like two pages and a signature. -/
theorem padImage_patched (h : WellFormed page_size image) (hk : unaligned page_size image = 3)
    (hpage : page_size = 1024) : padImage image = .error (.exit 1) := by
  rw [h.padImage_eq, hk, hpage]
  rfl

/-- Otherwise the end of the image is taken for padding. -/
theorem padImage_many (h : WellFormed page_size image) (hk : 2 < unaligned page_size image)
    (hpage : ¬ (unaligned page_size image = 3 ∧ page_size = 1024)) :
    padImage image = .ok (removePadding page_size (image.length / page_size) image) := by
  have hge := h.page_size_ge
  have hcount : unaligned page_size image = 3 ∨ unaligned page_size image = 4 := by
    have hle := unaligned_le page_size image
    omega
  have hother : ¬ unaligned page_size image * page_size = 0 ∧
      unaligned page_size image * page_size ∉ [page_size, page_size * 2] ∧
      unaligned page_size image * page_size ∉
        [1024, page_size + 1024, 2 * page_size + 1024] := by
    simp only [List.mem_cons, List.not_mem_nil, or_false]
    rcases hcount with hk | hk
    · rw [hk] at hpage ⊢
      omega
    · rw [hk]
      omega
  rw [h.padImage_eq]
  simp only [if_neg hother.1, if_neg hother.2.1, if_neg hother.2.2]

end WellFormed

theorem removePadding_isPrefix (page_size n : Nat) (image : List UInt8) :
    removePadding page_size n image <+: image := by
  induction n generalizing image with
  | zero => exact List.prefix_refl image
  | succ i ih =>
      rw [removePadding]
      split
      case isTrue => exact (ih _).trans (List.take_prefix _ _)
      case isFalse => exact List.prefix_refl image

/-- A last page that starts with zero is cut off, whatever follows. -/
theorem removePadding_cut (hpage : 0 < page_size)
    (h : (image.drop (page_size * n)).head? = some 0) :
    (removePadding page_size (n + 1) image).length ≤ page_size * n := by
  obtain ⟨rest, hrest⟩ := List.head?_eq_some_iff.mp h
  have hdata : ((image.drop (page_size * n)).take page_size).takeWhile (· ≠ 0) = [] := by
    rw [hrest, List.take_cons hpage, List.takeWhile_cons_of_neg (by simp)]
  rw [removePadding, if_pos hdata]
  exact (removePadding_isPrefix page_size n _).length_le.trans (List.length_take_le _ _)

/-- Any other last page stops the loop at once. -/
theorem removePadding_kept (hlength : image.length = page_size * (n + 1)) (hpage : 0 < page_size)
    (h : (image.drop (page_size * n)).head? ≠ some 0) :
    removePadding page_size (n + 1) image = image := by
  rw [Nat.mul_add, Nat.mul_one] at hlength
  have hne : image.drop (page_size * n) ≠ [] := by
    intro hnil
    have hzero := congrArg List.length hnil
    rw [List.length_drop, List.length_nil] at hzero
    omega
  obtain ⟨b, rest, hrest⟩ := List.exists_cons_of_ne_nil hne
  rw [hrest, List.head?_cons] at h
  have hb : b ≠ 0 := fun hzero => h (congrArg some hzero)
  have hdata : ((image.drop (page_size * n)).take page_size).takeWhile (· ≠ 0) ≠ [] := by
    rw [hrest, List.take_cons hpage, List.takeWhile_cons_of_pos (by simpa using hb)]
    exact List.cons_ne_nil _ _
  rw [removePadding, if_neg hdata]

/-- What `main` leaves in the output file for an image. -/
def written (image : List UInt8) : List UInt8 :=
  if bumped image then image
  else
    match padImage image with
    | .error _ => image
    | .ok image => image ++ magic

theorem main_files {files : Files} {in_image : String} (out_image : String)
    (h : files in_image = some image) :
    (main files in_image out_image).2 = Function.update files out_image (some (written image)) := by
  rw [main, h]
  dsimp only
  rw [written]
  split
  case isTrue => rfl
  case isFalse =>
      cases padImage image with
      | error stop => rfl
      | ok kept => exact Function.update_idem _ _ _

/-- The magic is appended to the image, once, and no page is cut off that is not all zeros. -/
structure Bumps (image : List UInt8) : Prop where
  appends : ∀ (files : Files) in_image out_image, files in_image = some image →
    (main files in_image out_image).2 out_image = some (image ++ magic)
  once : ∀ (files : Files) in_image out_image out_again, files in_image = some image →
    let files' := (main files in_image out_image).2
    let files'' := (main files' out_image out_again).2
    files'' out_image = files' out_image ∧ files'' out_again = files' out_image
  keeps : ∀ kept, bumped image = false → padImage image = .ok kept →
    ∀ b ∈ image.drop kept.length, b = 0

theorem written_append_magic (image : List UInt8) :
    written (image ++ magic) = image ++ magic := by
  rw [written, if_pos (bumped_append_magic image)]

/-- Everything else follows from what the first run writes. -/
theorem bumps_iff_written : Bumps image ↔ written image = image ++ magic := by
  constructor
  · intro h
    have happends := h.appends (fun _ => some image) "" "" rfl
    rw [main_files "" rfl, Function.update_self] at happends
    exact Option.some.inj happends
  · intro h
    refine ⟨?_, ?_, ?_⟩
    · intro files in_image out_image hin
      rw [main_files out_image hin, Function.update_self, h]
    · intro files in_image out_image out_again hin
      have hout : (main files in_image out_image).2 out_image = some (image ++ magic) := by
        rw [main_files out_image hin, Function.update_self, h]
      dsimp only
      rw [main_files out_again hout, written_append_magic, Function.update_self, hout]
      refine ⟨?_, rfl⟩
      by_cases hsame : out_image = out_again
      · rw [hsame, Function.update_self]
      · rw [Function.update_of_ne hsame, hout]
    · intro kept hbumped hpad
      rw [written, hbumped, hpad] at h
      have hkept : kept = image := List.append_cancel_right h
      rw [hkept, List.drop_length]
      exact fun b hb => absurd hb List.not_mem_nil

theorem ne_append_magic (image : List UInt8) : image ≠ image ++ magic := by
  intro heq
  have hlength := congrArg List.length heq
  rw [List.length_append, length_magic] at hlength
  omega

namespace WellFormed

/-- The pages that the loop looks at, the header among them. -/
theorem exists_pages (h : WellFormed page_size image) :
    ∃ n, image.length / page_size = n + 1 ∧ image.length = page_size * (n + 1) ∧
      image.length - page_size = page_size * n := by
  have hge := h.page_size_ge
  have hlength := h.length_ge
  have hdvd := Nat.mul_div_cancel' h.dvd_length
  have hpages : 0 < image.length / page_size := Nat.div_pos hlength (by omega)
  obtain ⟨n, hn⟩ := Nat.exists_eq_succ_of_ne_zero hpages.ne'
  rw [hn, Nat.succ_eq_add_one] at hdvd
  refine ⟨n, hn, hdvd.symm, ?_⟩
  rw [← hdvd, Nat.mul_add, Nat.mul_one, Nat.add_sub_cancel]

theorem written_iff (h : WellFormed page_size image) (hmagic : ¬ magic <:+ image) :
    written image = image ++ magic ↔
      ¬ magic <+: image.drop (image.length - 1024) ∧
        (unaligned page_size image ≤ 2 ∨
          ¬ (unaligned page_size image = 3 ∧ page_size = 1024) ∧
            (image.drop (image.length - page_size)).head? ≠ some 0) := by
  have hge := h.page_size_ge
  rw [written]
  split
  case isTrue hbumped =>
      have hstart : magic <+: image.drop (image.length - 1024) :=
        (bumped_iff.mp hbumped).resolve_left hmagic
      apply iff_of_false (ne_append_magic image)
      exact fun hcond => hcond.1 hstart
  case isFalse hbumped =>
      have hstart : ¬ magic <+: image.drop (image.length - 1024) :=
        fun hstart => hbumped (bumped_iff.mpr (Or.inr hstart))
      rw [and_iff_right hstart]
      by_cases hfew : unaligned page_size image ≤ 2
      · rw [h.padImage_few hfew]
        exact iff_of_true rfl (Or.inl hfew)
      · rw [or_iff_right hfew]
        by_cases hpatched : unaligned page_size image = 3 ∧ page_size = 1024
        · rw [h.padImage_patched hpatched.1 hpatched.2]
          apply iff_of_false (ne_append_magic image)
          exact fun hcond => hcond.1 hpatched
        · rw [h.padImage_many (by omega) hpatched, and_iff_right hpatched]
          obtain ⟨n, hpages, hlength, hlast⟩ := h.exists_pages
          rw [hpages, hlast]
          by_cases hzero : (image.drop (page_size * n)).head? = some 0
          · have hcut := removePadding_cut (by omega) hzero
            apply iff_of_false
            · intro heq
              rw [List.append_cancel_right heq, hlength, Nat.mul_add, Nat.mul_one] at hcut
              omega
            · exact fun hcond => hcond hzero
          · have hkept := removePadding_kept hlength (by omega) hzero
            exact iff_of_true (congrArg (· ++ magic) hkept) hzero

end WellFormed

/-- The image is bumped as it should be if no more than two sections end within a page, or its
last page does not look like padding; and if its end does not look like a signature. -/
theorem bumps_iff (h : WellFormed page_size image) (hmagic : ¬ magic <:+ image) :
    Bumps image ↔
      ¬ magic <+: image.drop (image.length - 1024) ∧
        (unaligned page_size image ≤ 2 ∨
          ¬ (unaligned page_size image = 3 ∧ page_size = 1024) ∧
            (image.drop (image.length - page_size)).head? ≠ some 0) :=
  bumps_iff_written.trans (h.written_iff hmagic)

/-- A header for a kernel and a ramdisk of one byte each and a device tree. -/
def smallHeader (page_byte dt_size : UInt8) : List UInt8 :=
  [65, 78, 68, 82, 79, 73, 68, 33, 1, 0, 0, 0, 0, 0, 0, 0, 1, 0, 0, 0, 0, 0, 0, 0, 0, 0, 0, 0,
    0, 0, 0, 0, 0, 0, 0, 0, 0, page_byte, 0, 0, dt_size, 0, 0, 0] ++
    List.replicate (256 * page_byte.toNat - 44) 0

def withoutTree : BootImage :=
  ⟨smallHeader 4 0, [1], [1], [], [], by decide +kernel, by decide +kernel, by decide +kernel⟩

theorem bumps_iff_withoutTree : Bumps withoutTree.bytes :=
  (bumps_iff withoutTree.wellFormed (by decide +kernel)).mpr
    ⟨by decide +kernel, Or.inl (by decide +kernel)⟩

/-- A device tree that starts with a zero. -/
def zeroStart : BootImage :=
  ⟨smallHeader 8 2, [1], [1], [], [0, 7], by decide +kernel, by decide +kernel, by decide +kernel⟩

/-- The page of the device tree is cut off, though it holds more than zeros. -/
theorem not_bumps_zeroStart :
    WellFormed 2048 zeroStart.bytes ∧ ¬ magic <:+ zeroStart.bytes ∧
      (∃ kept, padImage zeroStart.bytes = .ok kept ∧ 7 ∈ zeroStart.bytes.drop kept.length) ∧
      ¬ Bumps zeroStart.bytes := by
  have hpage : zeroStart.header.length = 2048 := by decide +kernel
  have hformed : WellFormed 2048 zeroStart.bytes := hpage ▸ zeroStart.wellFormed
  have hbumped : bumped zeroStart.bytes = false := by decide +kernel
  have hunaligned : unaligned 2048 zeroStart.bytes = 3 := by
    rw [unaligned, BootImage.sectionSizes_bytes]
    decide +kernel
  have hpages : zeroStart.bytes.length / 2048 = 3 + 1 := by
    rw [hformed.length_eq, BootImage.sectionSizes_bytes]
    decide +kernel
  have hpad := hformed.padImage_many (by omega) (by omega)
  rw [hpages] at hpad
  have hcut : (removePadding 2048 (3 + 1) zeroStart.bytes).length ≤ 2048 * 3 :=
    removePadding_cut (by omega) (by decide +kernel)
  have hlost : 7 ∈ zeroStart.bytes.drop (2048 * 3) := by decide +kernel
  have hmem := (List.drop_sublist_drop_left zeroStart.bytes hcut).mem hlost
  refine ⟨hformed, ?_, ⟨_, hpad, hmem⟩, ?_⟩
  · intro hmagic
    rw [bumped_iff.mpr (Or.inl hmagic)] at hbumped
    cases hbumped
  · intro hbumps
    exact absurd (hbumps.keeps _ hbumped hpad 7 hmem) (by decide)

end G2Common.Releasetools

import Mathlib.Algebra.Order.Floor.Div
import SectorDisk.Console.Program
import SectorDisk.Proofs.Console.Typed
import SectorDisk.Proofs.Console.Verdict

/-!
# Dumps

A dump loses nothing.  Each of its lines shows an address, which hexadecimal digits denote, and a
piece of the bytes, which hexadecimal text spells (`ShowsLine`); the pieces are consecutive and all
but the last are full (`getElem?_chunks`).  Because blanks between texts keep what the texts spell,
the columns of bytes of all lines stand for all bytes when they are typed in again.
-/

namespace SectorDisk.Console

/-! ## §1 Pieces -/

section Pieces

variable {α : Type} {width : Nat} {xs : List α}

theorem chunks_nil (width : Nat) : chunks width ([] : List α) = [] := by
  unfold chunks
  rfl

theorem chunks_eq_cons (hwidth : 0 < width) (hxs : xs ≠ []) :
    chunks width xs = xs.take width :: chunks width (xs.drop width) := by
  obtain ⟨x, rest, rfl⟩ := List.exists_cons_of_ne_nil hxs
  obtain ⟨k, rfl⟩ := Nat.exists_eq_add_of_lt hwidth
  rw [chunks, Nat.zero_add, Nat.add_sub_cancel, List.take_succ_cons, List.drop_succ_cons]

theorem flatten_chunks (width : Nat) (xs : List α) : (chunks width xs).flatten = xs := by
  fun_induction chunks width xs with
  | case1 => rfl
  | case2 x rest ih =>
    rw [List.flatten_cons, ih, List.cons_append, List.take_append_drop]

theorem length_chunks (hwidth : 0 < width) (xs : List α) :
    (chunks width xs).length = xs.length ⌈/⌉ width := by
  rw [Nat.ceilDiv_eq_add_pred_div]
  induction hlength : xs.length using Nat.strongRecOn generalizing xs with
  | ind n ih =>
    cases xs with
    | nil =>
      subst hlength
      rw [chunks_nil, List.length_nil, List.length_nil, Nat.div_eq_of_lt (by omega)]
    | cons x rest =>
      have hpos : 0 < n := hlength ▸ Nat.succ_pos rest.length
      rw [chunks_eq_cons hwidth (List.cons_ne_nil x rest), List.length_cons,
        ih (n - width) (by omega) _ (by rw [List.length_drop, hlength])]
      have hstep : n + width - 1 = n - 1 + width := by omega
      rw [hstep, Nat.add_div_right _ hwidth]
      -- the piece taken off is the last if nothing is left behind it
      congr 1
      rcases Nat.le_total width n with hle | hle
      · rw [Nat.sub_add_cancel hle]
      · rw [Nat.div_eq_of_lt (by omega), Nat.div_eq_of_lt (by omega)]

/-- The pieces stand at the multiples of their width. -/
theorem getElem?_chunks (hwidth : 0 < width) (xs : List α) (j : Nat) :
    (chunks width xs)[j]? =
      if j * width < xs.length then some ((xs.drop (j * width)).take width) else none := by
  induction j generalizing xs with
  | zero =>
    cases xs with
    | nil => rw [chunks_nil]; rfl
    | cons x rest =>
      rw [chunks_eq_cons hwidth (List.cons_ne_nil x rest), List.getElem?_cons_zero, Nat.zero_mul,
        if_pos (List.length_pos_of_ne_nil (List.cons_ne_nil x rest)), List.drop_zero]
  | succ j ih =>
    cases xs with
    | nil => rw [chunks_nil]; rfl
    | cons x rest =>
      rw [chunks_eq_cons hwidth (List.cons_ne_nil x rest), List.getElem?_cons_succ, ih,
        List.drop_drop, List.length_drop, Nat.succ_mul, Nat.add_comm width]
      exact if_congr Nat.lt_sub_iff_add_lt rfl rfl

/-- Only the last piece may be shorter. -/
theorem full_of_getElem?_chunks (hwidth : 0 < width) {j : Nat}
    (hnext : j + 1 < (chunks width xs).length) :
    ((xs.drop (j * width)).take width).length = width := by
  have hmore : (chunks width xs)[j + 1]? ≠ none := by
    rw [ne_eq, List.getElem?_eq_none_iff]
    exact Nat.not_le.mpr hnext
  rw [getElem?_chunks hwidth, Nat.succ_mul] at hmore
  have hlong : j * width + width < xs.length := by
    by_contra hshort
    exact hmore (if_neg hshort)
  rw [List.length_take, List.length_drop]
  omega

end Pieces

/-! ## §2 Lines of a text -/

/-- Lines with line breaks between them are read as these lines. -/
theorem inputLines_intercalate {lines : List String} (hbreak : ∀ line ∈ lines, '\n' ∉ line.toList)
    (hsome : ∀ line ∈ lines, line ≠ "") : inputLines ("\n".intercalate lines) = lines := by
  cases lines with
  | nil => rfl
  | cons line rest =>
    have hself : ((line :: rest).map String.toList).map String.ofList = line :: rest := by
      rw [List.map_map]
      exact (List.map_congr_left fun l _ => String.ofList_toList).trans (List.map_id' _)
    have hpieces : (("\n".intercalate (line :: rest)).toList.splitOn '\n').map String.ofList =
        line :: rest := by
      rw [String.toList_intercalate]
      change List.map _ (List.splitOn '\n' (['\n'].intercalate _)) = _
      rw [List.splitOn_intercalate '\n' (List.forall_mem_map.mpr hbreak) (List.cons_ne_nil _ _)]
      exact hself
    have hlast : (line :: rest).getLast? ≠ some "" :=
      fun hempty => hsome "" (List.mem_of_getLast? hempty) rfl
    rw [inputLines, hpieces, if_neg hlast]

/-! ## §3 Columns -/

/-- The column of addresses of a line: what stands before the first blank. -/
def addressColumn (line : String) : List Char :=
  line.toList.takeWhile (· ≠ ' ')

/-- The column of bytes of a line: what stands behind the address and two blanks. -/
def byteColumn (line : String) : String :=
  String.ofList ((line.toList.dropWhile (· ≠ ' ')).drop 2)

/-- The columns of bytes of lines, with blanks between them. -/
def byteText (lines : List String) : String :=
  " ".intercalate (lines.map byteColumn)

/-- The line shows the address, in eight places or more, and the bytes. -/
structure ShowsLine (line : String) (address : Nat) (bytes : Bytes) : Prop where
  address : Text.Hex.Denotes (addressColumn line) address
  wide : 8 ≤ (addressColumn line).length
  bytes : readData ("hex:" ++ byteColumn line) = .ok bytes

section Columns

variable {base width : Nat} {d : Bytes} {line : String}

theorem toList_dumpLine (address : Nat) (bytes : Bytes) :
    (dumpLine address bytes).toList =
      Text.Hex.padded 8 address ++ ' ' :: ' ' :: Text.Hex.spaced bytes := by
  rw [dumpLine, String.toList_ofList, List.append_assoc]
  rfl

/-- The address ends at the first blank of its line. -/
theorem forall_padded_ne (address : Nat) :
    ∀ c ∈ Text.Hex.padded 8 address, decide (c ≠ ' ') = true := by
  intro c hc
  rw [decide_eq_true_eq]
  rintro rfl
  cases (Text.Hex.denotes_padded 8 address).not_blank _ hc

theorem addressColumn_dumpLine (address : Nat) (bytes : Bytes) :
    addressColumn (dumpLine address bytes) = Text.Hex.padded 8 address := by
  rw [addressColumn, toList_dumpLine, List.takeWhile_append_of_pos (forall_padded_ne address)]
  exact List.append_nil _

theorem byteColumn_dumpLine (address : Nat) (bytes : Bytes) :
    byteColumn (dumpLine address bytes) = String.ofList (Text.Hex.spaced bytes) := by
  rw [byteColumn, toList_dumpLine, List.dropWhile_append_of_pos (forall_padded_ne address)]
  rfl

theorem showsLine_dumpLine (address : Nat) (bytes : Bytes) :
    ShowsLine (dumpLine address bytes) address bytes := by
  constructor
  · rw [addressColumn_dumpLine]
    exact Text.Hex.denotes_padded 8 address
  · rw [addressColumn_dumpLine]
    exact Text.Hex.length_padded 8 address
  · rw [byteColumn_dumpLine, readData_hex_iff, String.toList_ofList]
    exact Text.Hex.spells_spaced bytes

theorem break_not_mem_dumpLine (address : Nat) (bytes : Bytes) :
    '\n' ∉ (dumpLine address bytes).toList := by
  intro hbreak
  rw [toList_dumpLine, List.mem_append, List.mem_cons, List.mem_cons] at hbreak
  rcases hbreak with haddress | hblank | hblank | hbytes
  · cases (Text.Hex.denotes_padded 8 address).not_blank _ haddress
  · cases hblank
  · cases hblank
  · refine Text.Hex.forall_spaced (P := (· ≠ '\n')) (by decide) ?_ bytes _ hbytes rfl
    rintro _ _ hdigit rfl
    cases hdigit.not_blank

theorem dumpLine_ne_empty (address : Nat) (bytes : Bytes) : dumpLine address bytes ≠ "" := by
  intro hempty
  have hwide := (showsLine_dumpLine address bytes).wide
  rw [hempty] at hwide
  cases hwide

/-! ## §4 Dumps -/

theorem getElem?_dumpLines (base width : Nat) (d : Bytes) (j : Nat) :
    (dumpLines base width d)[j]? =
      (chunks width d)[j]?.map (dumpLine (base + j * width : Nat)) := by
  rw [dumpLines, List.getElem?_map, List.getElem?_zipIdx, Option.map_map]
  refine Option.map_congr fun part _ => ?_
  rw [Function.comp_apply, Nat.zero_add, Nat.cast_add, Nat.cast_mul]

theorem length_dumpLines (base width : Nat) (d : Bytes) :
    (dumpLines base width d).length = (chunks width d).length := by
  rw [dumpLines, List.length_map, List.length_zipIdx]

theorem exists_of_mem_dumpLines (hline : line ∈ dumpLines base width d) :
    ∃ address part, line = dumpLine (address : Nat) part := by
  obtain ⟨j, hj⟩ := List.getElem?_of_mem hline
  rw [getElem?_dumpLines, Option.map_eq_some_iff] at hj
  obtain ⟨part, -, rfl⟩ := hj
  exact ⟨_, part, rfl⟩

/-- The columns of bytes stand for all the bytes. -/
theorem readData_byteText (base width : Nat) (d : Bytes) :
    readData ("hex:" ++ byteText (dumpLines base width d)) = .ok d := by
  have hcolumns : (dumpLines base width d).map byteColumn =
      (chunks width d).map fun part => String.ofList (Text.Hex.spaced part) := by
    apply List.ext_getElem?
    intro j
    rw [List.getElem?_map, getElem?_dumpLines, Option.map_map, List.getElem?_map]
    exact Option.map_congr fun part _ => byteColumn_dumpLine _ part
  have hspells : List.Forall₂ Text.Hex.Spells
      (((chunks width d).map fun part => String.ofList (Text.Hex.spaced part)).map String.toList)
      (chunks width d) := by
    rw [List.map_map, List.forall₂_map_left_iff, List.forall₂_same]
    intro part _
    rw [Function.comp_apply, String.toList_ofList]
    exact Text.Hex.spells_spaced part
  have hall := Text.Hex.spells_intercalate hspells
  rw [flatten_chunks] at hall
  rw [readData_hex_iff, byteText, hcolumns, String.toList_intercalate]
  exact hall

/-- The dump of bytes is its lines. -/
theorem hexDumpValue_bytes (hwidth : 0 < width) (kind : BytesKind) (d : Bytes) (base : Nat) :
    hexDumpValue (.bytes kind d) (.int base) (.int width) =
      .ok ("\n".intercalate (dumpLines base width d)) := by
  have hzero : ¬ (width : Int) = 0 := by omega
  have hnegative : ¬ (width : Int) < 0 := by omega
  have hdump : hexDump d base width = .ok ("\n".intercalate (dumpLines base width d)) := by
    rw [hexDump, if_neg hzero, if_neg hnegative, Int.toNat_natCast]
  cases d with
  | nil =>
    have hempty : hexDumpValue (.bytes kind []) (.int base) (.int width) = .ok "" := by
      refine (if_neg hzero).trans (if_pos (.inr rfl))
    rw [hempty, dumpLines_nil]
    rfl
  | cons b rest =>
    have hsome : ¬ ((width : Int) < 0 ∨ ((b :: rest).map fun b => Value.int b.toNat).isEmpty) := by
      rintro (hlow | hno)
      · exact hnegative hlow
      · cases hno
    exact ((if_neg hzero).trans (if_neg hsome)).trans hdump

/-! ## §5 What is printed -/

variable {h : Host} {offset length sector v : Value} {st : Stage}

/-- What is shown of an answer to reading stands for the bytes that were read. -/
theorem readData_dumped (hanswer : ((Operation.read offset length).perform {} h).1 = .ok v) :
    ∃ data, (Storage.read offset length {} h).1 = .ok data ∧
      readData ("hex:" ++ byteText (Request.dumped offset v)) = .ok data := by
  rw [Operation.perform, Op.giving_run] at hanswer
  obtain ⟨data, hread, rfl⟩ := exists_of_map_ok hanswer
  -- what is read has an offset
  obtain ⟨start, hstart, -⟩ := Op.exists_of_judge_ok hread
  rw [eq_int_of_natural hstart]
  exact ⟨data, eq_int_of_natural hstart ▸ hread, readData_byteText start 16 data⟩

theorem actRead_typed_again (hopen : h.device.isClosed = false)
    (hrun : actRead offset length { host := h } = (.ok (), st)) :
    ∃ data, (Storage.read offset length {} h).1 = .ok data ∧
      readData ("hex:" ++ byteText st.printed.tail) = .ok data := by
  have hverdict : Verdict .ample h _ _ (actRead offset length { host := h }) :=
    actRead_verdict hopen offset length
  rw [hrun] at hverdict
  cases hverdict with
  | confirmed hanswer => exact readData_dumped hanswer

theorem actDump_typed_again (hopen : h.device.isClosed = false)
    (hrun : actDump sector { host := h } = (.ok (), st)) :
    ∃ data, (Storage.read (dumpStart sector) (.int sectorSize) {} h).1 = .ok data ∧
      readData ("hex:" ++ byteText st.printed) = .ok data := by
  have hverdict : Verdict .ample h _ _ (actDump sector { host := h }) :=
    actDump_verdict hopen sector
  rw [hrun] at hverdict
  cases hverdict with
  | confirmed hanswer => exact readData_dumped hanswer

/-- **A dump loses nothing.**  The dump of bytes has a line for each full width of bytes and one for
the rest.  A line shows the address of its first byte, in eight places or more, and its bytes, as
many as the width unless it is the last line.  The columns of bytes of all lines, typed in as
hexadecimal data with blanks between them, are the bytes again; so are those of the lines that are
printed when bytes are read or a sector is shown. -/
theorem dump_loses_nothing (hwidth : 0 < width) (kind : BytesKind) (d : Bytes) (base : Nat) :
    (∃ text, hexDumpValue (.bytes kind d) (.int base) (.int width) = .ok text ∧
      (inputLines text).length = d.length ⌈/⌉ width ∧
      (∀ j line, (inputLines text)[j]? = some line →
        ShowsLine line (base + j * width) ((d.drop (j * width)).take width) ∧
        (j + 1 < (inputLines text).length → ((d.drop (j * width)).take width).length = width)) ∧
      readData ("hex:" ++ byteText (inputLines text)) = .ok d) ∧
    (∀ h offset length st, h.device.isClosed = false →
      actRead offset length { host := h } = (.ok (), st) →
      ∃ data, (Storage.read offset length {} h).1 = .ok data ∧
        readData ("hex:" ++ byteText st.printed.tail) = .ok data) ∧
    ∀ h sector st, h.device.isClosed = false → actDump sector { host := h } = (.ok (), st) →
      ∃ data, (Storage.read (dumpStart sector) (.int sectorSize) {} h).1 = .ok data ∧
        readData ("hex:" ++ byteText st.printed) = .ok data := by
  refine ⟨?_, fun h offset length st => actRead_typed_again, fun h sector st => actDump_typed_again⟩
  have hlines : inputLines ("\n".intercalate (dumpLines base width d)) =
      dumpLines base width d := by
    apply inputLines_intercalate
    · intro line hline
      obtain ⟨address, part, rfl⟩ := exists_of_mem_dumpLines hline
      exact break_not_mem_dumpLine address part
    · intro line hline
      obtain ⟨address, part, rfl⟩ := exists_of_mem_dumpLines hline
      exact dumpLine_ne_empty address part
  refine ⟨_, hexDumpValue_bytes hwidth kind d base, ?_⟩
  rw [hlines, length_dumpLines]
  refine ⟨length_chunks hwidth d, ?_, readData_byteText base width d⟩
  intro j line hline
  rw [getElem?_dumpLines, getElem?_chunks hwidth, Option.map_eq_some_iff] at hline
  obtain ⟨part, hpart, rfl⟩ := hline
  -- the line is that of the piece at its place
  obtain ⟨-, hpart⟩ := Option.ite_none_right_eq_some.mp hpart
  cases hpart
  exact ⟨showsLine_dumpLine _ _, full_of_getElem?_chunks hwidth⟩

/-- Eighteen bytes at eight a line, from an address of nine places on. -/
theorem dump_of_eighteen :
    ∃ text, hexDumpValue (.octets ((List.range 18).map Nat.toUInt8)) (.int 0x123456789) (.int 8) =
        .ok text ∧ (inputLines text).length = 3 ∧
      readData ("hex:" ++ byteText (inputLines text)) = .ok ((List.range 18).map Nat.toUInt8) := by
  obtain ⟨text, htext, hlength, -, hagain⟩ :=
    (dump_loses_nothing (Nat.succ_pos 7) .fixed ((List.range 18).map Nat.toUInt8)
      0x123456789).1
  exact ⟨text, htext, hlength, hagain⟩

end Columns

end SectorDisk.Console

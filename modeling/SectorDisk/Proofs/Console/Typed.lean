import SectorDisk.Proofs.Console.KeyPieces
import SectorDisk.Proofs.Text.Hex
import SectorDisk.Proofs.Text.Torn
import SectorDisk.Proofs.Text.Utf8

/-!
# What is typed

The texts that a user types for data and for keys, exactly: data behind `hex:` is what hexadecimal
text spells (`Text.Hex.Spells`) and any other text stands for its own bytes, if it has any; keys are
what is left of the pieces between commas once they are stripped (`Text.Stripped`).  A list of keys
that was accepted is accepted again when it is written with commas, as the same list.

A text here is any row of code points.  A row with a lone half of a surrogate pair may well hold
keys, but there are no bytes for it.
-/

namespace SectorDisk.Console

variable {s t : String} {bytes : Bytes} {e : Failure} {keys : List Value}
  {points rest : List Text.Point} {torn : Text.Torn}

/-! ## §1 Data -/

theorem toList_hex (t : String) : ("hex:" ++ t).toList = hexMark ++ t.toList := by
  rw [String.toList_append]
  rfl

theorem readData_hex (t : String) :
    readData ("hex:" ++ t) = (Text.Hex.read t.toList).mapError Failure.hexData := by
  have hmark : hexMark.isPrefixOf (hexMark ++ t.toList) = true :=
    List.isPrefixOf_iff_prefix.mpr (List.prefix_append ..)
  rw [readData, toList_hex, if_pos hmark, List.drop_left]
  cases Text.Hex.read t.toList <;> rfl

theorem readData_hex_iff :
    readData ("hex:" ++ t) = .ok bytes ↔ Text.Hex.Spells t.toList bytes := by
  rw [readData_hex, ← Text.Hex.read_eq_ok_iff]
  cases Text.Hex.read t.toList with
  | ok found => rw [Except.mapError, Except.ok.injEq, Except.ok.injEq]
  | error position => exact iff_of_false (fun h => by cases h) fun h => by cases h

/-- A marked text of characters is read as hexadecimal text. -/
theorem ofPoints_hex (cs : List Char) :
    Value.ofPoints (hexMark.map .char ++ cs.map .char) = .string ("hex:" ++ String.ofList cs) := by
  rw [← List.map_append, Value.ofPoints_char, String.ofList_append]
  rfl

/-- A marked text with a lone half has a character out of place. -/
theorem readDataValue_hexTorn (t : Text.Torn) :
    ∃ position, readDataValue (.ofPoints (hexMark.map .char ++ t.points)) =
      .error (.hexData position) := by
  have hmark : hexMark.isPrefixOf (hexMark ++ t.before) = true :=
    List.isPrefixOf_iff_prefix.mpr (List.prefix_append ..)
  rw [Text.Torn.points_append, Value.ofPoints_points, readDataValue, tornData, if_pos hmark]
  exact ⟨_, rfl⟩

theorem readDataValue_hex_iff :
    readDataValue (.ofPoints (hexMark.map .char ++ rest)) = .ok bytes ↔
      ∃ cs : List Char, rest = cs.map .char ∧ Text.Hex.Spells cs bytes := by
  constructor
  · intro hread
    obtain ⟨cs, rfl⟩ | ⟨torn, rfl⟩ := Text.Torn.ofPoints_cases rest
    · rw [ofPoints_hex] at hread
      have hspells := readData_hex_iff.mp hread
      rw [String.toList_ofList] at hspells
      exact ⟨cs, rfl, hspells⟩
    · obtain ⟨position, hbad⟩ := readDataValue_hexTorn torn
      cases hbad.symm.trans hread
  · rintro ⟨cs, rfl, hspells⟩
    rw [ofPoints_hex]
    apply readData_hex_iff.mpr
    rw [String.toList_ofList]
    exact hspells

theorem kind_of_readDataValue_hex
    (hread : readDataValue (.ofPoints (hexMark.map .char ++ rest)) = .error e) :
    e.kind = .badOption := by
  obtain ⟨cs, rfl⟩ | ⟨torn, rfl⟩ := Text.Torn.ofPoints_cases rest
  · rw [ofPoints_hex, readDataValue, readData_hex] at hread
    cases hfound : Text.Hex.read (String.ofList cs).toList with
    | ok found =>
      rw [hfound] at hread
      cases hread
    | error position =>
      rw [hfound] at hread
      cases hread
      rfl
  · obtain ⟨position, hbad⟩ := readDataValue_hexTorn torn
    cases hbad.symm.trans hread
    rfl

/-- A text of characters that is not marked stands for its own bytes. -/
theorem readDataValue_plain (hplain : s.startsWith "hex:" = false) :
    ∃ bytes, readDataValue (.string s) = .ok bytes ∧ s.toByteArray = bytes.toByteArray := by
  have hmark : ¬ hexMark.isPrefixOf s.toList = true := by
    rw [List.isPrefixOf_iff_prefix]
    exact fun hprefix => Bool.eq_false_iff.mp hplain (String.startsWith_string_iff.mpr hprefix)
  exact ⟨_, if_neg hmark, Text.Utf8.eq_encode_iff.mp rfl⟩

/-- A text with a lone half that is not marked stands for no bytes. -/
theorem readDataValue_torn (hplain : ¬ hexMark <+: torn.before) :
    readDataValue (.torn torn) = .error (.unwritable torn.unwritable) := by
  rw [readDataValue, tornData, if_neg (mt List.isPrefixOf_iff_prefix.mp hplain)]

/-! ## §2 Keys -/

/-- What introduces a key behind another, among code points. -/
abbrev isMark : Text.Point → Bool :=
  Text.Point.isCharWith isComma

/-- What does not count around a key, among code points. -/
abbrev isSpace : Text.Point → Bool :=
  Text.Point.isCharWith Text.isBlank

theorem isMark_eq (p : Text.Point) : isMark p = decide (p = .char ',') := by
  cases p <;> simp [isMark, Text.Point.isCharWith, Text.Point.char?, isComma]

theorem splitOn_mark (points : List Text.Point) :
    points.splitOn (.char ',') = points.splitOnP isMark := by
  have hsame : isMark = (· == .char ',') := by
    funext p
    rw [isMark_eq]
    rfl
  rw [List.splitOn_eq_splitOnP, hsame]

/-- Characters and code points have the same keys. -/
theorem readKeyListValue_ofPoints (points : List Text.Point) :
    readKeyListValue (.ofPoints points) =
      ((keyPieces isMark isSpace points).map (·.map Value.ofPoints)).mapError
        fun piece => .optionKey (.ofPoints piece) := by
  obtain ⟨cs, rfl⟩ | ⟨t, rfl⟩ := Text.Torn.ofPoints_cases points
  -- characters are cut as characters, which cuts their code points at the same places
  · have hpieces : keyPieces isMark isSpace (cs.map .char) =
        ((keyPieces isComma Text.isBlank cs).map (·.map (·.map .char))).mapError
          (·.map .char) := keyPieces_map cs
    rw [Value.ofPoints_char, readKeyListValue, readKeyList, String.toList_ofList, hpieces]
    cases keyPieces isComma Text.isBlank cs with
    | error piece =>
      simp only [Except.map, Except.mapError, Value.ofPoints_char]
    | ok pieces =>
      simp only [Except.map, Except.mapError, List.map_map, Function.comp_def,
        Value.ofPoints_char]
  · rw [Value.ofPoints_points, readKeyListValue, tornKeys]
    cases keyPieces isMark isSpace t.points <;> rfl

theorem readKeyListValue_of_short
    (hshort : ∀ core ∈ cores isMark isSpace points, core.length ≤ 1) :
    readKeyListValue (.ofPoints points) =
      .ok (((cores isMark isSpace points).filter (· ≠ [])).map .ofPoints) := by
  have hempty : (fun piece : List Text.Point => !piece.isEmpty) =
      fun piece => decide (piece ≠ []) := by
    funext piece
    cases piece <;> rfl
  rw [readKeyListValue_ofPoints, keyPieces_of_short hshort, hempty]
  rfl

theorem readKeyListValue_of_long
    (hlong : ¬ ∀ core ∈ cores isMark isSpace points, core.length ≤ 1) :
    ∃ e, readKeyListValue (.ofPoints points) = .error e ∧ e.kind = .badOption := by
  obtain ⟨piece, hpiece⟩ := keyPieces_of_long hlong
  rw [readKeyListValue_ofPoints, hpiece]
  exact ⟨_, rfl, rfl⟩

theorem readKeyListValue_again (hread : readKeyListValue (.ofPoints points) = .ok keys) :
    ∃ pieces, keys = pieces.map .ofPoints ∧
      readKeyListValue (.ofPoints ([.char ','].intercalate pieces)) = .ok keys := by
  rw [readKeyListValue_ofPoints] at hread
  cases hpieces : keyPieces isMark isSpace points with
  | error piece =>
    rw [hpieces] at hread
    cases hread
  | ok pieces =>
    rw [hpieces] at hread
    cases hread
    refine ⟨pieces, rfl, ?_⟩
    rw [readKeyListValue_ofPoints, keyPieces_again isMark_eq hpieces]
    rfl

/-- **What is typed.**  Behind `hex:` a text is accepted as data just if it is characters that spell
bytes, and stands for these; a text of characters that does not begin so stands for its bytes in
UTF-8, and one with a lone half for none.  A list of keys is accepted just if each piece between
commas is at most one code point without the blanks around it, and gives the code points in order,
however often each occurs.  Written with commas, these keys are accepted again and are the same.
What is refused behind `hex:` or as keys is refused as an argument of the command line. -/
theorem typed_exact :
    (∀ rest bytes, readDataValue (.ofPoints (hexMark.map .char ++ rest)) = .ok bytes ↔
        ∃ cs : List Char, rest = cs.map .char ∧ Text.Hex.Spells cs bytes) ∧
      (∀ rest e, readDataValue (.ofPoints (hexMark.map .char ++ rest)) = .error e →
        e.kind = .badOption) ∧
      (∀ s, s.startsWith "hex:" = false →
        ∃ bytes, readDataValue (.string s) = .ok bytes ∧ s.toByteArray = bytes.toByteArray) ∧
      (∀ t : Text.Torn, ¬ hexMark <+: t.before →
        readDataValue (.torn t) = .error (.unwritable t.unwritable)) ∧
      (∀ points, ∃ cores,
        List.Forall₂ (Text.Stripped (Text.Point.isCharWith Text.isBlank))
          (points.splitOn (.char ',')) cores ∧
        ((∀ core ∈ cores, core.length ≤ 1) → readKeyListValue (.ofPoints points) =
          .ok ((cores.filter (· ≠ [])).map .ofPoints)) ∧
        (¬ (∀ core ∈ cores, core.length ≤ 1) →
          ∃ e, readKeyListValue (.ofPoints points) = .error e ∧ e.kind = .badOption)) ∧
      ∀ points keys, readKeyListValue (.ofPoints points) = .ok keys →
        ∃ pieces, keys = pieces.map .ofPoints ∧
          readKeyListValue (.ofPoints ([.char ','].intercalate pieces)) = .ok keys := by
  refine ⟨fun rest bytes => readDataValue_hex_iff, fun rest e => kind_of_readDataValue_hex,
    fun s => readDataValue_plain, fun t => readDataValue_torn, ?_,
    fun points keys => readKeyListValue_again⟩
  intro points
  rw [splitOn_mark]
  exact ⟨cores isMark isSpace points, stripped_cores isMark isSpace points,
    readKeyListValue_of_short, readKeyListValue_of_long⟩

/-- That every text that is not marked stands for bytes is too much to say. -/
theorem not_every_text_is_data :
    ¬ ∀ points : List Text.Point, ¬ hexMark.map .char <+: points →
      ∃ bytes, readDataValue (.ofPoints points) = .ok bytes := by
  intro hall
  -- a lone half is the shortest such text
  obtain ⟨bytes, hread⟩ := hall [.half ⟨0⟩] (by decide)
  cases hread

end SectorDisk.Console

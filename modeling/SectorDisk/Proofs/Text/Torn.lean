import SectorDisk.Value

/-!
# Code points and texts

A row of code points is one text: of characters if all of them are, and otherwise torn at the first
half (`Torn.ofPoints_cases`).  As an argument it has these code points and no others
(`Value.points?_ofPoints`).
-/

namespace SectorDisk

namespace Text

variable {points : List Point}

theorem Torn.ofPoints_char (cs : List Char) : Torn.ofPoints (cs.map .char) = .ok cs := by
  induction cs with
  | nil => rfl
  | cons c rest ih => rw [List.map_cons, Torn.ofPoints, ih]

theorem Torn.ofPoints_points (t : Torn) : Torn.ofPoints t.points = .error t := by
  obtain ⟨before, first, after⟩ := t
  induction before with
  | nil => rfl
  | cons c rest ih =>
    have hpoints : Torn.points ⟨c :: rest, first, after⟩ =
        .char c :: Torn.points ⟨rest, first, after⟩ := rfl
    rw [hpoints, Torn.ofPoints, ih]
    rfl

/-- Code points are characters or a torn text. -/
theorem Torn.ofPoints_cases (points : List Point) :
    (∃ cs : List Char, points = cs.map .char) ∨ ∃ t : Torn, points = t.points := by
  induction points with
  | nil => exact .inl ⟨[], rfl⟩
  | cons p rest ih =>
    cases p with
    -- the first half tears the text, whatever stands behind it
    | half s => exact .inr ⟨⟨[], s, rest⟩, rfl⟩
    | char c =>
      obtain ⟨cs, rfl⟩ | ⟨t, rfl⟩ := ih
      · exact .inl ⟨c :: cs, rfl⟩
      · exact .inr ⟨t.behind c, rfl⟩

/-- Characters in front of a torn text go before its first half. -/
theorem Torn.points_append (cs : List Char) (t : Torn) :
    cs.map .char ++ t.points = Torn.points { t with before := cs ++ t.before } := by
  rw [Torn.points, Torn.points, List.map_append, List.append_assoc]

end Text

namespace Value

open Text (Torn)

theorem ofPoints_char (cs : List Char) :
    Value.ofPoints (cs.map .char) = .string (String.ofList cs) := by
  rw [Value.ofPoints, Torn.ofPoints_char]

theorem ofPoints_points (t : Torn) : Value.ofPoints t.points = .torn t := by
  rw [Value.ofPoints, Torn.ofPoints_points]

/-- An argument that is made of code points has just these. -/
theorem points?_ofPoints (points : List Text.Point) :
    (Value.ofPoints points).points? = some points := by
  obtain ⟨cs, rfl⟩ | ⟨t, rfl⟩ := Torn.ofPoints_cases points
  · rw [ofPoints_char, Value.points?, String.toList_ofList]
  · rw [ofPoints_points, Value.points?]

end Value

end SectorDisk

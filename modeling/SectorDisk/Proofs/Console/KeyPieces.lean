import Mathlib.Data.List.Forall2
import SectorDisk.Console.Reading
import SectorDisk.Proofs.Text.Blank

/-!
# Keys between marks

A row is taken apart at its marks, each piece is stripped of blanks, and what is left of the pieces
are the keys, each a single element (`keyPieces`).  What holds of them holds of characters and of
code points alike, and a row of characters has the keys that it has as a row of code points
(`keyPieces_map`).
-/

namespace SectorDisk.Console

variable {α β : Type} {isMark isBlank : α → Bool} {row piece : List α}

/-! ## §1 Pieces -/

theorem piecesBetween_eq_splitOnP (isMark : α → Bool) (row : List α) :
    piecesBetween isMark row = row.splitOnP isMark := by
  induction row with
  | nil => rfl
  | cons a rest ih =>
    rw [piecesBetween, ih, List.splitOnP_cons_eq_if_modifyHead]
    -- there is always a piece to put the element into
    cases hrest : rest.splitOnP isMark with
    | nil => exact absurd hrest (List.splitOnP_ne_nil _ rest)
    | cons piece pieces => rfl

theorem not_isMark_of_mem : ∀ piece ∈ piecesBetween isMark row, ∀ a ∈ piece, isMark a = false := by
  induction row with
  | nil => simp [piecesBetween]
  | cons a rest ih =>
    unfold piecesBetween
    split
    · exact List.forall_mem_cons.mpr ⟨List.forall_mem_nil _, ih⟩
    · rename_i hother
      have hother : isMark a = false := Bool.eq_false_iff.mpr hother
      split
      · simp [hother]
      · rename_i piece pieces hrest
        rw [hrest, List.forall_mem_cons] at ih
        exact List.forall_mem_cons.mpr ⟨List.forall_mem_cons.mpr ⟨hother, ih.1⟩, ih.2⟩

/-- The pieces of a row, each of them stripped. -/
def cores (isMark isBlank : α → Bool) (row : List α) : List (List α) :=
  (row.splitOnP isMark).map (Text.trimWith isBlank)

theorem stripped_cores (isMark isBlank : α → Bool) (row : List α) :
    List.Forall₂ (Text.Stripped isBlank) (row.splitOnP isMark) (cores isMark isBlank row) := by
  rw [cores, List.forall₂_map_right_iff, List.forall₂_same]
  exact fun piece _ => Text.stripped_trimWith isBlank piece

/-! ## §2 Keys -/

/-- Keys are judged by the first of them that is no single element. -/
theorem keyPieces_eq (isMark isBlank : α → Bool) (row : List α) :
    keyPieces isMark isBlank row =
      (((cores isMark isBlank row).filter (!·.isEmpty)).find?
          fun piece => decide (piece.length ≠ 1)).elim
        (.ok ((cores isMark isBlank row).filter (!·.isEmpty))) Except.error := by
  unfold keyPieces cores
  rw [piecesBetween_eq_splitOnP]
  dsimp only
  split
  · rename_i piece hfirst
    rw [hfirst]
    rfl
  · rename_i hnone
    rw [hnone]
    rfl

theorem keyPieces_of_single
    (hsingle : ∀ piece ∈ (cores isMark isBlank row).filter (!·.isEmpty), piece.length = 1) :
    keyPieces isMark isBlank row = .ok ((cores isMark isBlank row).filter (!·.isEmpty)) := by
  have hnone : ((cores isMark isBlank row).filter (!·.isEmpty)).find?
      (fun piece => decide (piece.length ≠ 1)) = none := by
    rw [List.find?_eq_none]
    intro piece hpiece
    simpa using hsingle piece hpiece
  rw [keyPieces_eq, hnone]
  rfl

theorem keyPieces_ok {pieces : List (List α)} (hok : keyPieces isMark isBlank row = .ok pieces) :
    pieces = (cores isMark isBlank row).filter (!·.isEmpty) ∧
      ∀ piece ∈ pieces, piece.length = 1 := by
  rw [keyPieces_eq] at hok
  cases hfind : ((cores isMark isBlank row).filter (!·.isEmpty)).find?
      fun piece => decide (piece.length ≠ 1) with
  | some piece =>
    rw [hfind] at hok
    cases hok
  | none =>
    rw [hfind] at hok
    cases hok
    refine ⟨rfl, fun piece hpiece => ?_⟩
    simpa using List.find?_eq_none.mp hfind piece hpiece

/-- Single elements are what is left just if no stripped piece is longer. -/
theorem single_iff_short :
    (∀ piece ∈ (cores isMark isBlank row).filter (!·.isEmpty), piece.length = 1) ↔
      ∀ core ∈ cores isMark isBlank row, core.length ≤ 1 := by
  simp only [List.mem_filter, and_imp]
  refine forall₂_congr fun core _ => ?_
  cases core with
  | nil => simp
  | cons a rest => simp

/-- **Keys between marks** are accepted just if no stripped piece is longer than one element. -/
theorem keyPieces_of_short (hshort : ∀ core ∈ cores isMark isBlank row, core.length ≤ 1) :
    keyPieces isMark isBlank row = .ok ((cores isMark isBlank row).filter (!·.isEmpty)) :=
  keyPieces_of_single (single_iff_short.mpr hshort)

theorem keyPieces_of_long (hlong : ¬ ∀ core ∈ cores isMark isBlank row, core.length ≤ 1) :
    ∃ piece, keyPieces isMark isBlank row = .error piece := by
  cases hkeys : keyPieces isMark isBlank row with
  | error piece => exact ⟨piece, rfl⟩
  | ok pieces =>
    obtain ⟨rfl, hsingle⟩ := keyPieces_ok hkeys
    exact absurd (single_iff_short.mp hsingle) hlong

/-- A key is neither blank nor a mark. -/
theorem exists_of_mem_cores {core : List α} (hcore : core ∈ cores isMark isBlank row)
    (hsingle : core.length = 1) : ∃ a, core = [a] ∧ isBlank a = false ∧ isMark a = false := by
  obtain ⟨a, rfl⟩ := List.length_eq_one_iff.mp hsingle
  obtain ⟨piece, hpiece, hstrip⟩ := List.mem_map.mp hcore
  obtain ⟨⟨before, after, hparts, -, -⟩, hfirst, -⟩ := Text.trimWith_eq_iff.mp hstrip
  refine ⟨a, rfl, hfirst a rfl, ?_⟩
  -- the key is a part of its piece, which has no mark
  rw [← piecesBetween_eq_splitOnP] at hpiece
  apply not_isMark_of_mem piece hpiece
  rw [hparts]
  simp

/-- What is neither blank nor a mark is a key by itself. -/
theorem trimWith_singleton {a : α} (hsolid : isBlank a = false) :
    Text.trimWith isBlank [a] = [a] := by
  rw [Text.trimWith_eq_iff]
  refine ⟨⟨[], [], rfl, List.forall_mem_nil _, List.forall_mem_nil _⟩, ?_, ?_⟩
  · rintro k ⟨⟩
    exact hsolid
  · rintro k ⟨⟩
    exact hsolid

/-- Single keys with marks between them are their own stripped pieces. -/
theorem cores_intercalate [DecidableEq α] {mark : α} {pieces : List (List α)}
    (hmark : ∀ a, isMark a = decide (a = mark)) (hsome : pieces ≠ [])
    (hkeys : ∀ piece ∈ pieces, ∃ a, piece = [a] ∧ isBlank a = false ∧ isMark a = false) :
    cores isMark isBlank ([mark].intercalate pieces) = pieces := by
  have hfree : ∀ piece ∈ pieces, mark ∉ piece := by
    intro piece hpiece
    obtain ⟨a, rfl, -, hother⟩ := hkeys piece hpiece
    rw [List.mem_singleton]
    rintro rfl
    rw [hmark, decide_eq_true rfl] at hother
    cases hother
  have hsplit : ([mark].intercalate pieces).splitOnP isMark = pieces := by
    have hsame : isMark = (· == mark) := by
      funext a
      rw [hmark]
      rfl
    rw [hsame, ← List.splitOn_eq_splitOnP]
    exact List.splitOn_intercalate mark hfree hsome
  rw [cores, hsplit]
  refine (List.map_congr_left fun piece hpiece => ?_).trans (List.map_id' _)
  obtain ⟨a, rfl, hsolid, -⟩ := hkeys piece hpiece
  exact trimWith_singleton hsolid

/-- **Keys that were accepted** are accepted again, written with marks between them. -/
theorem keyPieces_again [DecidableEq α] {mark : α} {pieces : List (List α)}
    (hmark : ∀ a, isMark a = decide (a = mark)) (hok : keyPieces isMark isBlank row = .ok pieces) :
    keyPieces isMark isBlank ([mark].intercalate pieces) = .ok pieces := by
  obtain ⟨hpieces, hsingle⟩ := keyPieces_ok hok
  have hkeys : ∀ piece ∈ pieces, ∃ a, piece = [a] ∧ isBlank a = false ∧ isMark a = false := by
    intro piece hpiece
    have hkept := hpiece
    rw [hpieces] at hkept
    exact exists_of_mem_cores (List.mem_filter.mp hkept).1 (hsingle piece hpiece)
  have hagain :
      (cores isMark isBlank ([mark].intercalate pieces)).filter (!·.isEmpty) = pieces := by
    cases pieces with
    -- no keys make an empty row, whose one piece is empty and is left out
    | nil => rfl
    | cons first rest =>
      rw [cores_intercalate hmark (List.cons_ne_nil _ _) hkeys, List.filter_eq_self]
      intro piece hpiece
      obtain ⟨a, rfl, -⟩ := hkeys piece hpiece
      rfl
  rw [keyPieces_of_single (hagain.symm ▸ hsingle), hagain]

/-! ## §3 Rows of other elements -/

variable {f : β → α}

theorem piecesBetween_map (row : List β) :
    piecesBetween isMark (row.map f) = (piecesBetween (isMark ∘ f) row).map (·.map f) := by
  induction row with
  | nil => rfl
  | cons b rest ih =>
    rw [List.map_cons, piecesBetween, piecesBetween, ih]
    by_cases hmark : isMark (f b) = true
    · simp only [Function.comp_apply, if_pos hmark, List.map_cons, List.map_nil]
    · simp only [Function.comp_apply, if_neg hmark]
      cases piecesBetween (isMark ∘ f) rest <;> rfl

theorem trimWith_map (row : List β) :
    Text.trimWith isBlank (row.map f) = (Text.trimWith (isBlank ∘ f) row).map f := by
  simp only [Text.trimWith, List.dropWhile_map, ← List.map_reverse]

/-- Keys do not depend on what the elements of a row are written as. -/
theorem keyPieces_map (row : List β) :
    keyPieces isMark isBlank (row.map f) =
      ((keyPieces (isMark ∘ f) (isBlank ∘ f) row).map (·.map (·.map f))).mapError (·.map f) := by
  have hempty : (fun piece : List α => !piece.isEmpty) ∘ (·.map f) =
      fun piece : List β => !piece.isEmpty := by
    funext piece
    cases piece <;> rfl
  have hlength : (fun piece : List α => decide (piece.length ≠ 1)) ∘ (·.map f) =
      fun piece : List β => decide (piece.length ≠ 1) := by
    funext piece
    rw [Function.comp, List.length_map]
  have hstrip : ((piecesBetween (isMark ∘ f) row).map (·.map f)).map (Text.trimWith isBlank) =
      ((piecesBetween (isMark ∘ f) row).map (Text.trimWith (isBlank ∘ f))).map (·.map f) := by
    simp only [List.map_map]
    exact List.map_congr_left fun piece _ => trimWith_map piece
  have hkept : (((piecesBetween isMark (row.map f)).map (Text.trimWith isBlank)).filter
        (!·.isEmpty)) =
      (((piecesBetween (isMark ∘ f) row).map (Text.trimWith (isBlank ∘ f))).filter
        (!·.isEmpty)).map (·.map f) := by
    rw [piecesBetween_map, hstrip, List.filter_map, hempty]
  unfold keyPieces
  rw [hkept]
  simp only [List.find?_map, hlength]
  cases (((piecesBetween (isMark ∘ f) row).map (Text.trimWith (isBlank ∘ f))).filter
    (!·.isEmpty)).find? fun piece => decide (piece.length ≠ 1) <;> rfl

end SectorDisk.Console

import SectorDisk.Device.Mirror
import SectorDisk.Proofs.View

/-!
# Arguments

Which values name a sector, an offset or data to write, and whom a failure blames for being none.
What takes some arguments and refuses all others does so exactly (`Exact`).
-/

namespace SectorDisk

/-! ## §1 Blame -/

/-- The failure is that of a malformed argument, and this is the argument. -/
def Failure.Blames (e : Failure) (argument : String) : Prop :=
  e.kind = .invalidArgument ∧ ("argument", Value.string argument) ∈ e.report.context

theorem Failure.deviceClosed_blames : Failure.deviceClosed.Blames "device" :=
  ⟨rfl, .head _⟩

theorem Failure.handleClosed_blames : Failure.handleClosed.Blames "handle" :=
  ⟨rfl, .head _⟩

/-- A failure blames one argument only. -/
theorem Failure.blames_iff {e : Failure} {message argument other : String} {cause : Option String}
    (hreport : e.report = invalidArgument message argument cause) :
    e.Blames other ↔ other = argument := by
  have hkind : e.kind = .invalidArgument := by
    rw [kind, hreport]
    rfl
  have hcontext : ("argument", Value.string other) ∈ e.report.context ↔ other = argument := by
    rw [hreport]
    simp only [invalidArgument, Report.of, Kind.fields, List.cons_append, List.zip_cons_cons,
      List.mem_cons, Prod.mk.injEq, Value.string.injEq, true_and]
    -- the field behind the argument has another name
    simp
  rw [Blames, hkind, hcontext]
  exact and_iff_right rfl

/-- What has no bytes in one piece is refused as data, whether it has bytes at all or not. -/
theorem Storage.dataFailure_blames {data : Value} {argument : String} :
    (dataFailure data).Blames argument ↔ argument = "data" := by
  unfold dataFailure
  split
  · exact Failure.blames_iff (show _ = invalidArgument "Write data must be a bytes-like object"
      "data" spacedText from rfl)
  · exact Failure.blames_iff (show _ = invalidArgument "Write data must be a bytes-like object"
      "data" (bytesNeededText data.typeName) from rfl)

theorem Storage.dataFailure_kind (data : Value) : (dataFailure data).kind = .invalidArgument :=
  (dataFailure_blames.mpr rfl).1

/-! ## §2 Natural numbers -/

theorem eq_int_of_natural {argument : String} {v : Value} {n : Nat}
    (hn : natural argument v = .ok n) : v = .int n := by
  unfold natural at hn
  split at hn
  · rename_i m
    split at hn
    · cases hn
    · cases hn
      rw [Int.toNat_of_nonneg (by omega)]
  · cases hn

theorem natural_int (argument : String) (n : Nat) : natural argument (.int n) = .ok n := by
  have hsign : ¬(n : Int) < 0 := by omega
  simp only [natural, if_neg hsign, Int.toNat_natCast]

theorem natural_error {argument : String} {v : Value} {e : Failure}
    (he : natural argument v = .error e) : e = .notInteger argument ∨ e = .negative argument := by
  unfold natural at he
  split at he
  · split at he
    · cases he
      exact .inr rfl
    · cases he
  · cases he
    exact .inl rfl

theorem natural_error_blames {argument other : String} {v : Value} {e : Failure}
    (he : natural argument v = .error e) : e.Blames other ↔ other = argument := by
  rcases natural_error he with rfl | rfl
  · have hreport : (Failure.notInteger argument).report =
        invalidArgument (argument ++ " must be an integer") argument none := rfl
    exact Failure.blames_iff hreport
  · have hreport : (Failure.negative argument).report =
        invalidArgument (argument ++ " must not be negative") argument none := rfl
    exact Failure.blames_iff hreport

theorem natural_error_iff (argument : String) {v : Value} :
    (∃ e, natural argument v = .error e) ↔ ∀ n : Nat, v ≠ .int n := by
  constructor
  · rintro ⟨e, he⟩ n rfl
    rw [natural_int] at he
    cases he
  · intro hnone
    cases hn : natural argument v with
    | error e => exact ⟨e, rfl⟩
    | ok n => exact absurd (eq_int_of_natural hn) (hnone n)

/-! ## §3 Sectors -/

theorem Sector.ofValue_val (s : Sector) : Sector.ofValue (.int s.val) = .ok s := by
  have hs := s.isLt
  have hrange : 0 ≤ (s.val : Int) ∧ (s.val : Int) < 8 := by omega
  simp only [ofValue, ofIndex?, dif_pos hrange, Int.toNat_natCast, Fin.eta]

theorem Sector.eq_of_ofIndex? {n : Int} {s : Sector} (hs : ofIndex? n = some s) : n = s.val := by
  unfold ofIndex? at hs
  split at hs
  · rename_i hrange
    cases hs
    exact (Int.toNat_of_nonneg hrange.1).symm
  · cases hs

theorem Sector.eq_int_of_ofValue {v : Value} {s : Sector} (hs : Sector.ofValue v = .ok s) :
    v = .int s.val := by
  unfold ofValue at hs
  split at hs
  · split at hs
    · rename_i found hfound
      cases hs
      rw [eq_of_ofIndex? hfound]
    · cases hs
  · cases hs

theorem Sector.ofValue_error {v : Value} {e : Failure} (he : Sector.ofValue v = .error e) :
    e.kind = .invalidSector := by
  unfold ofValue at he
  split at he
  · split at he
    · cases he
    · cases he
      rfl
  · cases he
    rfl

/-! ## §4 Data -/

theorem Storage.bytesToWrite_of_some {data : Value} {bytes : Bytes}
    (hdata : data.bytes? = some bytes) : bytesToWrite data = .ok bytes := by
  rw [bytesToWrite, hdata]

theorem Storage.bytesToWrite_of_none {data : Value} (hdata : data.bytes? = none) :
    bytesToWrite data = .error (dataFailure data) := by
  rw [bytesToWrite, hdata]

theorem Storage.bytes?_of_bytesToWrite {data : Value} {bytes : Bytes}
    (hbytes : bytesToWrite data = .ok bytes) : data.bytes? = some bytes := by
  cases hdata : data.bytes? with
  | some found =>
    rw [bytesToWrite_of_some hdata] at hbytes
    rw [Except.ok.inj hbytes]
  | none =>
    rw [bytesToWrite_of_none hdata] at hbytes
    cases hbytes

/-- The content for a sector is the beginning of enough bytes in one piece. -/
theorem Mirror.sectorBytes_eq_ok_iff {data : Value} {content : Bytes} :
    sectorBytes data = .ok content ↔
      ∃ bytes, data.bytes? = some bytes ∧ sectorSize ≤ bytes.length ∧
        content = bytes.take sectorSize := by
  constructor
  · intro hcontent
    unfold sectorBytes at hcontent
    split at hcontent
    · cases hcontent
    · rename_i held hheld
      split at hcontent
      · cases hcontent
      · rename_i hsize
        split at hcontent
        · cases hcontent
        · rename_i bytes hbytes
          cases hcontent
          cases hheld.symm.trans (Value.held?_of_bytes? hbytes)
          exact ⟨held, hbytes, Nat.not_lt.mp hsize, rfl⟩
  · rintro ⟨bytes, hbytes, hsize, rfl⟩
    simp only [sectorBytes, Value.held?_of_bytes? hbytes, hbytes, if_neg (Nat.not_lt.mpr hsize)]

/-- Enough bytes for a sector, but in several pieces. -/
def Mirror.Scattered (data : Value) : Prop :=
  ∃ w : View, data = .view w ∧ w.isSolid = false ∧ sectorSize ≤ w.content.length

/-- What a sector is given that is refused: no bytes, too few of them, or scattered ones, which is
no failure of the argument. -/
theorem Mirror.sectorBytes_error {data : Value} {e : Failure} (he : sectorBytes data = .error e) :
    e.kind = .invalidArgument ∨ e = .mirrorSpaced ∧ Scattered data := by
  unfold sectorBytes at he
  split at he
  · cases he
    exact .inl rfl
  · rename_i held hheld
    split at he
    · cases he
      exact .inl rfl
    · rename_i hsize
      split at he
      · rename_i hbytes
        cases he
        refine .inr ⟨rfl, ?_⟩
        cases data with
        | bytes kind found => cases hbytes
        | view w =>
          cases hheld
          refine ⟨w, rfl, ?_, Nat.not_lt.mp hsize⟩
          rw [Bool.eq_false_iff]
          intro hsolid
          rw [Value.bytes?, if_pos hsolid] at hbytes
          cases hbytes
        | _ => cases hheld
      · cases he

theorem Mirror.sectorBytes_of_scattered {data : Value} (hscattered : Scattered data) :
    sectorBytes data = .error .mirrorSpaced := by
  obtain ⟨w, rfl, hspaced, hsize⟩ := hscattered
  have hnone : (Value.view w).bytes? = none := if_neg (Bool.eq_false_iff.mp hspaced)
  have hheld : (Value.view w).held? = some w.content := rfl
  simp only [sectorBytes, hheld, hnone, if_neg (Nat.not_lt.mpr hsize)]

/-! ## §5 Exact results -/

/-- There is a result just if the condition holds, and then a good one.  Otherwise the argument is
refused. -/
structure Exact {α : Type} (r : Except Failure α) (accepted : Prop) (good : α → Prop) : Prop where
  given : accepted → ∃ a, r = .ok a ∧ good a
  refused : ¬ accepted → ∃ e, r = .error e ∧ e.kind = .invalidArgument

theorem Exact.intro {α : Type} {r : Except Failure α} {accepted : Prop} {good : α → Prop}
    (hok : ∀ a, r = .ok a → accepted ∧ good a)
    (herror : ∀ e, r = .error e → ¬ accepted ∧ e.kind = .invalidArgument) :
    Exact r accepted good := by
  cases r with
  | ok a => exact ⟨fun _ => ⟨a, rfl, (hok a rfl).2⟩, fun hno => absurd (hok a rfl).1 hno⟩
  | error e => exact ⟨fun hyes => absurd hyes (herror e rfl).1, fun _ => ⟨e, rfl, (herror e rfl).2⟩⟩

end SectorDisk

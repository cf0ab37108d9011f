/-!
# Results

A result that was put together is a failure as soon as a part of it is.
-/

namespace SectorDisk

variable {ε α β : Type} {r : Except ε α} {b : β}

theorem exists_of_map_ok {f : α → β} (hok : r.map f = .ok b) : ∃ a, r = .ok a ∧ b = f a := by
  cases r with
  | error e => cases hok
  | ok a => exact ⟨a, rfl, (Except.ok.inj hok).symm⟩

theorem exists_of_bind_ok {next : α → Except ε β} (hok : (r >>= next) = .ok b) :
    ∃ a, r = .ok a ∧ next a = .ok b := by
  cases r with
  | error e => cases hok
  | ok a => exact ⟨a, rfl, hok⟩

end SectorDisk

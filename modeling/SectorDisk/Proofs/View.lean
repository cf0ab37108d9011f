import SectorDisk.Value

/-!
# What views hold

A view that is no byte string holds as many bytes as its items take.  Where these lie in one piece
and there is more than one item, an item takes more than one byte: then there are more bytes than
items, so that nothing that counts items is fooled into taking the view for a byte string.
-/

namespace SectorDisk

namespace View

variable (v : View)

/-- Items of one size take that size each. -/
theorem length_flatMap_toList {size : Nat} (items : List (Vector UInt8 size)) :
    (items.flatMap Vector.toList).length = items.length * size := by
  induction items with
  | nil => rw [List.flatMap_nil, List.length_nil, List.length_nil, Nat.zero_mul]
  | cons item rest ih =>
    rw [List.flatMap_cons, List.length_append, ih, Vector.length_toList, List.length_cons,
      Nat.add_one_mul, Nat.add_comm]

theorem length_content : v.content.length = v.items.length * v.size.bytes :=
  length_flatMap_toList v.items

variable {v}

/-- Several items in one piece take more than one byte each. -/
theorem length_items_lt (hsolid : v.isSolid = true) (hmany : 1 < v.items.length) :
    v.items.length < v.content.length := by
  -- a single item may be in one piece although the view is spaced, but there are several
  have hspaced : v.isSpaced = false := by
    rcases Bool.or_eq_true_iff.mp hsolid with hdense | hsingle
    · exact Bool.not_eq_true' _ |>.mp hdense
    · rw [beq_iff_eq] at hsingle
      omega
  have hsize : 2 ≤ v.size.bytes := by
    cases hs : v.size with
    | one =>
      rw [v.uneven hs] at hspaced
      cases hspaced
    | two | four | eight => decide
  rw [length_content]
  calc v.items.length < v.items.length * 2 := by omega
    _ ≤ v.items.length * v.size.bytes := Nat.mul_le_mul_left _ hsize

/-- A view of `count` zeros with a byte between each two of them. -/
def spacedZeros (count : Nat) : View where
  size := .one
  isSpaced := true
  items := List.replicate count (Vector.replicate 1 0)
  uneven := fun _ => rfl

theorem length_spacedZeros (count : Nat) : (spacedZeros count).content.length = count := by
  have hitems : (spacedZeros count).items.length = count := List.length_replicate
  rw [length_content, hitems]
  exact Nat.mul_one count

theorem isSolid_spacedZeros {count : Nat} (hcount : count ≠ 1) :
    (spacedZeros count).isSolid = false := by
  have hitems : (spacedZeros count).items.length = count := List.length_replicate
  rw [isSolid, hitems, beq_false_of_ne hcount]
  rfl

end View

namespace Value

/-- What has items holds bytes, and the other way round. -/
theorem held?_isSome (v : Value) : v.held?.isSome = v.itemCount?.isSome := by
  cases v <;> rfl

/-- Bytes in one piece are bytes that are held. -/
theorem held?_of_bytes? {v : Value} {data : Bytes} (hdata : v.bytes? = some data) :
    v.held? = some data := by
  unfold bytes? at hdata
  split at hdata
  · exact hdata
  · split at hdata
    · exact hdata
    · cases hdata
  · cases hdata

/-- Two byte strings or views with the same number of items and the same bytes. -/
def SameItems (v v' : Value) : Prop :=
  ∃ data count, v.held? = some data ∧ v'.held? = some data ∧
    v.itemCount? = some count ∧ v'.itemCount? = some count

/-- What has items counts as true just if there is one. -/
theorem isTrue_of_itemCount? {v : Value} {count : Nat} (hcount : v.itemCount? = some count) :
    v.isTrue = decide (count ≠ 0) := by
  cases v with
  | bytes kind data =>
    cases hcount
    cases data <;> rfl
  | view w =>
    cases hcount
    rw [isTrue]
    cases w.items <;> rfl
  | _ => cases hcount

end Value

end SectorDisk

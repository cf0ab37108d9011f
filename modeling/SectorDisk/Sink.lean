import SectorDisk.Value

/-!
# Sinks

What a file does with the bytes it is offered.  A file takes some of the bytes at a time, or takes
none, or fails; in the end it is asked to make sure that all has reached the disk.  `Sink.drain`
offers a file everything that is left until nothing is left or the file takes no more, and the file
writes what it takes behind what it took before.
-/

namespace SectorDisk

/-! ## §1 Behaviour of a file -/

/-- What a file answers to `offered` bytes. -/
inductive Answer (offered : Nat) where
  /-- It takes the first `count`, at least one. -/
  | took (count : Nat) (pos : 0 < count) (le : count ≤ offered)
  /-- It takes none. -/
  | nothing
  /-- It fails. -/
  | failed (cause : Value)

/-- The behaviour of a file. -/
structure Sink where
  /-- The answer when `written` bytes have been taken and `offered` are at hand. -/
  answer : (written offered : Nat) → Answer offered
  /-- What goes wrong when everything is to reach the disk. -/
  syncFailure : Option Value

namespace Sink

theorem scripted_fits (chunk limit written offered : Nat) :
    min chunk (min (limit - written) offered) ≤ offered := by
  omega

/-- A file that takes at most `chunk` bytes at a time and `limit` in all, and then answers as
`ending` says. -/
def scripted (chunk limit : Nat) (ending syncFailure : Option Value) : Sink where
  answer written offered :=
    let count := min chunk (min (limit - written) offered)
    if h : 0 < count then .took count h (scripted_fits chunk limit written offered)
    else
      match ending with
      | none => .nothing
      | some cause => .failed cause
  syncFailure := syncFailure

/-- What a file takes at a time and in all where nothing is wrong with it. -/
def ampleRoom : Nat := 1048576

/-- A file that takes everything. -/
def ample : Sink :=
  scripted ampleRoom ampleRoom none none

/-! ## §2 Draining -/

/-- The content of a file after bytes were written into it at a position: what stood there is
replaced, and what stands behind them stays. -/
def overwritten (content : Bytes) (position : Nat) (data : Bytes) : Bytes :=
  content.take position ++ data ++ content.drop (position + data.length)

/-- How the offering ended. -/
structure Delivery where
  /-- What the file holds. -/
  content : Bytes
  /-- How many bytes were taken. -/
  written : Nat
  /-- What went wrong, if anything did. -/
  failure : Option Value

/-- Offers what is left of an image when `written` bytes of it have been taken.  The file, which
holds `content`, writes what it takes behind these. -/
def offer (sink : Sink) (image content : Bytes) (written : Nat) : Delivery :=
  if image.length ≤ written then ⟨content, written, sink.syncFailure⟩
  else
    match sink.answer written (image.length - written) with
    | .took count _ _ =>
      let taken := (image.drop written).take count
      sink.offer image (overwritten content written taken) (written + count)
    | .nothing => ⟨content, written, sink.syncFailure⟩
    | .failed cause => ⟨content, written, some cause⟩
termination_by image.length - written

/-- Offers an image to a file that was just opened and holds `content`. -/
def drain (sink : Sink) (image content : Bytes) : Delivery :=
  sink.offer image content 0

end Sink

end SectorDisk

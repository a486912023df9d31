import StackScript.Text.Lines

/-!
# Where output goes

A *device* of a host takes bytes. It has a state of its own, and with each call it answers as it
likes: it may take some of the bytes that it is offered, or fail, and it may fail to pass on what it
has taken. A *stream* is a device at work, with a log of what it took. A *sink* is where hooks write:
a stream, the standard output, a text kept in memory, or nowhere. A sink never reports a failure, so
that no program fails because its output could not be delivered.
-/

namespace StackScript

/-- A device of a host. A call that is interrupted is made again, so an answer here is the first that
is not an interruption. -/
structure Device where
  State : Type
  /-- Offers bytes: the device takes this many of them from the front, or gives the reason why it takes
  none. -/
  write : State → List UInt8 → Except String Nat × State
  /-- Asks the device to pass on what it has taken. -/
  flush : State → Except String Unit × State
  /-- A device does not take more than it is offered. -/
  write_le : ∀ {state bytes n}, (write state bytes).1 = .ok n → n ≤ bytes.length

namespace Device

/-- A device that takes everything. -/
def memory : Device where
  State := Unit
  write := fun _ bytes => (.ok bytes.length, ())
  flush := fun _ => (.ok (), ())
  write_le := by simp

/-- A device that refuses every write for the given reason. -/
def broken (reason : String) : Device where
  State := Unit
  write := fun _ _ => (.error reason, ())
  flush := fun _ => (.ok (), ())
  write_le := by simp

/-- A device that takes everything but cannot be flushed. -/
def unflushable (reason : String) : Device where
  State := Unit
  write := fun _ bytes => (.ok bytes.length, ())
  flush := fun _ => (.error reason, ())
  write_le := by simp

end Device

/-- A device in some state, with what it has taken and refused so far. -/
structure Stream where
  device : Device
  state : device.State
  /-- All bytes that the device has taken. -/
  received : List UInt8 := []
  /-- How often the device took none of the bytes that it was offered. -/
  refused : Nat := 0

namespace Stream

/-- A stream that keeps everything in memory. -/
def memory : Stream :=
  { device := .memory, state := () }

/-- A stream that refuses every write for the given reason. -/
def broken (reason : String) : Stream :=
  { device := .broken reason, state := () }

/-- A stream that takes every write but cannot be flushed. -/
def unflushable (reason : String) : Stream :=
  { device := .unflushable reason, state := () }

/-- The failure of a write that takes nothing. -/
def nothingTaken : String := "failed to write whole buffer"

/-- Offers bytes to the device once. The result is the number of bytes taken. -/
def offer (s : Stream) (bytes : List UInt8) : Except String Nat × Stream :=
  match s.device.write s.state bytes with
  | (.error reason, state) => (.error reason, { s with state, refused := s.refused + 1 })
  | (.ok 0, state) => (.error nothingTaken, { s with state, refused := s.refused + 1 })
  | (.ok n, state) => (.ok n, { s with state, received := s.received ++ bytes.take n })

/-- Offers bytes to the device, and what it left of them again, until it has taken all of them or
fails. -/
def write (s : Stream) : List UInt8 → Except String Unit × Stream
  | [] => (.ok (), s)
  | byte :: bytes =>
    match s.offer (byte :: bytes) with
    | (.error reason, s) => (.error reason, s)
    -- at least one byte was taken
    | (.ok n, s) => s.write (bytes.drop (n - 1))
termination_by bytes => bytes.length

/-- Writes texts one after the other, up to the first that fails. -/
def writeEach (s : Stream) : List String → Except String Unit × Stream
  | [] => (.ok (), s)
  | text :: texts =>
    match s.write text.toUTF8.data.toList with
    | (.ok (), s) => s.writeEach texts
    | (.error reason, s) => (.error reason, s)

/-- Asks the device to pass on what it has taken. -/
def flush (s : Stream) : Except String Unit × Stream :=
  let (result, state) := s.device.flush s.state
  (result, { s with state })

/-- Writes a text and flushes the device if it has taken all of it. -/
def writeFlushed (s : Stream) (text : String) : Except String Unit × Stream :=
  match s.write text.toUTF8.data.toList with
  | (.ok (), s) => s.flush
  | (.error reason, s) => (.error reason, s)

/-- What the device has taken, if it is text. -/
def text (s : Stream) : String :=
  (Text.decode? s.received).getD ""

end Stream

/-- Where hooks write. -/
inductive Sink where
  /-- The standard output, with what was written to it. -/
  | stdout (written : String)
  /-- A text in memory. -/
  | capture (text : String)
  /-- A stream of the host. -/
  | stream (s : Stream)
  /-- Nowhere. -/
  | null

namespace Sink

/-- Writes a text as it is. A failure of the stream is dropped. -/
def write (text : String) : Sink → Sink
  | .stdout written => .stdout (written ++ text)
  | .capture kept => .capture (kept ++ text)
  | .stream s => .stream (s.writeFlushed text).2
  | .null => .null

/-- Writes a text and a line feed. -/
def writeLine (text : String) (sink : Sink) : Sink :=
  (sink.write text).write "\n"

/-- The text kept in memory; other sinks keep none. -/
def captured : Sink → String
  | .capture text => text
  | _ => ""

/-- The text that a stream of the host has received. -/
def delivered : Sink → String
  | .stream s => s.text
  | _ => ""

/-- The text that was written to the standard output. -/
def printed : Sink → String
  | .stdout written => written
  | _ => ""

/-- Empties the text kept in memory. -/
def clear : Sink → Sink
  | .capture _ => .capture ""
  | sink => sink

/-- The name of the kind of sink. -/
def label : Sink → String
  | .stdout _ => "Stdout"
  | .capture _ => "Capture"
  | .stream _ => "Writer"
  | .null => "Null"

end Sink

end StackScript

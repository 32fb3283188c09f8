import OpTiming.Failure

/-!
# Sinks

Where result lines go.  A sink keeps all that was written to it, and it may fail: its **`Temper`**
says, for all that it was given so far, whether it takes the next text and whether the next flush
succeeds.  What was written before stays.

* **`Temper.limited`** — once a given number of line feeds was written it takes no more text, and the
  flush of a given number fails.

Text is written in **chunks**.  A chunk has two spellings, the one that is written and one in which
the figures that depend on a clock are masked, so that what two runs wrote can be compared.
-/

namespace OpTiming

/-- A piece of text on its way to a sink. -/
structure Chunk where
  /-- What is written. -/
  shown : String
  /-- The same with masked figures. -/
  masked : String

namespace Chunk

/-- A text without figures. -/
def ofText (text : String) : Chunk := ⟨text, text⟩

/-- The end of a line. -/
def lineFeed : Chunk := ofText "\n"

/-- The number of line feeds in a text. -/
def lineFeeds (text : String) : Nat := text.toList.count '\n'

/-- The number of line feeds in several chunks. -/
def lineFeedsIn : List Chunk → Nat
  | [] => 0
  | chunk :: chunks => lineFeeds chunk.shown + lineFeedsIn chunks

end Chunk

/-- When a sink fails.  It decides by the chunks it took and by how often it was flushed. -/
structure Temper where
  /-- Why the next chunk is refused, if it is. -/
  refusesChunk : (taken : Array Chunk) → (flushes : Nat) → (next : Chunk) → Option String
  /-- Why the next flush fails, if it does. -/
  refusesFlush : (taken : Array Chunk) → (flushes : Nat) → Option String

namespace Temper

/-- Whether a sink that takes so many line feeds is full. -/
def isFull (capacity : Option Nat) (taken : Array Chunk) : Bool :=
  match capacity with
  | none => false
  | some n => n ≤ Chunk.lineFeedsIn taken.toList

/-- Take no more text after so many line feeds, and fail the flush of a number, counted from one. -/
def limited (capacity badFlush : Option Nat) : Temper :=
  { refusesChunk := fun taken _ _ => if isFull capacity taken then some "disk full" else none
    refusesFlush := fun _ flushes => if badFlush = some (flushes + 1) then some "closed" else none }

end Temper

/-- A sink: when it fails, and what it was given. -/
structure Sink where
  temper : Temper
  /-- What was written, in order. -/
  chunks : Array Chunk
  flushes : Nat

namespace Sink

/-- A sink with limits to which nothing was written yet. -/
def new (capacity badFlush : Option Nat) : Sink := ⟨.limited capacity badFlush, #[], 0⟩

/-- How many line feeds were written. -/
def written (s : Sink) : Nat := Chunk.lineFeedsIn s.chunks.toList

/-- Write a chunk.  One without text always succeeds. -/
def write (s : Sink) (chunk : Chunk) : Except Failure Sink :=
  if chunk.shown.isEmpty then .ok s
  else match s.temper.refusesChunk s.chunks s.flushes chunk with
    | some reason => .error (.output reason)
    | none => .ok { s with chunks := s.chunks.push chunk }

/-- Flush the sink: whether it succeeded, and the sink after it. -/
def flush (s : Sink) : Except Failure Unit × Sink :=
  let after := { s with flushes := s.flushes + 1 }
  match s.temper.refusesFlush s.chunks s.flushes with
  | some reason => (.error (.output reason), after)
  | none => (.ok (), after)

/-- All that was written. -/
def text (s : Sink) : String := String.join (s.chunks.toList.map Chunk.shown)

/-- All that was written, with masked figures. -/
def maskedText (s : Sink) : String := String.join (s.chunks.toList.map Chunk.masked)

end Sink

end OpTiming

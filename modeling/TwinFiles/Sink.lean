import TwinFiles.Bytes

/-!
# Destinations with limited room

A sink takes bytes until it is full and stays full: its room may be bounded by a number of bytes,
by a number of newlines, or by both. A write that does not fit leaves what fits and fails.
-/

namespace TwinFiles

/-- What a sink still has room for: so many bytes and so many newlines, where there is a bound. -/
structure Room where
  bytes : Option Nat
  lines : Option Nat
  deriving DecidableEq, Repr

namespace Room

/-- Room for everything. -/
def unlimited : Room := ⟨none, none⟩

/-- A text up to and including its `n`th newline. -/
def throughLine : Nat → Bytes → Bytes
  | 0, _ => []
  | _, [] => []
  | n + 1, b :: rest =>
    if b = Ascii.newline then b :: throughLine n rest else b :: throughLine (n + 1) rest

/-- The part of a text that a bound on newlines leaves. -/
def linesPart : Option Nat → Bytes → Bytes
  | none, text => text
  | some n, text => throughLine n text

/-- The part of a text that a bound on bytes leaves. -/
def bytesPart : Option Nat → Bytes → Bytes
  | none, text => text
  | some n, text => text.take n

/-- The part of a text that there is room for: the longest prefix within both bounds. -/
def part (room : Room) (text : Bytes) : Bytes :=
  bytesPart room.bytes (linesPart room.lines text)

/-- The room that is left after a part has been written. -/
def after (room : Room) (part : Bytes) : Room :=
  ⟨room.bytes.map (· - part.length), room.lines.map (· - part.count Ascii.newline)⟩

end Room

/-- How writing to a sink fails. -/
inductive SinkFailure where
  | full
  | flush
  deriving DecidableEq, Repr

def SinkFailure.text : SinkFailure → Bytes
  | full => utf8 "sink full"
  | flush => utf8 "flush failed"

/-- A destination: the room that is left, whether a flush fails, and the pieces that have arrived,
the latest first. -/
structure Sink where
  room : Room
  failsFlush : Bool
  pieces : List Bytes
  deriving DecidableEq, Repr

namespace Sink

/-- An empty sink. -/
def new (room : Room) (failsFlush : Bool) : Sink :=
  ⟨room, failsFlush, []⟩

/-- An empty sink that takes everything. -/
def unlimited : Sink :=
  new .unlimited false

/-- All bytes that have arrived. -/
def received (s : Sink) : Bytes :=
  s.pieces.reverse.flatten

/-- Writes a text as far as it fits, and tells whether all of it did. -/
def write (s : Sink) (text : Bytes) : Sink × Except SinkFailure Unit :=
  let part := s.room.part text
  ({ s with room := s.room.after part, pieces := part :: s.pieces },
    if part.length = text.length then .ok () else .error .full)

/-- Writes texts in order, up to the first that does not fit. -/
def writeAll (s : Sink) : List Bytes → Sink × Except SinkFailure Unit
  | [] => (s, .ok ())
  | text :: texts =>
    match s.write text with
    | (s, .ok ()) => s.writeAll texts
    | (s, .error e) => (s, .error e)

/-- Asks for delivery of what has been written. -/
def flush (s : Sink) : Except SinkFailure Unit :=
  if s.failsFlush then .error .flush else .ok ()

end Sink

end TwinFiles

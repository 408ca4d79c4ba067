import Script.Text.Bytes

/-!
# Positions and spans

A position is a byte offset into a named source, held in a 32-bit word.  A span
is a start and an end in one source.
-/

namespace Script

/-- A byte offset into a named source. -/
structure Position where
  offset : UInt32
  file : String
  deriving DecidableEq, Repr, Inhabited

/-- The bytes from `start` up to but not including `stop` of a named source. -/
structure Span where
  start : UInt32
  stop : UInt32
  file : String
  deriving DecidableEq, Repr, Inhabited

/-- The position where a span starts. -/
def Span.startPosition (span : Span) : Position :=
  ⟨span.start, span.file⟩

/-- The name of a source that was given none. -/
def unnamedSource : String :=
  "shell"

end Script

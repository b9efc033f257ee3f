import Mathlib

/-!
# Source positions

Offsets in a source text and the lines and columns that diagnostics name.
-/

namespace Woml.Compiler

/-- Lines and columns count from 1, offsets count UTF-16 code units from 0. -/
structure SourcePosition where
  line : Int
  column : Int
  offset : Int

structure SourceFile where
  path : String
  text : List UInt16

namespace SourceFile

variable (file : SourceFile)

/-- The offsets at which the lines start: 0, and the offset after each line feed. -/
def lineStarts : List Nat :=
  0 :: ((List.range file.text.length).filter fun index => file.text[index]? = some 10).map (· + 1)

def lines : Nat := file.lineStarts.length

def lineStart (index : Nat) : Nat := file.lineStarts.getD index 0

/-- The loop of `positionAt`, which halves the range of lines `low`, …, `high - 1`. -/
def search (offset low high : Nat) : Nat :=
  if low + 1 < high then
    let middle := (low + high) / 2
    if file.lineStart middle ≤ offset then search offset middle high else search offset low middle
  else low
termination_by high - low

def clamp (rawOffset : Int) : Nat := (max 0 (min rawOffset file.text.length)).toNat

def positionAt (rawOffset : Int) : SourcePosition :=
  let offset := file.clamp rawOffset
  let low := file.search offset 0 file.lines
  { line := low + 1, column := offset - file.lineStart low + 1, offset }

def offsetAt (line column : Int) : Int :=
  let safeLine := (max 1 (min line file.lines)).toNat
  let lineStart : Int := file.lineStart (safeLine - 1)
  let nextLineStart : Int :=
    if safeLine < file.lines then file.lineStart safeLine else file.text.length
  max lineStart (min (lineStart + max (column - 1) 0) nextLineStart)

end SourceFile

end Woml.Compiler

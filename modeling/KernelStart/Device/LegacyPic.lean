import KernelStart.Program

/-!
# The legacy interrupt controllers

Two chained interrupt controllers from the first PCs are still there and would deliver
their lines on the vectors of processor exceptions.  Start-up moves them out of the way
and masks every line, so that messages are the only interrupts from outside.

Moving them is a fixed dialogue: both are told to expect three more words, which are
the vector offset, the wiring of the pair, and the mode.  The controllers are slow, so
each of these words is followed by a write to an unused place.  The masks are saved
before and put back after.
-/

set_option autoImplicit false

namespace KernelStart

/-- An access to an 8-bit I/O port. -/
inductive BytePortRequest where
  | input (number : UInt16)
  | output (number : UInt16) (value : UInt8)
  deriving DecidableEq, Repr

/-- Access to 8-bit I/O ports. -/
abbrev BytePorts : Signature where
  Request := BytePortRequest
  Answer
    | .input _ => UInt8
    | .output _ _ => Unit

namespace LegacyPic

def firstCommand : UInt16 := 0x20
def firstData : UInt16 := 0x21
def secondCommand : UInt16 := 0xa0
def secondData : UInt16 := 0xa1

/-- A write here only takes time. -/
def delay : UInt16 := 0x80

/-- The first vectors of the two controllers, behind those of processor exceptions. -/
def firstVector : UInt8 := 32
def secondVector : UInt8 := firstVector + 8

def input (number : UInt16) : Program BytePorts UInt8 :=
  @Program.request BytePorts (.input number)

def output (number : UInt16) (value : UInt8) : Program BytePorts Unit :=
  @Program.request BytePorts (.output number value)

/-- The words of the dialogue: begin, vector offset, wiring, mode, for both controllers. -/
def dialogue : List (UInt16 × UInt8) :=
  [(firstCommand, 0x11), (secondCommand, 0x11),
    (firstData, firstVector), (secondData, secondVector),
    (firstData, 4), (secondData, 2),
    (firstData, 1), (secondData, 1)]

/-- Writes words one after another, each followed by a pause. -/
def writeSlowly : List (UInt16 × UInt8) → Program BytePorts Unit
  | [] => pure ()
  | (number, value) :: rest => do
    output number value
    output delay 0
    writeSlowly rest

/-- Sets the masks of both controllers; a set bit masks a line. -/
def setMasks (first second : UInt8) : Program BytePorts Unit := do
  output firstData first
  output secondData second

/-- Moves the controllers to their vectors and masks all lines. -/
def disable : Program BytePorts Unit := do
  let first ← input firstData
  let second ← input secondData
  writeSlowly dialogue
  setMasks first second
  setMasks 0xff 0xff

end LegacyPic

end KernelStart

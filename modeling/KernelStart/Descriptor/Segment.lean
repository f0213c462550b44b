/-!
# Segment descriptors

An entry of the segment table is one 64-bit word whose fields are scattered:

```
 63      56 55 54 53 52 51   48 47 46 45 44 43   40 39        32
| base 31:24| G| D| L|AV|lim 19:16| P| DPL | S| type  | base 23:16 |
 31                              16 15                            0
|          base 15:0              |          limit 15:0          |
```

The builders take arguments wider than their fields and cut them to size, so no
oversized limit or privilege level leaks into a neighbour; the accessors put the
pieces together again.  A descriptor of the task state segment is 128 bits wide and
occupies two consecutive entries.
-/

set_option autoImplicit false

namespace KernelStart.Descriptor

/-- The type field of segments that hold code or data. -/
inductive SegmentType where
  | readWrite
  | executeRead
  deriving DecidableEq, Repr

/-- The four bits by which a segment type is encoded. -/
def SegmentType.code : SegmentType → UInt64
  | readWrite => 2
  | executeRead => 10

/-- The type field of system segments and gates. -/
inductive SystemType where
  | taskAvailable
  | interruptGate
  | trapGate
  deriving DecidableEq, Repr

/-- The four bits by which a system type is encoded. -/
def SystemType.code : SystemType → UInt16
  | taskAvailable => 9
  | interruptGate => 14
  | trapGate => 15

/-- One entry of the segment table. -/
structure Segment where
  bits : UInt64
  deriving DecidableEq, Repr, Inhabited

namespace Segment

/-! ## Fields of a word -/

/-- The bits of `word` from position `low` on that `mask` selects. -/
def field (word low mask : UInt64) : UInt64 :=
  (word >>> low) &&& mask

/-- The bits of `value` that `mask` selects, moved up to position `low`. -/
def placed (value mask low : UInt64) : UInt64 :=
  (value &&& mask) <<< low

/-! ## Flag bits -/

/-- Set for code and data, clear for system segments (bit 44). -/
def nonSystem : UInt64 := 0x0000100000000000

/-- The segment may be used (bit 47). -/
def present : UInt64 := 0x0000800000000000

/-- The segment holds 64-bit code (bit 53). -/
def longMode : UInt64 := 0x0020000000000000

/-- Operands are 32 bits wide by default (bit 54). -/
def defaultOperationSize : UInt64 := 0x0040000000000000

/-- The limit counts 4 KiB pages (bit 55). -/
def granularity : UInt64 := 0x0080000000000000

/-- All bits that are flags. -/
def flagMask : UInt64 :=
  nonSystem ||| present ||| longMode ||| defaultOperationSize ||| granularity

/-! ## Reading a descriptor -/

/-- The entry that the processor never uses. -/
def null : Segment := ⟨0⟩

def base (segment : Segment) : UInt32 :=
  (field segment.bits 16 0xffffff ||| field segment.bits 56 0xff <<< 24).toUInt32

def limit (segment : Segment) : UInt32 :=
  (field segment.bits 0 0xffff ||| field segment.bits 48 0xf <<< 16).toUInt32

/-- The four bits of the type. -/
def typeCode (segment : Segment) : UInt8 :=
  (field segment.bits 40 0xf).toUInt8

def privilegeLevel (segment : Segment) : UInt8 :=
  (field segment.bits 45 3).toUInt8

/-- The flag bits, at their place in the word. -/
def flags (segment : Segment) : UInt64 :=
  segment.bits &&& flagMask

/-- Whether all bits of a flag are set. -/
def has (segment : Segment) (flag : UInt64) : Bool :=
  segment.flags &&& flag == flag

def isPresent (segment : Segment) : Bool := segment.has present
def isLongMode (segment : Segment) : Bool := segment.has longMode
def hasDefaultOperationSize (segment : Segment) : Bool := segment.has defaultOperationSize
def isNull (segment : Segment) : Bool := segment.bits == 0

/-! ## Building a descriptor -/

/-- Base and limit at their places; bits 20 and above of the limit are dropped. -/
def scatter (base limit : UInt32) : UInt64 :=
  let base := base.toUInt64
  let limit := limit.toUInt64
  placed limit 0xffff 0 ||| placed base 0xffff 16 ||| placed (base >>> 16) 0xff 32 |||
    placed (limit >>> 16) 0xf 48 ||| placed (base >>> 24) 0xff 56

/-- A present, page-granular code segment in long mode. -/
def code (type : SegmentType) (privilege : UInt8) (base limit : UInt32) : Segment :=
  ⟨scatter base limit ||| placed type.code 0xf 40 ||| placed privilege.toUInt64 3 45 |||
    (nonSystem ||| present ||| longMode ||| granularity)⟩

/-- The layout of a code segment, out of long mode and with the default operation size set. -/
def data (type : SegmentType) (privilege : UInt8) (base limit : UInt32) : Segment :=
  ⟨((code type privilege base limit).bits &&& ~~~longMode) ||| defaultOperationSize⟩

/-- The lower and upper entry of a task state segment. -/
def task (base : UInt64) (limit : UInt32) : Segment × Segment :=
  (⟨scatter base.toUInt32 limit ||| placed SystemType.taskAvailable.code.toUInt64 0xf 40 |||
      present⟩,
    ⟨base >>> 32⟩)

end Segment

end KernelStart.Descriptor

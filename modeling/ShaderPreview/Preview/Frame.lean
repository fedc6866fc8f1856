import ShaderPreview.Number.Word
import ShaderPreview.Shader.Uniform

/-!
# The uniform block of a frame

`Pointer` is the position of the pointer and of its last press, with the origin at the bottom left.
`UniformBlock` holds the values a shader reads; of the values of a frame, only those are written
that the shader uses.
-/

namespace ShaderPreview

/-- Where the pointer is and where it was last pressed. -/
structure Pointer where
  x : Float32
  y : Float32
  downX : Float32
  downY : Float32

namespace Pointer

/-- The pointer before it is moved. -/
def zero : Pointer := ⟨0, 0, 0, 0⟩

/-- A move to a position given from the top of a surface of the given height. -/
def moved (p : Pointer) (x y : Float32) (height : Nat) : Pointer :=
  { p with x := x, y := Float32.ofNat height - y }

/-- A press at a position given from the top of a surface of the given height. -/
def pressed (p : Pointer) (x y : Float32) (height : Nat) : Pointer :=
  let q := p.moved x y height
  { q with downX := q.x, downY := q.y }

end Pointer

/-- Year, month, day and seconds since midnight. -/
structure Date where
  year : Float32
  month : Float32
  day : Float32
  seconds : Float32

/-- Date slots that were never written. -/
def Date.zero : Date := ⟨0, 0, 0, 0⟩

/-- Some slot of the date is not zero. -/
def Date.isWritten (d : Date) : Bool :=
  !(d.year == 0 && d.month == 0 && d.day == 0 && d.seconds == 0)

/-- Width, height and aspect of the pixels of a surface. -/
structure Resolution where
  width : Float32
  height : Float32
  aspect : Float32

/-- The values that a shader reads. -/
structure UniformBlock where
  resolution : Resolution
  time : Float32
  timeDelta : Float32
  frame : Nat
  mouse : Pointer
  date : Date

/-- The values of one frame. -/
structure FrameInputs where
  elapsed : Float32
  delta : Float32
  frame : Nat
  pointer : Pointer
  date : Date

namespace UniformBlock

/-- A block of zeros. -/
def zero : UniformBlock := ⟨⟨0, 0, 0⟩, 0, 0, 0, .zero, .zero⟩

/-- The size of a block in bytes. -/
def size : Nat := 64

/-- The largest frame number a block holds. -/
def maxFrame : Nat := wordCount 31 - 1

/-- Writes the size of the surface, if it is used. -/
def writeResolution (used : Shader.UniformSet) (width height : Nat) (b : UniformBlock) :
    UniformBlock :=
  if used.contains .resolution then
    { b with resolution := ⟨Float32.ofNat width, Float32.ofNat height, 1⟩ }
  else b

/-- Writes those values of a frame that are used. -/
def writeFrame (used : Shader.UniformSet) (i : FrameInputs) (b : UniformBlock) : UniformBlock :=
  { b with
    time := if used.contains .time then i.elapsed else b.time
    timeDelta := if used.contains .timeDelta then i.delta else b.timeDelta
    frame := if used.contains .frame then min i.frame maxFrame else b.frame
    mouse := if used.contains .mouse then i.pointer else b.mouse
    date := if used.contains .date then i.date else b.date }

/-- The bytes of a word, lowest first. -/
def wordBytes (w : UInt32) : List UInt8 :=
  [w.toUInt8, (w >>> 8).toUInt8, (w >>> 16).toUInt8, (w >>> 24).toUInt8]

/-- The words of a block up to the date; two words of padding follow the frame number. -/
def words (b : UniformBlock) : List UInt32 :=
  [b.resolution.width.toBits, b.resolution.height.toBits, b.resolution.aspect.toBits,
    b.time.toBits, b.timeDelta.toBits, UInt32.ofNat b.frame, 0, 0,
    b.mouse.x.toBits, b.mouse.y.toBits, b.mouse.downX.toBits, b.mouse.downY.toBits]

/-- The bytes of a block up to the date. -/
def bytes (b : UniformBlock) : List UInt8 := b.words.flatMap wordBytes

end UniformBlock

end ShaderPreview

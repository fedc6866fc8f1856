import ShaderPreview.Preview.Frame
import ShaderPreview.Preview.Options
import ShaderPreview.Diagnostic.Basic

/-!
# Calls of a graphics device

Everything that is asked of a graphics device is a call.  Buffers and textures carry a number that
tells them apart even when they have the same label; objects that no call changes are known by their
label alone.
-/

namespace ShaderPreview

namespace Gpu

/-- A pixel format. -/
structure TextureFormat where
  name : String
  deriving DecidableEq, Repr

namespace TextureFormat

/-- Four components of eight bits. -/
def rgba8 : TextureFormat := ⟨"Rgba8Unorm"⟩

/-- Colours are encoded when they are written. -/
def isEncoded (f : TextureFormat) : Bool := "Srgb".toList.isSuffixOf f.name.toList

end TextureFormat

/-- How a surface is blended with what lies behind it. -/
structure AlphaMode where
  name : String
  deriving DecidableEq, Repr

/-- The device chooses the mode. -/
def AlphaMode.auto : AlphaMode := ⟨"Auto"⟩

/-- What a texture is used for. -/
inductive TextureUsage where
  | renderTarget
  deriving DecidableEq, Repr

/-- The bit of a use. -/
def TextureUsage.bit : TextureUsage → Nat
  | renderTarget => 16

/-- What a buffer is used for. -/
inductive BufferUsage where
  | mapRead
  | copySource
  | copyTarget
  | uniforms
  | queryTarget
  deriving DecidableEq, Repr

/-- The bit of a use. -/
def BufferUsage.bit : BufferUsage → Nat
  | mapRead => 1
  | copySource => 4
  | copyTarget => 8
  | uniforms => 64
  | queryTarget => 512

/-- A buffer. -/
structure Buffer where
  id : Nat
  label : String
  deriving DecidableEq, Repr

/-- A texture. -/
structure Texture where
  id : Nat
  label : String
  deriving DecidableEq, Repr

/-- What a pass draws into. -/
inductive Target where
  /-- The frame acquired last. -/
  | surface
  | texture (t : Texture)
  deriving DecidableEq, Repr

/-- How a surface is set up. -/
structure SurfaceSetup where
  width : Nat
  height : Nat
  format : TextureFormat
  presentMode : PresentMode
  alphaMode : AlphaMode
  usage : TextureUsage
  viewFormats : List TextureFormat
  frameLatency : Nat
  deriving DecidableEq, Repr

/-- What happens when a frame is acquired. -/
inductive FrameOutcome where
  | ok
  | lost
  | outdated
  | timeout
  /-- There is no memory left. -/
  | memory
  | other
  deriving DecidableEq, Repr

namespace FrameOutcome

/-- The name of an outcome. -/
def name : FrameOutcome → String
  | ok => "ok"
  | lost => "lost"
  | outdated => "outdated"
  | timeout => "timeout"
  | memory => "memory"
  | other => "other"

/-- All outcomes. -/
def all : List FrameOutcome := [ok, lost, outdated, timeout, memory, other]

/-- The text of an outcome that ends a preview. -/
def message : FrameOutcome → String
  | memory => "There is no more memory left to allocate a new frame"
  | other =>
    "Acquiring a texture failed with a generic error. Check error callbacks for more information"
  | o => o.name

end FrameOutcome

/-- A compiled stage of a program. -/
structure ShaderModule where
  label : String
  stage : Stage
  entry : String
  deriving DecidableEq, Repr

/-- A uniform buffer in a layout: its place, the stages that see it, and its least size. -/
structure UniformEntry where
  binding : Nat
  stages : List Stage
  hasDynamicOffset : Bool
  leastSize : Nat
  deriving DecidableEq, Repr

/-- A pipeline of two stages that draws triangles. -/
structure PipelineSetup where
  label : String
  layout : String
  vertex : ShaderModule
  fragment : ShaderModule
  targets : List TextureFormat
  deriving DecidableEq, Repr

/-- Where a pass writes the times of its begin and its end. -/
structure PassTimes where
  queries : String
  first : Nat
  last : Nat
  deriving DecidableEq, Repr

/-- A rectangle of a target with a range of depths. -/
structure Viewport where
  x : Float32
  y : Float32
  width : Float32
  height : Float32
  minDepth : Float32
  maxDepth : Float32

/-- The number of a device. -/
abbrev DeviceId := Nat

/-- A call. -/
inductive Call where
  | openInstance (allBackends : Bool)
  | createSurface
  | requestAdapter (preference : PowerPreference) (forSurface fallback : Bool)
  | requestDevice (label : String) (timestamps : Bool) (maxDimension : Nat)
  | watchErrors (device : DeviceId)
  | configure (s : SurfaceSetup)
  | acquire (outcome : FrameOutcome)
  | present
  | createTexture (t : Texture) (width height : Nat) (format : TextureFormat)
      (usage : TextureUsage)
  | createView (target : Target)
  | pushScope (device : DeviceId)
  | popScope (device : DeviceId) (error : Option (List Char))
  | createModule (m : ShaderModule) (bytes : Nat)
  | createBindGroupLayout (label : String) (entries : List UniformEntry)
  | createBuffer (b : Buffer) (size : Nat) (usage : List BufferUsage) (mapped : Bool)
  | createBindGroup (label layout : String) (entries : List (Nat × Buffer))
  | createPipelineLayout (label : String) (layouts : List String)
  | createPipeline (p : PipelineSetup)
  | createQueries (label : String) (count : Nat)
  | writeBuffer (b : Buffer) (offset : Nat) (block : UniformBlock)
  | createEncoder (label : String)
  | beginPass (label : String) (target : Target) (times : Option PassTimes)
  | setViewport (v : Viewport)
  | setPipeline (label : String)
  | setBindGroup (index : Nat) (label : String)
  | drawVertices (first last firstInstance lastInstance : Nat)
  | endPass
  | resolveQueries (queries : String) (first last : Nat) (target : Buffer) (offset : Nat)
  | copyBuffer (source : Buffer) (sourceOffset : Nat) (target : Buffer) (targetOffset size : Nat)
  | submit (count : Nat)
  | pollDevice (waiting : Bool)
  | mapBuffer (b : Buffer)
  | readMapped (b : Buffer)
  | unmap (b : Buffer)
  | destroyBuffer (b : Buffer)
  | destroyTexture (t : Texture)
  | destroyDevice (device : DeviceId)

end Gpu

end ShaderPreview

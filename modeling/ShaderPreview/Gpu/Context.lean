import ShaderPreview.Gpu.World

/-!
# Opening a device

A preview opens an adapter that fits its surface, a device of it, and sets the surface up.  Without
a surface an adapter and a device are enough.
-/

namespace ShaderPreview

namespace Gpu

/-- Why no device could be opened. -/
inductive ContextError where
  | noWindowHandle
  | noDisplayHandle
  | noSurface (reason : List Char)
  | noAdapter (reason : List Char)
  | tooLarge (limit width height : Nat)
  | noDevice (reason : List Char)
  | noFormat
  deriving DecidableEq, Repr

/-- The text of the error, with its cause. -/
def ContextError.message : ContextError → List Char
  | noWindowHandle =>
    "failed to acquire window handle: the underlying handle is not available".toList
  | noDisplayHandle =>
    ("failed to acquire display handle: " ++
      "the underlying handle cannot be represented using the types in this crate").toList
  | noSurface reason => "failed to create rendering surface: ".toList ++ reason
  | noAdapter reason => "failed to find a suitable GPU adapter: ".toList ++ reason
  | tooLarge limit width height =>
    "GPU max texture dimension is ".toList ++ Decimal.ofNat limit ++
      ", requested surface is ".toList ++ Decimal.ofNat width ++ ['x'] ++ Decimal.ofNat height
  | noDevice reason => "failed to create GPU device: ".toList ++ reason
  | noFormat => "surface reports no supported formats".toList

/-- Steps that may end in an error. -/
abbrev Opening (ε α : Type) := ExceptT ε (StateM World) α

/-- Opens the graphics library with all its backends. -/
def openInstance : StateM World Unit := call (.openInstance true)

/-- Chooses an adapter. -/
def requestAdapter (options : GpuOptions) (forSurface : Bool) : Opening ContextError Unit := do
  call (.requestAdapter options.powerPreference forSurface false)
  match (← getThe World).script.adapterError with
  | some reason => throw (.noAdapter reason)
  | none => note .adapterSelected

/-- Opens a device, with the timing of passes if both the adapter and the options allow it. -/
def requestDevice (options : GpuOptions) (label : String) :
    Opening ContextError (DeviceId × Bool) := do
  let supported := (← getThe World).script.timestamps
  if options.timerQueries && !supported then note .timestampsMissing
  let timed := options.timerQueries && supported
  match ← openDevice label timed with
  | .error reason => throw (.noDevice reason)
  | .ok d => return (d, timed)

/-- A device with a surface. -/
structure Context where
  device : DeviceId
  surface : SurfaceSetup
  /-- Passes are timed. -/
  timed : Bool
  deriving DecidableEq, Repr

/-- The format of a surface: one that writes colours as they are, if there is one. -/
def chooseFormat? (formats : List TextureFormat) : Option TextureFormat :=
  (formats.find? fun f => !f.isEncoded).orElse fun _ => formats.head?

/-- The mode asked for, if the surface has it. -/
def chooseMode? (offered : List PresentMode) (asked : PresentMode) : Option PresentMode :=
  if offered.contains asked || asked.isAutomatic then some asked else none

/-- Which handles of a window can be had. -/
structure WindowHandles where
  window : Bool
  display : Bool
  deriving DecidableEq, Repr

/-- Creates a surface on a window. -/
def createSurface (handles : WindowHandles) : Opening ContextError Unit := do
  if !handles.window then throw .noWindowHandle
  if !handles.display then throw .noDisplayHandle
  call .createSurface
  match (← getThe World).script.surfaceError with
  | some reason => throw (.noSurface reason)
  | none => return

/-- The mode that a surface is set up with. -/
def presentMode (options : GpuOptions) : StateM World PresentMode := do
  match chooseMode? (← get).script.presentModes options.presentMode with
  | some mode => return mode
  | none =>
    note .presentModeUnsupported
    return .fifo

/-- Opens a device for a surface of the given size on a window. -/
def Context.open (handles : WindowHandles) (options : GpuOptions) (width height : Nat) :
    Opening ContextError Context := do
  openInstance
  createSurface handles
  requestAdapter options true
  let limit := (← getThe World).script.maxDimension
  let (width, height) := (max width 1, max height 1)
  if limit < width ∨ limit < height then throw (.tooLarge limit width height)
  let (device, timed) ← requestDevice options "fragscope device"
  call (.watchErrors device)
  let script := (← getThe World).script
  match chooseFormat? script.formats with
  | none => throw .noFormat
  | some format =>
    let mode ← presentMode options
    note .surfaceConfigured
    let surface : SurfaceSetup :=
      ⟨width, height, format, mode, script.alphaModes.head?.getD .auto, .renderTarget, [], 2⟩
    call (.configure surface)
    return ⟨device, surface, timed⟩

/-- Gives the surface another size, unless it is empty. -/
def Context.resize (c : Context) (width height : Nat) : StateM World Context := do
  if width = 0 ∨ height = 0 then return c
  let c := { c with surface := { c.surface with width, height } }
  call (.configure c.surface)
  return c

/-- Sets the surface up once more. -/
def Context.reconfigure (c : Context) : StateM World Unit := call (.configure c.surface)

end Gpu

end ShaderPreview

import ShaderPreview.Preview.Clock
import ShaderPreview.Preview.Renderer
import ShaderPreview.Shader.Assembly
import ShaderPreview.Telemetry.Probe

/-!
# The preview session

A session drives one shader: it is loaded with a source, started, ticked once a frame, paused,
halted, resized, loaded again, and at last disposed of.

A tick applies a requested size, advances the clock, writes the uniform block, asks for the last
time measurement, draws once, and publishes a snapshot every few frames.  After a draw that did not
fail it asks for the next tick.
-/

namespace ShaderPreview

/-- Where a session is in its life. -/
inductive Phase where
  /-- There is no shader. -/
  | uninitialized
  /-- There is a shader, and no tick is asked for. -/
  | ready
  | running
  /-- Ticks go on while time stands still. -/
  | paused
  /-- The end of every session. -/
  | disposed
  deriving DecidableEq, Repr

namespace Phase

/-- The name of a phase. -/
def name : Phase → String
  | uninitialized => "uninitialized"
  | ready => "ready"
  | running => "running"
  | paused => "paused"
  | disposed => "disposed"

/-- Ticks are asked for. -/
def isTicking (p : Phase) : Bool := p = running || p = paused

/-- There is a shader. -/
def isLive (p : Phase) : Bool := p = ready || p = running || p = paused

/-- The phase behind a pause or its end. -/
def afterPause : Phase → Bool → Phase
  | running, true => paused
  | paused, false => running
  | p, _ => p

end Phase

/-- A preview session with renderers of type `β` and a clock over `ρ`. -/
structure Session (ρ β : Type) where
  phase : Phase
  renderer : Option β
  pendingTick : Option Nat
  clock : Clock ρ
  frameCount : Nat
  pointer : Pointer
  width : Nat
  height : Nat
  /-- The uniforms that the shader reads. -/
  used : Option Shader.UniformSet
  /-- The uniform block as last written. -/
  block : UniformBlock
  telemetry : Telemetry
  probe : Probe
  /-- The last device time that was kept. -/
  lastGpuTime : Option Float
  options : PreviewOptions
  /-- A size asked for by the layout, not yet applied. -/
  requestedSize : Option (Nat × Nat)

namespace Session

variable {ρ β G : Type}

/-- A session without a shader. -/
def create? [Seconds ρ] (options : PreviewOptions) : Option (Session ρ β) := do
  let telemetry ← Telemetry.ofSettings? options.telemetry
  return {
    phase := .uninitialized
    renderer := none
    pendingTick := none
    clock := .initial
    frameCount := 0
    pointer := .zero
    width := 0
    height := 0
    used := none
    block := .zero
    telemetry
    probe := .fresh
    lastGpuTime := none
    options
    requestedSize := none }

variable [Renderer G β] [Journal G]

/-! ## Asking for ticks, and the end of a shader -/

/-- Asks for a tick unless one is pending. -/
def schedule (s : Session ρ β) : StateM (Host G) (Session ρ β) := do
  if s.pendingTick.isSome then return s
  let token ← Host.requestTick
  return { s with pendingTick := some token }

/-- Withdraws the pending tick. -/
def cancelPending (s : Session ρ β) : StateM (Host G) (Session ρ β) := do
  match s.pendingTick with
  | some token =>
    Host.cancelTick token
    return { s with pendingTick := none }
  | none => return s

/-- Gives back the renderer. -/
def releaseRenderer (s : Session ρ β) : StateM (Host G) (Session ρ β) := do
  match s.renderer with
  | some r =>
    Host.onGraphics (Renderer.release r)
    return { s with renderer := none }
  | none => return s

/-- Withdraws the pending tick and gives up the shader. -/
def teardown (s : Session ρ β) : StateM (Host G) (Session ρ β) := do
  let s ← s.cancelPending
  let s ← s.releaseRenderer
  return { s with
    used := none
    phase := if s.phase = .disposed then .disposed else .uninitialized }

/-- Ends the session, unless it has ended. -/
def dispose (s : Session ρ β) : StateM (Host G) (Session ρ β) := do
  if s.phase = .disposed then return s
  let s ← s.teardown
  Host.note .previewDisposed
  return { s with phase := .disposed }

/-! ## Loading -/

/-- The session as a shader of the given assembly finds it, once a renderer is connected. -/
def withShader [Seconds ρ] (s : Session ρ β) (a : Shader.Assembly) (width height : Nat) (r : β) :
    Session ρ β :=
  { s with
    clock := s.clock.restarted
    frameCount := 0
    pointer := .zero
    width
    height
    used := some a.uniforms
    block := UniformBlock.zero.writeResolution a.uniforms width height
    telemetry := s.telemetry.reset
    lastGpuTime := none
    renderer := some r
    phase := .ready }

/-- Notes what there is to say about a source that was assembled. -/
def noteAssembled (remarks : Shader.Remarks) : StateM (Host G) Unit := do
  if remarks.redeclared then Host.note .entryPointRepeated
  Host.note .sourceAssembled

/-- Gives up the shader there is and takes up a new one, for which `connect` finds a renderer.
After a failure there is no shader. -/
def load [Seconds ρ] (s : Session ρ β) (source : List Char) (width height : Nat)
    (connect : Shader.Assembly → Nat → Nat → StateM G (Except ConnectError β)) :
    StateM (Host G) (Except LoadError Unit × Session ρ β) := do
  if s.phase = .disposed then return (.error .disposed, s)
  let s ← s.teardown
  match Shader.Assembly.read source with
  | .error e => return (.error (.source e), s)
  | .ok (a, remarks) =>
    noteAssembled remarks
    match ← Host.onGraphics (connect a (max width 1) (max height 1)) with
    | .error e => return (.error (.connect e), s)
    | .ok r =>
      Host.note .previewReady
      return (.ok (), s.withShader a (max width 1) (max height 1) r)

/-! ## Starting, pausing, halting -/

/-- Starts a session that is ready. -/
def start (s : Session ρ β) : StateM (Host G) (Session ρ β) := do
  if s.phase ≠ .ready then return s
  Host.note .previewStarted
  schedule { s with phase := if s.clock.paused then .paused else .running }

/-- Pauses at a time, or goes on from it. -/
def setPaused [Seconds ρ] (s : Session ρ β) (paused : Bool) (time : ρ) :
    StateM (Host G) (Session ρ β) := do
  if s.phase = .disposed then return s
  let next := s.phase.afterPause paused
  if next ≠ s.phase then Host.note .phaseChanged
  return { s with clock := s.clock.setPaused paused time, phase := next }

/-- Stops ticking; `start` goes on. -/
def halt (s : Session ρ β) : StateM (Host G) (Session ρ β) := do
  if !s.phase.isTicking then return s
  let s ← s.cancelPending
  Host.note .previewHalted
  return { s with phase := .ready }

/-! ## Pointer and size -/

/-- The pointer moved to a position given from the top. -/
def pointerMoved (s : Session ρ β) (x y : Float32) : Session ρ β :=
  if s.phase.isLive then { s with pointer := s.pointer.moved x y s.height } else s

/-- The pointer was pressed at a position given from the top. -/
def pointerPressed (s : Session ρ β) (x y : Float32) : Session ρ β :=
  if s.phase.isLive then { s with pointer := s.pointer.pressed x y s.height } else s

/-- The size with its resolution uniform. -/
def withSize (s : Session ρ β) (width height : Nat) : Session ρ β :=
  { s with
    width
    height
    block :=
      match s.used with
      | some used => s.block.writeResolution used width height
      | none => s.block }

/-- Gives the surface another size. -/
def resize (s : Session ρ β) (width height : Nat) : StateM (Host G) (Session ρ β) := do
  if !s.phase.isLive || width = 0 || height = 0 || (s.width = width && s.height = height) then
    return s
  match s.renderer with
  | none => return s
  | some r =>
    let r ← Host.onGraphics (Renderer.configure r width height)
    Host.note .surfaceResized
    return { s.withSize width height with renderer := some r }

/-- Asks for a size, which the next tick applies; a later request replaces it. -/
def requestSize (s : Session ρ β) (width height : Nat) : Session ρ β :=
  { s with requestedSize := some (width, height) }

/-- Applies the size asked for. -/
def applyRequestedSize (s : Session ρ β) : StateM (Host G) (Session ρ β) := do
  match s.requestedSize with
  | some (width, height) => resize { s with requestedSize := none } width height
  | none => return s

/-! ## Ticking -/

/-- Records the time since the last tick that drew. -/
def recordInterval (s : Session ρ β) (now : Nat) : Session ρ β :=
  match s.clock.previousTick with
  | some previous =>
    { s with telemetry := s.telemetry.recordFrame (Span.mk (now - previous)).milliseconds }
  | none => s

/-- Shows the instant of a tick to the refresh rate probe. -/
def probeRate (s : Session ρ β) (now : Nat) : StateM (Host G) (Session ρ β) := do
  let (finding, probe) := s.probe.record now
  match finding with
  | .nothing => pure ()
  | .noInterval => Host.note .probeGaveUp
  | .rate _ =>
    Host.note .rateProbed
    Host.note .displayRateProbed
  return { s with probe }

/-- The inputs of a frame with the given times. -/
def frameInputs [Seconds ρ] (s : Session ρ β) (elapsed delta : ρ) (today : Date) : FrameInputs :=
  ⟨Seconds.toSingle elapsed, Seconds.toSingle delta, s.frameCount, s.pointer, today⟩

/-- Records a device time. -/
def recordGpu (s : Session ρ β) (ms : Float) : StateM (Host G) (Session ρ β) := do
  if Telemetry.acceptsGpu ms then
    return { s with telemetry := s.telemetry.recordGpu ms, lastGpuTime := some ms }
  Host.note .gpuSampleDiscarded
  return s

/-- Asks for the last measurement; the answer says whether the next draw is measured. -/
def pollTimer (s : Session ρ β) (r : β) : StateM (Host G) (Bool × β × Session ρ β) := do
  if !Renderer.hasTimer G r then return (false, r, s)
  let (poll, r) ← Host.onGraphics (Renderer.pollTimer r)
  match poll with
  | .ready ms => return (true, r, ← s.recordGpu ms)
  | .idle => return (true, r, s)
  | .pending => return (false, r, s)

/-- Publishes a snapshot if the frame count is due for one. -/
def publishIfDue (s : Session ρ β) : StateM (Host G) Unit := do
  if s.frameCount % max s.options.publishInterval 1 = 0 then
    Host.note .statsPublished
    Host.publish (s.telemetry.snapshot s.width s.height)

/-- Counts a frame that was presented. -/
def countFrame (s : Session ρ β) : Session ρ β :=
  { s with
    frameCount := s.frameCount + 1
    telemetry := { s.telemetry with totalFrames := s.frameCount + 1 } }

/-- Ends a tick that drew: the next one is asked for. -/
def finishTick (s : Session ρ β) (now : Nat) : StateM (Host G) (Session ρ β) :=
  schedule { s with clock := { s.clock with previousTick := some now } }

/-- What follows a draw.  One that failed ends the session. -/
def afterDraw (s : Session ρ β) (now : Nat) : DrawOutcome → StateM (Host G) (Session ρ β)
  | .presented => do
    s.countFrame.publishIfDue
    s.countFrame.finishTick now
  | .skipped => do
    Host.note .frameSkipped
    s.finishTick now
  | .failed _ => do
    Host.note .drawFailed
    s.dispose

/-- Draws the frame of a tick with a renderer. -/
def drawFrame (s : Session ρ β) (now : Nat) (r : β) : StateM (Host G) (Session ρ β) := do
  let (timed, r, s) ← s.pollTimer r
  let (outcome, r) ← Host.onGraphics (Renderer.draw r timed)
  afterDraw { s with renderer := some r } now outcome

/-- What a tick does before it draws: it applies the size asked for, advances the clock and takes the
measurements.  The answer starts with the shader time and the time since the last tick. -/
def beginTick [Seconds ρ] (s : Session ρ β) (now : Nat) :
    StateM (Host G) (ρ × ρ × Session ρ β) := do
  let s ← applyRequestedSize { s with pendingTick := none }
  let (elapsed, delta, clock) := s.clock.advance now
  let s ← probeRate (recordInterval { s with clock } now) now
  return (elapsed, delta, s)

/-- The part of a tick behind its guard. -/
def runTick [Seconds ρ] (s : Session ρ β) (now : Nat) (today : Date) :
    StateM (Host G) (Session ρ β) := do
  let (elapsed, delta, s) ← s.beginTick now
  match s.used, s.renderer with
  | some used, some r =>
    let block := s.block.writeFrame used (s.frameInputs elapsed delta today)
    let r ← Host.onGraphics (Renderer.writeUniforms r block)
    drawFrame { s with block } now r
  | _, _ => return s

/-- Runs a tick that was asked for, at an instant of a day. -/
def tick [Seconds ρ] (s : Session ρ β) (now : Nat) (today : Date) :
    StateM (Host G) (Session ρ β) := do
  if !s.phase.isTicking || s.pendingTick.isNone then return s
  s.runTick now today

/-! ## Looking at a session -/

/-- The state of a session for its developer. -/
structure Report where
  phase : Phase
  frameCount : Nat
  recentFrameTimes : List Float
  lastGpuTime : Option Float
  refreshRate : Option Nat
  runtimeWarnings : Nat
  width : Nat
  height : Nat

/-- The report on a session in a graphics world. -/
def report (s : Session ρ β) (g : G) : Report :=
  { phase := s.phase
    frameCount := s.frameCount
    recentFrameTimes :=
      (s.telemetry.frames.recent s.options.diagnosticsSamples).map Double.value
    lastGpuTime := s.lastGpuTime
    refreshRate := s.probe.rate?
    runtimeWarnings := (s.renderer.map fun r => Renderer.warningCount r g).getD 0
    width := s.width
    height := s.height }

/-- The lines of a report. -/
def Report.lines (r : Report) : List (List Char) :=
  ["state: ".toList ++ r.phase.name.toList,
    "frames: ".toList ++ Decimal.ofNat r.frameCount,
    "resolution: ".toList ++ Decimal.ofNat r.width ++ ['x'] ++ Decimal.ofNat r.height,
    "recent frame times (ms): [".toList ++
      Text.join ", ".toList (r.recentFrameTimes.map (Decimal.fixed 2)) ++ [']'],
    match r.lastGpuTime with
    | some ms => "last gpu time: ".toList ++ Decimal.fixed 3 ms ++ " ms".toList
    | none => "last gpu time: n/a".toList,
    match r.refreshRate with
    | some hz => "probed refresh rate: ".toList ++ Decimal.ofNat hz ++ " Hz".toList
    | none => "probed refresh rate: pending".toList,
    "runtime warnings: ".toList ++ Decimal.ofNat r.runtimeWarnings]

/-- The report as it is shown. -/
def Report.display (r : Report) : List Char := Text.join ['\n'] r.lines

end Session

end ShaderPreview

import ShaderPreview.Preview.Session

/-!
# Scripted renderers

A scripted renderer takes all its answers from lists and records what it is asked.  Whatever a
renderer may answer, some script answers the same.
-/

namespace ShaderPreview

/-- A renderer that answers from a script. -/
structure ScriptedRenderer where
  /-- Tells the renderers of one recording apart. -/
  id : Nat
  /-- The answers of the timer, if there is one; it is idle behind the last of them. -/
  polls : Option (List TimerPoll)
  /-- The outcomes of the draws; all draws behind the last of them succeed. -/
  outcomes : List DrawOutcome
  warnings : Nat

/-- Something a scripted renderer was asked. -/
inductive ScriptedCall where
  | connect (used : Shader.UniformSet) (width height : Nat)
  | configure (id width height : Nat)
  | writeUniforms (id : Nat) (block : UniformBlock)
  | pollTimer (id : Nat)
  | draw (id : Nat) (timed : Bool)
  | release (id : Nat)

/-- All that was asked and noted, oldest first. -/
structure Recording where
  calls : List ScriptedCall
  log : List Event

namespace Recording

/-- Nothing was asked. -/
def empty : Recording := ⟨[], []⟩

/-- Records a call. -/
def call (c : ScriptedCall) : StateM Recording Unit := fun g =>
  ((), { g with calls := g.calls ++ [c] })

instance : Journal Recording where
  note e := fun g => ((), { g with log := g.log ++ [e] })

end Recording

namespace ScriptedRenderer

/-- The next answer of the timer. -/
def nextPoll (r : ScriptedRenderer) : TimerPoll × ScriptedRenderer :=
  match r.polls with
  | some (p :: ps) => (p, { r with polls := some ps })
  | _ => (.idle, r)

/-- The outcome of the next draw. -/
def nextOutcome (r : ScriptedRenderer) : DrawOutcome × ScriptedRenderer :=
  match r.outcomes with
  | o :: os => (o, { r with outcomes := os })
  | [] => (.presented, r)

instance : Renderer Recording ScriptedRenderer where
  configure r width height := do
    Recording.call (.configure r.id width height)
    return r
  writeUniforms r block := do
    Recording.call (.writeUniforms r.id block)
    return r
  hasTimer r := r.polls.isSome
  pollTimer r := do
    Recording.call (.pollTimer r.id)
    return r.nextPoll
  draw r timed := do
    Recording.call (.draw r.id timed)
    return r.nextOutcome
  warningCount r _ := r.warnings
  release r := Recording.call (.release r.id)

/-- Connects a shader to the renderer of a script, or fails as scripted. -/
def connect (answer : Except ConnectError ScriptedRenderer) (a : Shader.Assembly)
    (width height : Nat) : StateM Recording (Except ConnectError ScriptedRenderer) := do
  Recording.call (.connect a.uniforms width height)
  return answer

end ScriptedRenderer

end ShaderPreview

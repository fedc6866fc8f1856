import ShaderPreview.Gpu.Call

/-!
# The trace of a call

A call is shown by its name and its arguments in order.  Objects are shown by their labels.
-/

namespace ShaderPreview

namespace Gpu

/-- A part of a trace. -/
inductive TracePart where
  | missing
  | flag (b : Bool)
  | number (n : Nat)
  | text (s : List Char)
  | single (x : Float32)
  | block (b : UniformBlock)
  | group (parts : List TracePart)

namespace TracePart

/-- A fixed text. -/
def word (s : String) : TracePart := text s.toList

/-- A group of texts. -/
def words (ss : List String) : TracePart := group (ss.map word)

end TracePart

open TracePart

/-- The name of a stage in a trace. -/
def stageWord : Stage → String
  | .vertex => "Vertex"
  | .fragment => "Fragment"

/-- The bit of a stage. -/
def stageBit : Stage → Nat
  | .vertex => 1
  | .fragment => 2

/-- A set of bits as a number. -/
def bits {α : Type} (bit : α → Nat) (flags : List α) : Nat := flags.foldr (fun f n => bit f + n) 0

/-- The label of a target. -/
def Target.label : Target → String
  | surface => "surface"
  | texture t => t.label

/-- An entry of a layout: a uniform buffer. -/
def UniformEntry.trace (e : UniformEntry) : TracePart :=
  group
    [number e.binding, number (bits stageBit e.stages), word "uniform", flag e.hasDynamicOffset,
      number e.leastSize]

/-- The targets of a pass, which are cleared to black and kept. -/
def Target.trace (t : Target) : TracePart :=
  group
    [group
      [word t.label, word "Clear(Color \x7b r: 0.0, g: 0.0, b: 0.0, a: 1.0 \x7d)", word "Store"]]

/-- The place of the times of a pass. -/
def PassTimes.trace : Option PassTimes → TracePart
  | some t => group [word t.queries, number t.first, number t.last]
  | none => missing

/-- The name and the arguments of a call. -/
def Call.trace : Call → List TracePart
  | openInstance all => [word "instance", flag all]
  | createSurface => [word "create_surface"]
  | requestAdapter p s f => [word "request_adapter", word p.name, flag s, flag f]
  | requestDevice l t m =>
    [word "request_device", word l, flag t, number m, word "Performance"]
  | watchErrors _ => [word "on_uncaptured_error"]
  | configure s =>
    [word "configure", number s.width, number s.height, word s.format.name,
      word s.presentMode.name, word s.alphaMode.name, number s.usage.bit,
      number s.viewFormats.length, number s.frameLatency]
  | acquire o => [word "acquire", word o.name]
  | present => [word "present"]
  | createTexture t w h f u =>
    [word "create_texture", word t.label, number w, number h, word f.name, number u.bit]
  | createView t => [word "create_view", word t.label]
  | pushScope _ => [word "push_error_scope", word "Validation"]
  | popScope _ e =>
    [word "pop_error_scope", match e with
      | some m => text m
      | none => missing]
  | createModule m n =>
    [word "create_shader_module", word m.label, word (stageWord m.stage), number n]
  | createBindGroupLayout l es =>
    [word "create_bind_group_layout", word l, group (es.map UniformEntry.trace)]
  | createBuffer b n u m =>
    [word "create_buffer", word b.label, number n, number (bits BufferUsage.bit u), flag m]
  | createBindGroup l layout es =>
    [word "create_bind_group", word l, word layout,
      group (es.map fun (i, b) => group [number i, word b.label])]
  | createPipelineLayout l ls => [word "create_pipeline_layout", word l, words ls]
  | createPipeline p =>
    [word "create_render_pipeline", word p.label, word p.layout,
      words [p.vertex.label, p.vertex.entry],
      group [word p.fragment.label, word p.fragment.entry, words (p.targets.map (·.name))],
      word "TriangleList"]
  | createQueries l n => [word "create_query_set", word l, word "Timestamp", number n]
  | writeBuffer b o u =>
    [word "write_buffer", word b.label, number o, number UniformBlock.size, block u]
  | createEncoder l => [word "create_command_encoder", word l]
  | beginPass l t q => [word "begin_render_pass", word l, t.trace, PassTimes.trace q]
  | setViewport v =>
    [word "set_viewport",
      group ([v.x, v.y, v.width, v.height, v.minDepth, v.maxDepth].map single)]
  | setPipeline l => [word "set_pipeline", word l]
  | setBindGroup i l => [word "set_bind_group", number i, word l, group []]
  | drawVertices a b c d => [word "draw", number a, number b, number c, number d]
  | endPass => [word "end_render_pass"]
  | resolveQueries q a b t o =>
    [word "resolve_query_set", word q, number a, number b, word t.label, number o]
  | copyBuffer s i t j n =>
    [word "copy_buffer_to_buffer", word s.label, number i, word t.label, number j, number n]
  | submit n => [word "submit", number n]
  | pollDevice waiting => [word "device_poll", word (if waiting then "Wait" else "Poll")]
  | mapBuffer b => [word "map_async", word b.label, word "Read"]
  | readMapped b => [word "get_mapped_range", word b.label]
  | unmap b => [word "unmap", word b.label]
  | destroyBuffer b => [word "destroy", word b.label]
  | destroyTexture t => [word "destroy", word t.label]
  | destroyDevice _ => [word "destroy_device"]

end Gpu

end ShaderPreview

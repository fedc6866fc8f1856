import ShaderPreview.Text.Lines

/-!
# The vertex program

One triangle covers the whole surface, so that the fragment program runs once for each pixel.  Its
corners are constants of the program, which needs no vertex data.
-/

namespace ShaderPreview

namespace Shader

namespace Triangle

/-- The lines of the vertex program. -/
def programLines : List String :=
  ["#version 450",
    "layout(location = 0) out vec2 v_uv;",
    "",
    "const vec2 positions[3] = vec2[3](",
    "    vec2(-1.0, -3.0),",
    "    vec2(3.0, 1.0),",
    "    vec2(-1.0, 1.0)",
    ");",
    "",
    "void main() \x7b",
    "    uint vertex_index = uint(gl_VertexIndex);",
    "    vec2 pos = positions[vertex_index];",
    "    v_uv = pos * 0.5 + vec2(0.5, 0.5);",
    "    gl_Position = vec4(pos, 0.0, 1.0);",
    "\x7d"]

/-- The vertex program. -/
def program : List Char := Text.unlines (programLines.map String.toList)

/-- The number of corners. -/
def cornerCount : Nat := 3

end Triangle

end Shader

end ShaderPreview

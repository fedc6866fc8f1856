import ShaderPreview.Text.Blank
import ShaderPreview.Text.Lines

/-!
# The assembled program

A complete program is a fixed header, the moved definitions, the author's code, the entry point and
a fixed `main`.  The header declares the block of standard uniforms and one macro for each of them;
`main` turns the native fragment coordinate, whose origin is at the top left, into the coordinate
with its origin at the bottom left, and calls the entry point.
-/

namespace ShaderPreview

namespace Shader

namespace Program

/-- The prologue.  The members of the block are laid out as the uniform block of a frame is. -/
def headerLines : List String :=
  ["#version 450",
    "precision highp float;",
    "",
    "layout(location = 0) in vec2 v_uv;",
    "layout(location = 0) out vec4 fragscope_color;",
    "",
    "layout(std140, set = 0, binding = 0) uniform FrameUniforms \x7b",
    "    vec3 _iResolution;",
    "    float _iTime;",
    "    float _iTimeDelta;",
    "    int _iFrame;",
    "    vec2 _padding0;",
    "    vec4 _iMouse;",
    "    vec4 _iDate;",
    "\x7d fragscope_frame;",
    "",
    "#define iResolution fragscope_frame._iResolution",
    "#define iTime fragscope_frame._iTime",
    "#define iTimeDelta fragscope_frame._iTimeDelta",
    "#define iFrame fragscope_frame._iFrame",
    "#define iMouse fragscope_frame._iMouse",
    "#define iDate fragscope_frame._iDate",
    "",
    "vec4 fragscope_FragCoord;",
    "#define gl_FragCoord fragscope_FragCoord"]

/-- The generated `main`. -/
def dispatcherLines : List String :=
  ["void main() \x7b",
    "    #undef gl_FragCoord",
    "    vec2 fragscope_native = gl_FragCoord.xy;",
    "    #define gl_FragCoord fragscope_FragCoord",
    "",
    "    vec2 fragscope_coord = vec2(fragscope_native.x, iResolution.y - fragscope_native.y);",
    "    fragscope_FragCoord = vec4(fragscope_coord, 0.0, 1.0);",
    "",
    "    vec4 fragscope_result = vec4(0.0);",
    "    mainImage(fragscope_result, fragscope_coord);",
    "    fragscope_color = fragscope_result;",
    "\x7d"]

/-- The text of the prologue. -/
def header : List Char := Text.unlines (headerLines.map String.toList)

/-- The text of the generated `main`. -/
def dispatcher : List Char := Text.unlines (dispatcherLines.map String.toList)

/-- A block of the author's code on lines of its own, or nothing if it is blank. -/
def block (text : List Char) : List Char :=
  if Text.isAllBlank (Text.trimNewlines text) then [] else Text.trimNewlines text ++ ['\n']

/-- The program made of the moved definitions, the code around the entry point and the entry
point. -/
def assemble (definitions : List (List Char)) (body entry : List Char) : List Char :=
  header ++ ['\n'] ++ Text.unlines definitions ++ block body ++ block entry ++ ['\n'] ++ dispatcher

end Program

end Shader

end ShaderPreview

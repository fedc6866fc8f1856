import ShaderPreview.Shader.Assembly
import ShaderPreview.Text.Json

/-!
# Assemblies as JSON

An assembly is shown as a JSON record of its parts.
-/

namespace ShaderPreview

namespace Shader

/-- The parts of an assembly, by name. -/
def Assembly.toJson (a : Assembly) : Text.Json :=
  .record
    [("defines", .list (a.definitions.map .text)),
      ("body_before", .text a.bodyBefore),
      ("entry", .text a.entry),
      ("body_after", .text a.bodyAfter),
      ("color_param", .text a.colorName),
      ("coord_param", .text a.coordName),
      ("uniforms", .list (a.uniforms.names.map fun n => .text n.toList)),
      ("program", .text a.program)]

end Shader

end ShaderPreview

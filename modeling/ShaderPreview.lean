import ShaderPreview.CommandLine.Execution
import ShaderPreview.Diagnostic.Warnings
import ShaderPreview.Glsl.Checker
import ShaderPreview.Gpu.SurfaceRenderer
import ShaderPreview.Gpu.Trace
import ShaderPreview.Gpu.Validation
import ShaderPreview.Main
import ShaderPreview.Preview.Scripted
import ShaderPreview.Proofs.Diagnostic.MessagePosition
import ShaderPreview.Proofs.Gpu.Balance
import ShaderPreview.Proofs.Gpu.SurfaceLimit
import ShaderPreview.Proofs.Gpu.TimerProtocol
import ShaderPreview.Proofs.Gpu.TrialReport
import ShaderPreview.Proofs.Preview.ClockReading
import ShaderPreview.Proofs.Preview.Counters
import ShaderPreview.Proofs.Preview.Erasure
import ShaderPreview.Proofs.Preview.FailedLoad
import ShaderPreview.Proofs.Preview.LatestSize
import ShaderPreview.Proofs.Preview.Release
import ShaderPreview.Proofs.Preview.Reload
import ShaderPreview.Proofs.Preview.Samples
import ShaderPreview.Proofs.Preview.ShaderTime
import ShaderPreview.Proofs.Preview.TickQueue
import ShaderPreview.Proofs.Preview.UniformWrites
import ShaderPreview.Proofs.Settings.EndlessSpan
import ShaderPreview.Proofs.Shader.Leftover
import ShaderPreview.Proofs.Shader.MacroOrder
import ShaderPreview.Proofs.Shader.NamedUniforms
import ShaderPreview.Proofs.Shader.OpenComment
import ShaderPreview.Proofs.Shader.OwnUniforms
import ShaderPreview.Proofs.Shader.Reassembly
import ShaderPreview.Proofs.Shader.Selection
import ShaderPreview.Proofs.Shader.SignatureGrammar
import ShaderPreview.Proofs.Shader.SpacedTokens
import ShaderPreview.Proofs.Shader.Tiling
import ShaderPreview.Proofs.Shader.UserCode
import ShaderPreview.Proofs.Shader.WholeDefinitions
import ShaderPreview.Proofs.Telemetry.Figures
import ShaderPreview.Proofs.Telemetry.Median
import ShaderPreview.Proofs.Telemetry.RefreshRate
import ShaderPreview.Settings.Location
import ShaderPreview.Shader.Triangle

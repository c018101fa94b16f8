import CauseChain.Hooks.Code
import CauseChain.Hooks.Registry
import CauseChain.Hooks.Rendering
import CauseChain.Hooks.Stock
import CauseChain.Io.Conversion
import CauseChain.Io.Error
import CauseChain.Io.Kind
import CauseChain.Io.OsCode
import CauseChain.Io.SystemMessage
import CauseChain.Io.WindowsCode
import CauseChain.Output.Delivery
import CauseChain.Output.Device
import CauseChain.Report.Basic
import CauseChain.Report.Chain
import CauseChain.Report.Display
import CauseChain.Report.Outcome
import CauseChain.Report.Release
import CauseChain.Report.Render
import CauseChain.Report.Teardown
import CauseChain.Shelf
import CauseChain.Terminal.ColorChoice
import CauseChain.Terminal.ColorLevel
import CauseChain.Terminal.Sgr
import CauseChain.Terminal.Stream
import CauseChain.Terminal.Style
import CauseChain.Text.Numeral
import CauseChain.Text.Shape
import CauseChain.Text.Spec
import CauseChain.Text.Transcript
import CauseChain.Value.Basic
import CauseChain.Value.Display
import CauseChain.Proofs.Conservation
import CauseChain.Proofs.ChainAlgebra
import CauseChain.Proofs.Closure
import CauseChain.Proofs.Growth
import CauseChain.Proofs.Overrides
import CauseChain.Proofs.Settling
import CauseChain.Proofs.Turns
import CauseChain.Proofs.Nesting
import CauseChain.Proofs.Failure
import CauseChain.Proofs.Writing
import CauseChain.Proofs.Printing
import CauseChain.Proofs.Agreement
import CauseChain.Proofs.StyledText
import CauseChain.Proofs.Decoration
import CauseChain.Proofs.Recovery
import CauseChain.Proofs.Layering
import CauseChain.Proofs.Dismantling
import CauseChain.Proofs.Suppression
import CauseChain.Proofs.Locking
import CauseChain.Proofs.Detection
import CauseChain.Proofs.Saturation
import CauseChain.Proofs.Encoding
import CauseChain.Proofs.RoundTrip
import CauseChain.Proofs.Overpainting
import CauseChain.Proofs.Lookup
import CauseChain.Proofs.Describing
import CauseChain.Proofs.Centering
import CauseChain.Proofs.Lines

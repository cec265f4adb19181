import Krepe.Capture.KokkosHooks.CaptureOnce
import Krepe.Capture.KokkosHooks.DataSize
import Krepe.Capture.KokkosHooks.LiveCopies
import Krepe.Capture.ViewDump.WellFormed
import Krepe.Replay.Allocation.Commands
import Krepe.Replay.Allocation.Components
import Krepe.Replay.Arguments
import Krepe.Replay.Functor
import Krepe.CompilerPlugins.Introspection
import Krepe.CompilerPlugins.PluginInit
import Krepe.CompilerPlugins.Patched
import Krepe.CompilerPlugins.Visitor
import Krepe.CompilerPlugins.ValueVisit
import Krepe.Extract.Predictions
import Krepe.MetadataRoundTrip
import Krepe.FailedAppend
import Krepe.OutputLookup
import Krepe.LambdaReplay
import Krepe.FailedCreate
import Krepe.WellTypedLoad
import Krepe.WrittenFiles
import Krepe.Capture.ViewDump.Scoped
import Krepe.SeveralGuards
import Krepe.Extract.FirstCall

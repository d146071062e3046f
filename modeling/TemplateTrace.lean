import TemplateTrace.Display.Recording
import TemplateTrace.Main
import TemplateTrace.Proofs.WalkListing
import TemplateTrace.Proofs.WalkReplay
import TemplateTrace.Proofs.CallGraphWorklist
import TemplateTrace.Proofs.CallGraphRoutes
import TemplateTrace.Proofs.CallGraphCoverage
import TemplateTrace.Proofs.TreeArtDrawing
import TemplateTrace.Proofs.BuilderInvariant
import TemplateTrace.Proofs.DebuggerLines
import TemplateTrace.Proofs.WalkStops
import TemplateTrace.Proofs.DocumentStream
import TemplateTrace.Proofs.TraceAgreement
import TemplateTrace.Proofs.WalkSiblings
import TemplateTrace.Proofs.TraversalEnds
import TemplateTrace.Proofs.DebuggerHits
import TemplateTrace.Proofs.WalkForetold
import TemplateTrace.Proofs.CallGraphPruning
import TemplateTrace.Proofs.CallGraphLimits
import TemplateTrace.Proofs.TraceGrammar
import TemplateTrace.Proofs.BuilderMismatches
import TemplateTrace.Proofs.TreeArtReading
import TemplateTrace.Proofs.DataModelReading
import TemplateTrace.Proofs.LocationGrammar
import TemplateTrace.Proofs.ColoredOutput

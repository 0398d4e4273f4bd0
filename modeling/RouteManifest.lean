import RouteManifest.Main
import RouteManifest.Proofs.Command.Init
import RouteManifest.Proofs.Config.Grammar
import RouteManifest.Proofs.Declaration.Interleaving
import RouteManifest.Proofs.Manifest.Bodies
import RouteManifest.Proofs.Manifest.Layout
import RouteManifest.Proofs.Manifest.RoundTrip
import RouteManifest.Proofs.Path.Bytes
import RouteManifest.Proofs.Path.Canonical
import RouteManifest.Proofs.Pattern.Flags
import RouteManifest.Proofs.Registry.Listing
import RouteManifest.Proofs.Report.Content
import RouteManifest.Proofs.Scan.Roots
import RouteManifest.Proofs.Script.VisitOrder
import RouteManifest.Proofs.Script.Wrappers

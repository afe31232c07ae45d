import AnnotatedTests.Main
import AnnotatedTests.Proofs.Placement
import AnnotatedTests.Proofs.Recovery
import AnnotatedTests.Proofs.Soundness
import AnnotatedTests.Proofs.Declarations
import AnnotatedTests.Proofs.Fixtures
import AnnotatedTests.Proofs.Reports
import AnnotatedTests.Proofs.Linkage
import AnnotatedTests.Proofs.Independence
import AnnotatedTests.Proofs.Outcomes
import AnnotatedTests.Proofs.Locations
import AnnotatedTests.Proofs.Names
import AnnotatedTests.Proofs.ManifestOrder
import AnnotatedTests.Proofs.RunnerLines
import AnnotatedTests.Proofs.Tables
import AnnotatedTests.Proofs.Delivery
import AnnotatedTests.Proofs.Acceptance
import AnnotatedTests.Proofs.FileScope
import AnnotatedTests.Proofs.Redaction
import AnnotatedTests.Proofs.BlockComments
import AnnotatedTests.Proofs.Remnants
import AnnotatedTests.Proofs.DirectiveForm
import AnnotatedTests.Proofs.Timeouts
import AnnotatedTests.Proofs.JsonDecoding
import AnnotatedTests.Proofs.TextManifest
import AnnotatedTests.Proofs.DirectiveLayout
import AnnotatedTests.Proofs.SignatureShapes
import AnnotatedTests.Proofs.FirstDefinition
import AnnotatedTests.Proofs.CommentSpans
import AnnotatedTests.Proofs.Concatenation
import AnnotatedTests.Proofs.SiteLines
import AnnotatedTests.Proofs.SettingLayers
import AnnotatedTests.Proofs.Nesting

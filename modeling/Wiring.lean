import Wiring.BindsModule
import Wiring.Component
import Wiring.Manifest
import Wiring.Proofs.BuildVerdict
import Wiring.Proofs.Consistency
import Wiring.Proofs.Expression.RoundTrip
import Wiring.Proofs.Expression.ViablePrefix
import Wiring.Proofs.FirstWins
import Wiring.Proofs.OrderIndependence
import Wiring.Proofs.Rebuild
import Wiring.Proofs.Producers
import Wiring.Proofs.Listing
import Wiring.Proofs.Expression.Spelling
import Wiring.Proofs.Manifest.Contents
import Wiring.Proofs.Manifest.Written
import Wiring.Proofs.SoleImplementation
import Wiring.Proofs.EventLog
import Wiring.Proofs.NameForms
import Wiring.Proofs.MethodNames
import Wiring.Proofs.ParameterNames
import Wiring.Proofs.PlanReport
import Wiring.Proofs.Refusal
import Wiring.Proofs.Grouping
import Wiring.Proofs.CanonicalNames
import Wiring.Proofs.KeylessMarker
import Wiring.Proofs.Manifest.Accepted

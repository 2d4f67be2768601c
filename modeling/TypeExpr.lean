import TypeExpr.Main
import TypeExpr.Proofs.Atom.NormalForm
import TypeExpr.Proofs.Blame
import TypeExpr.Proofs.CommandLine.Chatter
import TypeExpr.Proofs.CommandLine.Idempotence
import TypeExpr.Proofs.Grammar
import TypeExpr.Proofs.Heredity
import TypeExpr.Proofs.Hint.Conservative
import TypeExpr.Proofs.Hint.Nullable
import TypeExpr.Proofs.Hint.RoundTrip
import TypeExpr.Proofs.Locality
import TypeExpr.Proofs.Location
import TypeExpr.Proofs.OrderIndependence
import TypeExpr.Proofs.Predicate
import TypeExpr.Proofs.Protocol
import TypeExpr.Proofs.Report.Alignment
import TypeExpr.Proofs.Report.History
import TypeExpr.Proofs.Respelling
import TypeExpr.Proofs.RoundTrip
import TypeExpr.Proofs.Shape
import TypeExpr.Proofs.Text.Slices
import TypeExpr.Proofs.Ty.GroupOrder
import TypeExpr.Proofs.Ty.Outline
import TypeExpr.Report.Session

import GraphTemplate.Main
import GraphTemplate.Proofs.Build.Inheritance
import GraphTemplate.Proofs.Build.Reordering
import GraphTemplate.Proofs.Build.Sources
import GraphTemplate.Proofs.Graph.Construction
import GraphTemplate.Proofs.Graph.Undoing
import GraphTemplate.Proofs.Template.Diagnostics
import GraphTemplate.Proofs.Template.Equality
import GraphTemplate.Proofs.Template.Instants
import GraphTemplate.Proofs.Template.KeyPairing
import GraphTemplate.Proofs.Template.Limits
import GraphTemplate.Proofs.Template.PropertyVerdict
import GraphTemplate.Proofs.Value.DeepEquality
import GraphTemplate.Proofs.Moment.Stamp
import GraphTemplate.Proofs.Binary64.Rounding
import GraphTemplate.Proofs.Binary64.Shortest
import GraphTemplate.Proofs.Text.Decimal
import GraphTemplate.Proofs.Binary64.PlainText
import GraphTemplate.Proofs.Binary64.PointPlace
import GraphTemplate.Proofs.Restriction.Dates
import GraphTemplate.Proofs.Restriction.Numbers
import GraphTemplate.Proofs.Build.Contradictions
import GraphTemplate.Proofs.Document.Culprit
import GraphTemplate.Proofs.Graph.ByType
import GraphTemplate.Proofs.Template.Duplets
import GraphTemplate.Proofs.Template.NamingField
import GraphTemplate.Proofs.Yaml.Construction
import GraphTemplate.Proofs.GraphData.Outcome

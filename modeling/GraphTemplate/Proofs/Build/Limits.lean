import GraphTemplate.Proofs.Build.Defects

/-! What ends a build before it has told its defects: a text of a restriction with too many digits
or with too large a repeat count, and a pattern with two contradicting options. -/
namespace GraphTemplate

namespace Restriction

variable {d : Descriptor} {kind : RestrictionKind} {raw : String}

/-- A pattern that is to match the letters of all scripts and only those of one. -/
def Clashes (d : Descriptor) (kind : RestrictionKind) (raw : String) : Prop :=
  (restrictedType d kind raw).toOption.isSome = true ∧ kind.isRegexp = true ∧
    Pattern.read raw = .error .conflictingScripts

end Restriction

namespace PropertyEntry

variable {p : PropertyEntry}

end PropertyEntry

namespace Document

variable {d : Document}

def properties (d : Document) : List PropertyEntry :=
  (d.edges.entries.flatMap fun e => e.2.properties.values) ++
    (d.labels.entries.flatMap fun e => e.2.properties.values) ++
    d.nodes.entries.flatMap fun e => e.2.properties.values

def Has (d : Document) (p : PropertyEntry) (kind : RestrictionKind) (raw : String) : Prop :=
  p ∈ d.properties ∧ raw ∈ p.restrictions.ofKind kind

def Clashes (d : Document) : Prop :=
  ∃ p kind raw, d.Has p kind raw ∧ Restriction.Clashes p.descriptor kind raw

end Document

end GraphTemplate

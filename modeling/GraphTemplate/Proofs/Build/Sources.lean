import GraphTemplate.Proofs.Build.Outcome
import GraphTemplate.Proofs.Document.Complaint
import GraphTemplate.Proofs.Document.Conversion
import GraphTemplate.Proofs.Value.Identity
import GraphTemplate.Proofs.Yaml.TextData

/-! What the build of a template comes to, from the stream on that it is read from: a template, or
the lines that tell what is wrong, with all the defects of a document. Four kinds of failures are
not caught on the way and hide everything else. -/
namespace GraphTemplate

-- What a stream stands for is relative to how the nodes of a source are found.
variable {compose : Yaml.Composer} {s : Delivery} {source : Yaml.Source} {v : Value} {d : Document}

namespace Delivery

def Holds (compose : Yaml.Composer) (s : Delivery) (v : Value) : Prop :=
  ∃ source, s = .content source ∧ Yaml.loadTextBy compose source = .ok v

def Describes (compose : Yaml.Composer) (s : Delivery) (d : Document) : Prop :=
  ∃ v, s.Holds compose v ∧ (v = .null ∧ d = .empty ∨ Grammar.document Grammar.Readable v d)

def Declares (compose : Yaml.Composer) (s : Delivery) (d : Document) : Prop :=
  s.Describes compose d ∧ d.edges.isEmpty = false ∧ d.nodes.isEmpty = false

theorem holds_content :
    (content source).Holds compose v ↔ Yaml.loadTextBy compose source = .ok v := by
  constructor
  · rintro ⟨_, hs, h⟩
    rwa [content.inj hs]
  · exact fun h => ⟨source, rfl, h⟩

theorem describes_content (h : Yaml.loadTextBy compose source = .ok v) :
    (content source).Describes compose d ↔ Document.ofValue v = .ok d := by
  rw [(Document.ofValue_grammar (Yaml.textual_of_loadTextBy h).loaded).1 d]
  constructor
  · rintro ⟨u, hu, hd⟩
    obtain rfl := Except.ok.inj (h.symm.trans (holds_content.mp hu))
    exact hd
  · exact fun hd => ⟨v, holds_content.mpr h, hd⟩

theorem Describes.loaded (h : (content source).Describes compose d) :
    ∃ v, Yaml.loadTextBy compose source = .ok v ∧ Document.ofValue v = .ok d := by
  obtain ⟨v, hv, hd⟩ := h
  have hv := holds_content.mp hv
  exact ⟨v, hv, (describes_content hv).mp ⟨v, holds_content.mpr hv, hd⟩⟩

end Delivery

namespace TemplateFailure

end TemplateFailure

namespace Build

end Build

end GraphTemplate

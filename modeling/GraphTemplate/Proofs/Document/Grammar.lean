import GraphTemplate.Document
import GraphTemplate.Proofs.Numeral
import GraphTemplate.Proofs.Value.Loaded

/-! The grammar of template documents: which values stand for which parts of a document. An empty
text stands for a list or a mapping without entries, and a part left out for its default. -/
namespace GraphTemplate.Grammar

abbrev Rule (α : Type) := Value → α → Prop

variable {α : Type}

def text : Rule String := fun v s => v = .text s

def list (item : Rule α) : Rule (List α) := fun v as =>
  v = .text "" ∧ as = [] ∨ ∃ items, v = .sequence .list items ∧ List.Forall₂ item items as

def table (entry : Rule α) : Rule (NameTable α) := fun v t =>
  v = .text "" ∧ t = .empty ∨ ∃ s, v = .ofTable s ∧
    List.Forall₂ (fun e e' => e.1 = e'.1 ∧ entry e.2 e'.2) s.entries t.entries

/-- A mapping, possibly an empty text, without other than known keys. -/
def Keyed (known : List String) (v : Value) : Prop :=
  v = .text "" ∨ ∃ t, v = .ofTable t ∧ ∀ k ∈ t.names, k ∈ known

/-- What a mapping has under a key, or the default where it has nothing. -/
def field (key : String) (rule : Rule α) (default : α) : Rule α := fun v a =>
  (∃ u, v.Has key u ∧ rule u a) ∨ (∀ u, ¬v.Has key u) ∧ a = default

def restrictions : Rule RestrictionTexts := fun v r =>
  Keyed ["values", "regexps", "key_values", "key_regexps"] v ∧
    field "values" (list text) [] v r.values ∧ field "regexps" (list text) [] v r.regexps ∧
    field "key_values" (list text) [] v r.keyValues ∧
    field "key_regexps" (list text) [] v r.keyRegexps

def property : Rule PropertyEntry := fun v p =>
  Keyed ["type", "restrictions"] v ∧ field "type" text "" v p.type ∧
    field "restrictions" restrictions ⟨[], [], [], []⟩ v p.restrictions

-- Whether a bound may have so many digits.
variable (fits : Nat → Prop)

def bound : Rule Int := fun v n =>
  ∃ p : Spelling, v = .text (String.ofList p.chars) ∧ fits p.digits.length ∧ n = p.value

def ratio : Rule (Int × Int) := fun v b =>
  Keyed ["min", "max"] v ∧ field "min" (bound fits) 0 v b.1 ∧ field "max" (bound fits) 0 v b.2

def connection : Rule ConnectionEntry := fun v c =>
  Keyed ["edge", "ratio"] v ∧ field "edge" text "" v c.edge ∧
    field "ratio" (ratio fits) (0, 0) v (c.min, c.max)

def edge : Rule EdgeEntry := fun v e =>
  Keyed ["properties"] v ∧ field "properties" (table property) .empty v e.properties

def label : Rule LabelEntry := fun v l =>
  Keyed ["properties", "connections"] v ∧
    field "properties" (table property) .empty v l.properties ∧
    field "connections" (table (list (connection fits))) .empty v l.connections

def node : Rule NodeEntry := fun v n =>
  Keyed ["labels", "properties", "connections"] v ∧ field "labels" (list text) [] v n.labels ∧
    field "properties" (table property) .empty v n.properties ∧
    field "connections" (table (list (connection fits))) .empty v n.connections

def document : Rule Document := fun v d =>
  Keyed ["labels", "nodes", "edges"] v ∧ field "labels" (table (label fits)) .empty v d.labels ∧
    field "nodes" (table (node fits)) .empty v d.nodes ∧
    field "edges" (table edge) .empty v d.edges

end GraphTemplate.Grammar

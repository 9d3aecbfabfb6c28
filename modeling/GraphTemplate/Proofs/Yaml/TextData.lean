import GraphTemplate.Fault
import GraphTemplate.Proofs.Value.Loaded
import GraphTemplate.Proofs.Value.Written
import GraphTemplate.Yaml.TextData
import Mathlib.Data.List.Nodup

/-! What documents of texts are loaded as: data with distinct keys and no number in it. Once the
nodes of a document are there, loading it fails only for one in a wrong place. -/
namespace GraphTemplate.Yaml

variable {α β : Type}

structure Textual (v : Value) : Prop where
  loaded : v.Loaded
  unwritten : v.written = []

namespace Node

def Places (good : α → Prop) : Except Error α → Prop
  | .ok a => good a
  | .error e => ∃ problem place, e = .misplaced problem place

theorem Places.bind {good : α → Prop} {better : β → Prop} {x : Except Error α}
    {k : α → Except Error β} (hx : Places good x) (hk : ∀ a, good a → Places better (k a)) :
    Places better (x >>= k) := by
  cases x with
  | error e => exact hx
  | ok a => exact hk a hx

theorem Places.mono {good better : α → Prop} {x : Except Error α} (hx : Places good x)
    (h : ∀ a, good a → better a) : Places better x := by
  cases x with
  | error e => exact hx
  | ok a => exact h a hx

def textKeys (entries : List (Node × Node)) : List String := entries.filterMap fun e => e.1.text?

structure Entered (keys : List String) (entries : List (Value × Value)) : Prop where
  table : ∃ fields : List (String × Value), fields.map Prod.fst = keys ∧
    entries = fields.map (fun e => (.text e.1, e.2)) ∧ ∀ e ∈ fields, e.2.Loaded
  unwritten : Value.entriesWritten entries = []

theorem Entered.textual {keys : List String} {entries : List (Value × Value)}
    (h : Entered keys entries) (hd : keys.Nodup) : Textual (.mapping .plain entries) := by
  obtain ⟨⟨fields, rfl, rfl, hl⟩, hw⟩ := h
  exact ⟨.table (t := ⟨fields, hd⟩) hl, hw⟩

theorem Entered.cons {t : String} {v : Value} {keys : List String}
    {entries : List (Value × Value)} (hv : Textual v) (h : Entered keys entries) :
    Entered (t :: keys) ((.text t, v) :: entries) := by
  obtain ⟨⟨fields, rfl, rfl, hl⟩, hw⟩ := h
  refine ⟨⟨(t, v) :: fields, rfl, rfl, List.forall_mem_cons.mpr ⟨hv.loaded, hl⟩⟩, ?_⟩
  rw [Value.entriesWritten, hv.unwritten, hw]
  rfl

theorem textKeys_cons_some {k v : Node} {t : String} {es : List (Node × Node)}
    (hk : k.text? = some t) : textKeys ((k, v) :: es) = t :: textKeys es :=
  List.filterMap_cons_some hk

mutual

theorem places_textData : (n : Node) → Places Textual n.textData
  | scalar _ _ _ text => ⟨Value.loaded_text text, rfl⟩
  | sequence _ _ items => by
    rw [textData]
    exact (places_textItems items).bind fun vs hvs => ⟨.list hvs.1, hvs.2⟩
  | mapping _ _ entries => by
    rw [textData]
    refine (places_checkKeys entries []).bind fun _ hkeys => ?_
    exact (places_textEntries entries).bind fun es hes => hes.textual hkeys.1
  | endless place _ => ⟨.recursiveNode, place, rfl⟩

theorem places_textItems : (ns : List Node) →
    Places (fun vs => (∀ v ∈ vs, v.Loaded) ∧ Value.itemsWritten vs = []) (textItems ns)
  | [] => ⟨fun _ h => absurd h List.not_mem_nil, rfl⟩
  | n :: ns => by
    rw [textItems]
    refine (places_textData n).bind fun v hv => (places_textItems ns).bind fun vs hvs => ?_
    refine ⟨List.forall_mem_cons.mpr ⟨hv.loaded, hvs.1⟩, ?_⟩
    rw [Value.itemsWritten, hv.unwritten, hvs.2]
    rfl

theorem places_checkKeys : (es : List (Node × Node)) → (seen : List String) →
    Places (fun _ => (textKeys es).Nodup ∧ ∀ t ∈ textKeys es, t ∉ seen) (checkKeys es seen)
  | [], _ => ⟨.nil, fun _ h => absurd h List.not_mem_nil⟩
  | (k, v) :: es, seen => by
    rw [checkKeys]
    refine (places_textData k).bind fun _ _ => ?_
    cases hk : k.text? with
    | none =>
      have hkeys : textKeys ((k, v) :: es) = textKeys es := List.filterMap_cons_none hk
      rw [hkeys]
      exact places_checkKeys es seen
    | some t =>
      rw [textKeys_cons_some hk]
      dsimp only
      by_cases ht : seen.contains t = true
      · rw [if_pos ht]
        exact ⟨.duplicateKey t, k.start, rfl⟩
      · rw [if_neg ht]
        refine (places_checkKeys es (t :: seen)).mono fun _ h => ⟨?_, ?_⟩
        · exact .cons (fun htk => h.2 t htk List.mem_cons_self) h.1
        · refine List.forall_mem_cons.mpr ⟨by simpa using ht, fun u hu hs => ?_⟩
          exact h.2 u hu (List.mem_cons_of_mem t hs)

theorem places_textEntries : (es : List (Node × Node)) →
    Places (Entered (textKeys es)) (textEntries es)
  | [] => ⟨⟨[], rfl, rfl, fun _ h => absurd h List.not_mem_nil⟩, rfl⟩
  | (k, v) :: es => by
    rw [textEntries]
    cases hk : k.text? with
    | none => exact ⟨.unhashableKey, k.start, rfl⟩
    | some t =>
      rw [textKeys_cons_some hk]
      exact (places_textData v).bind fun u hu => (places_textEntries es).bind fun us hus =>
        hus.cons hu

end

end Node

variable {compose : Composer} {source : Source}

theorem textual_of_loadTextBy {v : Value} (h : loadTextBy compose source = .ok v) : Textual v := by
  unfold loadTextBy at h
  obtain ⟨root, -, hroot⟩ := exists_of_bind_eq_ok h
  cases root with
  | none =>
    obtain rfl := Except.ok.inj hroot
    exact ⟨.scalar rfl, rfl⟩
  | some root =>
    have hplaces := Node.places_textData root
    rwa [show root.textData = .ok v from hroot] at hplaces

end GraphTemplate.Yaml

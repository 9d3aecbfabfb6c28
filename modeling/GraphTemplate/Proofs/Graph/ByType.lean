import GraphTemplate.Proofs.Graph.Listings
import GraphTemplate.Proofs.Graph.Soundness
import Mathlib.Data.List.Perm.Basic

/-! Triplets by the types of their parts. A list by types is a part of the whole listing, in its
order; the lists of different main types divide it, as long as no type is without a name. -/
namespace GraphTemplate.Graph

variable {w : Contents} {g : Graph}

theorem passes_iff {wanted : Option String} {name : String} :
    passes wanted name = true ↔ ∀ s ∈ wanted, s ≠ "" → name = s := by
  cases wanted with
  | none => simp [passes]
  | some s =>
    simp only [passes, Bool.or_eq_true, String.isEmpty_iff, beq_iff_eq, Option.mem_some_iff,
      forall_eq', or_iff_not_imp_left, eq_comm (a := name)]

/-- The rows that are left out would not have had a triplet that passes. -/
theorem tripletsPassing_eq (w : Contents) (g : Graph) (main subject edge : Option String) :
    g.tripletsPassing w main subject edge = g.triplets.filter fun t =>
      passes main (w.node t.main).typeName &&
        (passes subject (w.node t.subject).typeName && passes edge (w.edge t.edge).typeName) := by
  rw [tripletsPassing, triplets, List.filter_flatMap]
  refine List.flatMap_congr fun row _ => ?_
  have hmain {t : Triplet NodeId EdgeId} (ht : t ∈ g.tripletsOfRow row) :
      (w.node t.main).typeName = (w.node row.node).typeName := by
    rw [main_of_mem_tripletsOfRow ht]
  split
  · next hpass =>
    refine List.filter_congr fun t ht => ?_
    rw [hmain ht, hpass, Bool.true_and]
  · next hpass =>
    refine (List.filter_eq_nil_iff.mpr fun t ht => ?_).symm
    rw [hmain ht, Bool.eq_false_iff.mpr hpass, Bool.false_and]
    exact Bool.false_ne_true

def tripletsOfType (w : Contents) (g : Graph) (main : String) (subject edge : Option String) :
    List (Triplet NodeId EdgeId) :=
  g.tripletsPassing w (some main) subject edge

theorem tripletsOfType_eq (w : Contents) (g : Graph) (main : String)
    (subject edge : Option String) :
    g.tripletsOfType w main subject edge = g.triplets.filter fun t =>
      (main ≠ "" → (w.node t.main).typeName = main) ∧
        (∀ s ∈ subject, s ≠ "" → (w.node t.subject).typeName = s) ∧
        ∀ s ∈ edge, s ≠ "" → (w.edge t.edge).typeName = s := by
  rw [tripletsOfType, tripletsPassing_eq]
  refine List.filter_congr fun t _ => Bool.eq_iff_iff.mpr ?_
  rw [Bool.and_eq_true, Bool.and_eq_true, passes_iff, passes_iff, passes_iff, decide_eq_true_iff]
  simp only [Option.mem_some_iff, forall_eq']

theorem tripletsOfType_nameless (w : Contents) (g : Graph) :
    g.tripletsOfType w "" none none = g.triplets := by
  rw [tripletsOfType_eq, List.filter_eq_self]
  simp

theorem tripletsOfType_named {main : String} (h : main ≠ "") :
    g.tripletsOfType w main none none =
      g.triplets.filter fun t => (w.node t.main).typeName = main := by
  rw [tripletsOfType_eq]
  simp [h]

/-- Different keys divide what has one of them. -/
theorem perm_flatMap_filter {α κ : Type} [DecidableEq κ] (key : α → κ) (l : List α) {keys : List κ}
    (hn : keys.Nodup) :
    (keys.flatMap fun k => l.filter fun a => key a = k).Perm
      (l.filter fun a => key a ∈ keys) := by
  induction keys with
  | nil => simp
  | cons k keys ih =>
    obtain ⟨hk, hn⟩ := List.nodup_cons.mp hn
    rw [List.flatMap_cons]
    refine ((ih hn).append_left _).trans ?_
    have hfirst : (l.filter fun a => key a ∈ k :: keys).filter (fun a => key a = k) =
        l.filter fun a => key a = k := by
      rw [List.filter_filter]
      refine List.filter_congr fun a _ => ?_
      by_cases ha : key a = k
      · simp [ha]
      · simp [ha]
    have hrest : (l.filter fun a => key a ∈ k :: keys).filter (fun a => !decide (key a = k)) =
        l.filter fun a => key a ∈ keys := by
      rw [List.filter_filter]
      refine List.filter_congr fun a _ => ?_
      by_cases ha : key a = k
      · simp [ha, hk]
      · simp [ha]
    have hboth := List.filter_append_perm (fun a => decide (key a = k))
      (l.filter fun a => key a ∈ k :: keys)
    rwa [hfirst, hrest] at hboth

variable {names : List String}

theorem perm_named (hn : names.Nodup) (hne : "" ∉ names) :
    (names.flatMap fun name => g.tripletsOfType w name none none).Perm
      (g.triplets.filter fun t => (w.node t.main).typeName ∈ names) := by
  have hlists : (names.flatMap fun name => g.tripletsOfType w name none none) =
      names.flatMap fun name => g.triplets.filter fun t => (w.node t.main).typeName = name :=
    List.flatMap_congr fun name hname => tripletsOfType_named fun he => hne (he ▸ hname)
  rw [hlists]
  exact perm_flatMap_filter (fun t => (w.node t.main).typeName) g.triplets hn

/-- The list of the type without a name is the whole listing, before the lists of the others. -/
theorem perm_nameless (hn : names.Nodup) (hmem : "" ∈ names) :
    (names.flatMap fun name => g.tripletsOfType w name none none).Perm
      (g.triplets ++ g.triplets.filter fun t => (w.node t.main).typeName ∈ names.erase "") := by
  refine ((List.perm_cons_erase hmem).flatMap_right _).trans ?_
  rw [List.flatMap_cons, tripletsOfType_nameless]
  exact (perm_named (hn.erase "") (hn.not_mem_erase)).append_left _

/-- A list by types has just the triplets of these types, in the order of all triplets, where an
empty name asks for nothing. The lists of all main types are therefore all triplets, each once,
unless there is a type with an empty name beside others. -/
theorem tripletsOfType_lists (w : Contents) (g : Graph) :
    (Reachable ⟨w, g⟩ → g.allTriplets w = .ok g.triplets ∧ ∀ main subject edge,
      g.typedTriplets w main subject edge = .ok (g.tripletsOfType w main subject edge)) ∧
    (∀ main subject edge, g.tripletsOfType w main subject edge = g.triplets.filter fun t =>
      (main ≠ "" → (w.node t.main).typeName = main) ∧
        (∀ s ∈ subject, s ≠ "" → (w.node t.subject).typeName = s) ∧
        ∀ s ∈ edge, s ≠ "" → (w.edge t.edge).typeName = s) ∧
    ∀ names : List String, names.Nodup →
      (∀ t ∈ g.triplets, (w.node t.main).typeName ∈ names) →
      ((names.flatMap fun name => g.tripletsOfType w name none none).Perm g.triplets ↔
        "" ∉ names ∨ ∀ t ∈ g.triplets, (w.node t.main).typeName = "") := by
  refine ⟨fun hr => ?_, tripletsOfType_eq w g, fun names hn hall => ?_⟩
  · have hl : g.Linked := (reachable_sound hr).linked
    exact ⟨hl.allTriplets_eq w, fun main subject edge => hl.passingTriplets_eq w _ subject edge⟩
  by_cases hmem : "" ∈ names
  · have hlists := perm_nameless (w := w) (g := g) hn hmem
    have hothers : (names.flatMap fun name => g.tripletsOfType w name none none).Perm g.triplets ↔
        (g.triplets.filter fun t => (w.node t.main).typeName ∈ names.erase "") = [] := by
      constructor
      · intro hperm
        have hlength := (hlists.symm.trans hperm).length_eq
        rw [List.length_append] at hlength
        exact List.eq_nil_of_length_eq_zero (by omega)
      · intro hnil
        rwa [hnil, List.append_nil] at hlists
    rw [hothers, List.filter_eq_nil_iff, or_iff_right (not_not_intro hmem)]
    refine forall₂_congr fun t ht => ?_
    rw [decide_eq_true_iff, hn.mem_erase_iff]
    exact ⟨fun h => by_contra fun hne => h ⟨hne, hall t ht⟩, fun h hne => hne.1 h⟩
  · refine iff_of_true ?_ (.inl hmem)
    have hlists := perm_named (w := w) (g := g) hn hmem
    rwa [List.filter_eq_self.mpr fun t ht => decide_eq_true (hall t ht)] at hlists

def paired (name : String) : World :=
  World.next (World.next
    ⟨⟨fun n => if n = 0 then ⟨"a", []⟩ else ⟨name, []⟩, fun _ => ⟨"e", []⟩⟩, Graph.empty⟩
    (.change (.addTriplet ⟨some 0, some 1, some 0⟩)))
    (.change (.addTriplet ⟨some 1, some 0, some 0⟩))

theorem tripletsOfType_paired :
    Reachable (paired "b") ∧
      (paired "b").graph.typedTriplets (paired "b").contents "b" (some "a") (some "") =
        .ok [⟨1, 0, 0⟩] ∧
      (["b", "a"].flatMap fun name =>
        (paired "b").graph.tripletsOfType (paired "b").contents name none none).Perm
          (paired "b").graph.triplets := by
  have htriplets : (paired "b").graph.triplets = [⟨0, 1, 0⟩, ⟨1, 0, 0⟩] := by decide +kernel
  have hmain : ∀ t ∈ (paired "b").graph.triplets,
      ((paired "b").contents.node t.main).typeName ∈ ["b", "a"] := by
    rw [htriplets]
    decide
  have hr : Reachable (paired "b") := .step _ (.step _ (.init _))
  obtain ⟨hrun, hlist, hall⟩ := tripletsOfType_lists (paired "b").contents (paired "b").graph
  have hba : (paired "b").graph.tripletsOfType (paired "b").contents "b" (some "a") (some "") =
      [⟨1, 0, 0⟩] := by
    rw [hlist, htriplets]
    decide
  refine ⟨hr, ?_, (hall _ (by decide) hmain).mpr (.inl (by decide))⟩
  rw [(hrun hr).2, hba]

/-- Triplets with a main node of a type without a name are listed with those of all other types. -/
theorem nameless_unfiltered :
    Reachable (paired "") ∧
      (paired "").graph.typedTriplets (paired "").contents "" none none =
        .ok [⟨0, 1, 0⟩, ⟨1, 0, 0⟩] ∧
      ((paired "").graph.triplets.filter fun t =>
        ((paired "").contents.node t.main).typeName = "") = [⟨1, 0, 0⟩] ∧
      (paired "").graph.typedTriplets (paired "").contents "" (some "") none =
        .ok [⟨0, 1, 0⟩, ⟨1, 0, 0⟩] ∧
      ¬(["a", ""].flatMap fun name =>
        (paired "").graph.tripletsOfType (paired "").contents name none none).Perm
          (paired "").graph.triplets := by
  have htriplets : (paired "").graph.triplets = [⟨0, 1, 0⟩, ⟨1, 0, 0⟩] := by decide +kernel
  have hlists : (["a", ""].flatMap fun name =>
      (paired "").graph.tripletsOfType (paired "").contents name none none) =
        [⟨0, 1, 0⟩, ⟨0, 1, 0⟩, ⟨1, 0, 0⟩] := by decide +kernel
  refine ⟨.step _ (.step _ (.init _)), by decide +kernel, ?_, by decide +kernel, ?_⟩
  · rw [htriplets]
    decide
  · rw [hlists, htriplets]
    intro h
    exact absurd h.length_eq (by decide)

end GraphTemplate.Graph

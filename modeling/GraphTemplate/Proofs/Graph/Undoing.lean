import GraphTemplate.Proofs.Graph.Unedited

/-! Adding an edge and removing it again. The ends of the edge are in the same rows for both
changes, and the edge that is appended is the first of its content between them, so that it is the
one that is dropped. -/
namespace GraphTemplate.Graph

variable {w : Contents} {g g' : Graph} {a b : NodeId} {r s : Nat} {row : Row} {i : EdgeId}

theorem changeChildren_changeChildren (c d : List (Nat × List EdgeId) → List (Nat × List EdgeId))
    (hr : g.row? r = some row) :
    (g.changeChildren r c).changeChildren r d = g.changeChildren r fun cs => d (c cs) := by
  rw [changeChildren_eq ((row?_changeChildren hr r).trans (if_pos rfl)), changeChildren_eq hr,
    changeChildren_eq hr, List.set_set]

/-- An edge that is dropped after it was appended leaves the edges as they were; at most a subject
without edges is lost. -/
theorem flatMap_dropEdge_appendEdge {α : Type} (f : Nat × List EdgeId → List α)
    (hf : ∀ s, f (s, []) = []) (s : Nat) (i : EdgeId) (cs : List (Nat × List EdgeId)) :
    (dropEdge s (edgesUnder s cs).length (appendEdge s i cs)).flatMap f = cs.flatMap f := by
  induction cs with
  | nil => simp [appendEdge, dropEdge, edgesUnder]
  | cons c cs ih =>
    rw [appendEdge, edgesUnder_cons]
    by_cases hc : c.1 = s
    · subst hc
      have herase : (c.2 ++ [i]).eraseIdx c.2.length = c.2 := by
        simp [List.eraseIdx_append_of_length_le]
      rw [if_pos rfl, if_pos rfl, dropEdge, if_pos rfl, herase, List.flatMap_cons]
      dsimp only
      cases hempty : c.2.isEmpty with
      | true =>
        have hnil : c = (c.1, []) := Prod.ext rfl (List.isEmpty_iff.mp hempty)
        rw [if_pos rfl, hnil, hf, List.nil_append]
      | false => rw [if_neg Bool.false_ne_true, List.flatMap_cons]
    · rw [if_neg hc, if_neg (Ne.symm hc), dropEdge, if_neg hc, List.flatMap_cons, ih,
        List.flatMap_cons]

theorem tripletsOfRow_changeChildren {change : List (Nat × List EdgeId) → List (Nat × List EdgeId)}
    (hr : g.row? r = some row) (x : Row) :
    (g.changeChildren r change).tripletsOfRow x = g.tripletsOfRow x := by
  unfold tripletsOfRow
  congr
  funext c
  rw [row?_changeChildren hr]
  by_cases hc : c.1 = r
  · rw [if_pos hc, hc, hr]
  · rw [if_neg hc]

/-- A change of the edges of a row that lists the same edges is not seen. -/
theorem triplets_changeChildren_of_flatMap
    {change : List (Nat × List EdgeId) → List (Nat × List EdgeId)} (hr : g.row? r = some row)
    (h : ∀ f : Nat × List EdgeId → List (Triplet NodeId EdgeId), (∀ s, f (s, []) = []) →
      (change row.children).flatMap f = row.children.flatMap f) :
    (g.changeChildren r change).triplets = g.triplets := by
  have hrows : (g.changeChildren r change).rows =
      g.rows.set r (some { row with children := change row.children }) := by
    rw [changeChildren_eq hr]
  have hrow : g.tripletsOfRow { row with children := change row.children } =
      g.tripletsOfRow row := by
    refine h _ fun s => ?_
    dsimp only
    cases g.row? s <;> rfl
  have hf : (fun x : Option Row => x.elim [] (g.changeChildren r change).tripletsOfRow) =
      fun x => x.elim [] g.tripletsOfRow := by
    rw [funext (tripletsOfRow_changeChildren hr)]
  rw [triplets_eq_rows, triplets_eq_rows, hf, hrows, List.flatMap_def, List.flatMap_def]
  congr 1
  apply List.ext_getElem?
  intro t
  rw [List.getElem?_map, List.getElem?_map]
  by_cases ht : r = t
  · subst ht
    rw [List.getElem?_set_self (row?_lt hr), row?_eq_some_iff.mp hr]
    exact congrArg some hrow
  · rw [List.getElem?_set_ne ht]

theorem triplets_inserted (hg : g.Linked) (n : NodeId) (c : Entity) :
    (g.inserted n c).triplets = g.triplets := by
  have hrow : ∀ ⦃r row⦄, g.row? r = some row →
      (g.inserted n c).tripletsOfRow row = g.tripletsOfRow row := by
    intro r row hr
    refine List.flatMap_congr fun d hd => ?_
    rw [row?_inserted]
    by_cases hl : d.1 = g.rows.length
    · -- there are no edges yet that end in the new row
      have hnil : d.2 = [] := by
        rw [← edgesUnder_of_mem (hg.keyed hr) hd, ← edgesBetween_eq hr]
        exact hg.edgesBetween_eq_nil (hl ▸ row?_length g) r
      rw [if_pos hl, hl, row?_length, hnil]
      rfl
    · rw [if_neg hl]
  rw [triplets_eq_rows, triplets_eq_rows]
  have hrows : (g.inserted n c).rows = g.rows ++ [some ⟨n, []⟩] := rfl
  rw [hrows, List.flatMap_append, List.flatMap_singleton]
  refine (List.append_nil _).trans (List.flatMap_congr fun x hx => ?_)
  cases x with
  | none => rfl
  | some row =>
    obtain ⟨r, hr⟩ := List.mem_iff_getElem?.mp hx
    exact hrow (row?_eq_some_iff.mpr hr)

def Unjoined (w : Contents) (g : Graph) (r s : Nat) (i : EdgeId) : Prop :=
  ∀ j ∈ g.edgesBetween r s, (w.edge j).isHashable = true ∧ ¬(w.edge j).alike (w.edge i) = true

theorem unjoined_of_joined (hr : g.row? r = some row)
    (h : outcome (joined w (some r) (some s) (some i)) g = (.ok false, g')) :
    g' = g ∧ Unjoined w g r s i := by
  obtain ⟨o, g₁, ho, h⟩ := exists_of_outcome_bind h
  obtain ⟨he, rfl⟩ := Prod.mk.inj h
  obtain rfl : o = none := by simpa using Except.ok.inj he
  rw [outcome_edgePosition hr] at ho
  obtain ⟨hp, rfl⟩ := Prod.mk.inj ho
  refine ⟨rfl, ?_⟩
  cases hc : (w.edge i).hashed with
  | error f =>
    rw [hc] at hp
    exact nomatch hp
  | ok c =>
    obtain ⟨-, rfl⟩ := Entity.hashed_eq_ok_iff.mp hc
    rw [hc] at hp
    exact positionOf_eq_none hp

theorem unjoined_of_nil (h : g.edgesBetween r s = []) : Unjoined w g r s i := by
  rw [Unjoined, h]
  exact fun j hj => absurd hj List.not_mem_nil

theorem row?_appended (hr : g.row? r = some row) (s : Nat) (i : EdgeId) :
    (g.changeChildren r (appendEdge s i)).row? r =
      some { row with children := appendEdge s i row.children } :=
  (row?_changeChildren hr r).trans (if_pos rfl)

theorem edgesBetween_appended (hr : g.row? r = some row) (s : Nat) (i : EdgeId) :
    (g.changeChildren r (appendEdge s i)).edgesBetween r s = g.edgesBetween r s ++ [i] := by
  rw [edgesBetween_changeChildren hr, if_pos rfl, edgesUnder_appendEdge, if_pos rfl,
    edgesBetween_eq hr]

/-- The edge that was appended to others is the first with its content. -/
theorem Unjoined.edgePosition_appended (h : Unjoined w g r s i) (hr : g.row? r = some row)
    (hi : (w.edge i).isHashable = true) :
    outcome (edgePosition w r s i) (g.changeChildren r (appendEdge s i)) =
      (.ok (some (g.edgesBetween r s).length), g.changeChildren r (appendEdge s i)) := by
  have hall : ∀ j ∈ g.edgesBetween r s ++ [i], (w.edge j).isHashable = true := by
    intro j hj
    rcases List.mem_append.mp hj with hj | hj
    · exact (h j hj).1
    · rwa [List.mem_singleton.mp hj]
  have hnone : (g.edgesBetween r s).findIdx? (fun j => (w.edge j).alike (w.edge i)) = none := by
    rw [List.findIdx?_eq_none_iff]
    exact fun j hj => Bool.eq_false_iff.mpr (h j hj).2
  have hrow := row?_appended hr s i
  rw [outcome_edgePosition hrow, Entity.hashed_of_isHashable hi]
  dsimp only
  rw [edgesBetween_appended hr, positionOf_of_isHashable hall, List.findIdx?_append, hnone]
  simp [Entity.alike_refl]

structure Placed (w : Contents) (g : Graph) (a b : NodeId) (i : EdgeId) (r s : Nat) : Prop where
  sound : g.Sound
  main : Found w g a r
  subject : Found w g b s
  unjoined : Unjoined w g r s i

theorem placed_of_new_main (hg : g.Sound) (ha : a ∉ g.nodes) (hh : (w.node a).isHashable = true)
    (hb : Found w (g.inserted a (w.node a)) b s) :
    Placed w (g.inserted a (w.node a)) a b i g.rows.length s where
  sound := hg.inserted ha _
  main := found_inserted hh
  subject := hb
  unjoined := by
    apply unjoined_of_nil
    rw [edgesBetween_inserted, edgesBetween_eq_nil (row?_length g)]

theorem placed_of_new_subject (hg : g.Sound) (ha : Found w g a r) (hb : Missing w g b) :
    Placed w (g.inserted b (w.node b)) a b i r g.rows.length where
  sound := hg.inserted hb.outside _
  main := ha.inserted hg.indexed fun hn =>
    hb.apart_of_find hg.indexed hn (ha.outcome_find hg)
  subject := found_inserted hb.hashable
  unjoined := by
    apply unjoined_of_nil
    rw [edgesBetween_inserted, hg.linked.edgesBetween_eq_nil (row?_length g)]

/-- The main node is missing: it is inserted, and so is the subject unless it is found. -/
theorem placed_of_missing_main {o : Option Nat} {k : Graph} (hg : g.Sound) (ha : Missing w g a)
    (ho : outcome (find w b) g = (.ok o, k))
    (h : outcome (placeTriplet w ⟨some a, some b, some i⟩ none o) k = (.ok true, g')) :
    ∃ l r s, Placed w l a b i r s ∧ l.triplets = k.triplets ∧
      g' = l.changeChildren r (appendEdge s i) := by
  obtain ⟨⟨hk, -⟩, hf, -⟩ := find_safe hg ho
  have hout : a ∉ k.nodes := by
    rw [nodes_of_rows hf]
    exact ha.outside
  have hs := hk.inserted hout (w.node a)
  have ht := triplets_inserted hk.linked a (w.node a)
  unfold placeTriplet at h
  rw [outcome_bind_ok (outcome_ensureMain_missing ha.hashable)] at h
  rcases o with _ | s
  · have hb := missing_of_find hg.indexed ho
    by_cases hab : (w.node a).alike (w.node b) = true
    · have hfound := hb.found_inserted ha.hashable hab
      rw [outcome_bind_ok (outcome_ensureSubject_found hfound hs),
        outcome_bind_ok (outcome_join (row?_inserted_self k a _) _ _)] at h
      obtain ⟨-, rfl⟩ := Prod.mk.inj h
      exact ⟨_, _, _, placed_of_new_main hk hout ha.hashable hfound, ht, rfl⟩
    · have hmissing := hb.inserted hab
      have hrow := row?_inserted_of_row? (n := b) (c := w.node b)
        (row?_inserted_self k a (w.node a))
      rw [outcome_bind_ok (outcome_ensureSubject_missing hmissing hs.indexed),
        outcome_bind_ok (outcome_join hrow _ _)] at h
      obtain ⟨-, rfl⟩ := Prod.mk.inj h
      refine ⟨_, _, _, placed_of_new_subject hs (found_inserted ha.hashable) hmissing, ?_, rfl⟩
      rw [triplets_inserted hs.linked, ht]
  · have hsubject : outcome (ensureSubject w (some s) (some b)) (k.inserted a (w.node a)) =
        (.ok (some s), k.inserted a (w.node a)) := rfl
    rw [outcome_bind_ok hsubject,
      outcome_bind_ok (outcome_join (row?_inserted_self k a _) _ _)] at h
    obtain ⟨-, rfl⟩ := Prod.mk.inj h
    refine ⟨_, _, _, placed_of_new_main hk hout ha.hashable ?_, ht, rfl⟩
    refine (found_of_find hg.indexed ho).inserted hk.indexed fun hn => ?_
    rw [nodes_of_rows hf] at hn
    exact ha.apart_of_find hg.indexed hn ho

/-- The main node is found: the subject is inserted unless it is found too. -/
theorem placed_of_found_main {o : Option Nat} {k : Graph} (hg : g.Sound) (ha : Found w k a r)
    (ho : outcome (find w b) g = (.ok o, k)) (hu : ∀ s ∈ o, Unjoined w k r s i)
    (h : outcome (placeTriplet w ⟨some a, some b, some i⟩ (some r) o) k = (.ok true, g')) :
    ∃ l r s, Placed w l a b i r s ∧ l.triplets = k.triplets ∧
      g' = l.changeChildren r (appendEdge s i) := by
  obtain ⟨⟨hk, -⟩, -, -⟩ := find_safe hg ho
  obtain ⟨row, hr, -⟩ := ha.row
  have hmain : outcome (ensureMain w (some r) (some a)) k = (.ok (some r), k) := rfl
  unfold placeTriplet at h
  rw [outcome_bind_ok hmain] at h
  rcases o with _ | s
  · have hb := missing_of_find hg.indexed ho
    rw [outcome_bind_ok (outcome_ensureSubject_missing hb hk.indexed),
      outcome_bind_ok (outcome_join (row?_inserted_of_row? hr) _ _)] at h
    obtain ⟨-, rfl⟩ := Prod.mk.inj h
    exact ⟨_, _, _, placed_of_new_subject hk ha hb, triplets_inserted hk.linked _ _, rfl⟩
  · have hsubject : outcome (ensureSubject w (some s) (some b)) k = (.ok (some s), k) := rfl
    rw [outcome_bind_ok hsubject, outcome_bind_ok (outcome_join hr _ _)] at h
    obtain ⟨-, rfl⟩ := Prod.mk.inj h
    exact ⟨k, r, s, ⟨hk, ha, found_of_find hg.indexed ho, hu s rfl⟩, rfl, rfl⟩

/-- An edge is appended once both ends have their rows, and till then the triplets are the same. -/
theorem placed_of_addTriplet (hg : g.Sound) (hsole : Sole w g a)
    (h : outcome (addTriplet w ⟨some a, some b, some i⟩) g = (.ok true, g')) :
    ∃ k r s, Placed w k a b i r s ∧ k.triplets = g.triplets ∧
      g' = k.changeChildren r (appendEdge s i) := by
  unfold addTriplet at h
  obtain ⟨m, g₁, hm, h₁⟩ := exists_of_outcome_bind h
  change outcome (find w a) g = (.ok m, g₁) at hm
  obtain ⟨⟨hs₁, -⟩, hf₁, hlive⟩ := find_safe hg hm
  obtain ⟨o, g₂, ho, h₂⟩ := exists_of_outcome_bind h₁
  change outcome (find w b) g₁ = (.ok o, g₂) at ho
  obtain ⟨-, hf₂, -⟩ := find_safe hs₁ ho
  have hlive : ∀ ⦃r⦄, m = some r → ∃ row, g₂.row? r = some row := by
    intro r hr
    rw [row?_of_rows hf₂]
    exact hlive (congrArg _ hr)
  rw [← triplets_of_rows hf₁, ← triplets_of_rows hf₂]
  obtain ⟨j, g₃, hj, h₃⟩ := exists_of_outcome_bind h₂
  obtain ⟨rfl, -⟩ := joined_cases hlive hj
  cases j
  case true => exact nomatch Except.ok.inj (Prod.mk.inj h₃).1
  rcases m with _ | r
  · exact placed_of_missing_main hs₁ (missing_of_find hg.indexed hm) ho h₃
  · have ha := (found_of_find hg.indexed hm).find hs₁ (hsole.of_rows hf₁) ho
    obtain ⟨row, hr⟩ := hlive rfl
    refine placed_of_found_main hs₁ ha ho ?_ h₃
    rintro s ⟨⟩
    exact (unjoined_of_joined hr hj).2

theorem Placed.appended_sound (h : Placed w g a b i r s) :
    (g.changeChildren r (appendEdge s i)).Sound := by
  obtain ⟨row, hr, -⟩ := h.main.row
  obtain ⟨subject, hs, -⟩ := h.subject.row
  exact h.sound.appended hr hs fun hi => (h.unjoined i hi).2 (Entity.alike_refl _)

/-- Both ends are found once more when the edge has been appended. -/
theorem Placed.found_again (h : Placed w g a b i r s) :
    let k := g.changeChildren r (appendEdge s i)
    outcome (find w a) k = (.ok (some r), k) ∧ outcome (find w b) k = (.ok (some s), k) := by
  obtain ⟨row, hr, -⟩ := h.main.row
  have hs := h.appended_sound
  exact ⟨(h.main.changeChildren hr).outcome_find hs, (h.subject.changeChildren hr).outcome_find hs⟩

theorem Placed.removed (h : Placed w g a b i r s) (hi : (w.edge i).isHashable = true) :
    ∃ g', outcome (removeEdge w ⟨some a, some b, some i⟩)
        (g.changeChildren r (appendEdge s i)) = (.ok true, g') ∧ g'.triplets = g.triplets := by
  obtain ⟨row, hr, -⟩ := h.main.row
  obtain ⟨ha, hb⟩ := h.found_again
  have hrow := row?_appended hr s i
  have hlast : (g.edgesBetween r s).length <
      ((g.changeChildren r (appendEdge s i)).edgesBetween r s).length := by
    rw [edgesBetween_appended hr, List.length_append, List.length_singleton]
    exact Nat.lt_succ_self _
  refine ⟨(g.changeChildren r (appendEdge s i)).changeChildren r
    (dropEdge s (g.edgesBetween r s).length), ?_, ?_⟩
  · unfold removeEdge
    dsimp only
    rw [outcome_bind_ok ha, outcome_bind_ok hb]
    dsimp only
    rw [outcome_bind_ok (h.unjoined.edgePosition_appended hr hi)]
    exact outcome_bind_ok (outcome_removeEdgeAt hrow hlast)
  · rw [changeChildren_changeChildren _ _ hr, edgesBetween_eq hr]
    exact triplets_changeChildren_of_flatMap hr fun f hf => flatMap_dropEdge_appendEdge f hf s i _

theorem Placed.stuck (h : Placed w g a b i r s) {f : Fault} (hi : (w.edge i).hashed = .error f) :
    outcome (removeEdge w ⟨some a, some b, some i⟩) (g.changeChildren r (appendEdge s i)) =
      (.error f, g.changeChildren r (appendEdge s i)) := by
  obtain ⟨row, hr, -⟩ := h.main.row
  obtain ⟨ha, hb⟩ := h.found_again
  have hrow := row?_appended hr s i
  unfold removeEdge
  dsimp only
  rw [outcome_bind_ok ha, outcome_bind_ok hb]
  dsimp only
  refine outcome_bind_error ?_
  rw [outcome_edgePosition hrow, hi]

theorem Placed.stays (h : Placed w g a b i r s) :
    ∃ t ∈ (g.changeChildren r (appendEdge s i)).triplets, t.edge = i ∧ t ∉ g.triplets := by
  obtain ⟨row, hr, -⟩ := h.main.row
  obtain ⟨subject, hs, -⟩ := h.subject.row
  have hl := h.sound.linked
  refine ⟨⟨row.node, subject.node, i⟩, ?_, rfl, ?_⟩
  · exact (mem_triplets_appended hl hr hs h.appended_sound.linked).mpr (Or.inl rfl)
  · intro hi
    exact (h.unjoined i ((hl.mem_triplets_iff hr hs).mp hi)).2 (Entity.alike_refl _)

/-- An edge that has just been added can be removed, and the triplets are then what they were
before, if its content can be looked up by. Otherwise removing it fails and it stays: an edge is
only looked at when it is added if both of its ends were there already. Edits in place do no harm
unless they have left two stored nodes with what the main node holds. -/
theorem removeEdge_undoes {s : World} (hs : Reachable s) {a b : NodeId} {i : EdgeId} {g' : Graph}
    (hsole : Unedited s ∨ Sole s.contents s.graph a)
    (hadd : outcome (addTriplet s.contents ⟨some a, some b, some i⟩) s.graph = (.ok true, g')) :
    ((s.contents.edge i).isHashable = true →
      ∃ g'', outcome (removeEdge s.contents ⟨some a, some b, some i⟩) g' = (.ok true, g'') ∧
        g''.triplets = s.graph.triplets) ∧
      ∀ f, (s.contents.edge i).hashed = .error f →
        outcome (removeEdge s.contents ⟨some a, some b, some i⟩) g' = (.error f, g') ∧
          ∃ t ∈ g'.triplets, t.edge = i ∧ t ∉ s.graph.triplets := by
  have hsole : Sole s.contents s.graph a := hsole.elim (fun h => h.current.sole a) id
  obtain ⟨k, r, q, hplaced, htriplets, rfl⟩ := placed_of_addTriplet (reachable_sound hs) hsole hadd
  rw [← htriplets]
  exact ⟨hplaced.removed, fun f hf => ⟨hplaced.stuck hf, hplaced.stays⟩⟩

def assorted : Contents where
  node n := ⟨if n = 0 then "a" else "b", []⟩
  edge i := ⟨if i = 0 then "e" else "f", if i = 2 then [(.text "p", .bytes true [1])] else []⟩

def joinedPair : World :=
  (World.mk assorted empty).next (.change (.addTriplet ⟨some 0, some 1, some 0⟩))

def wayBack : PartialTriplet := ⟨some 2, some 0, some 1⟩

theorem wayBack_undone :
    (outcome (addTriplet assorted wayBack) joinedPair.graph).1 = .ok true ∧
      (outcome (addTriplet assorted wayBack) joinedPair.graph).2.triplets =
        [⟨0, 1, 0⟩, ⟨1, 0, 1⟩] ∧
      ∃ g, outcome (removeEdge assorted wayBack)
          (outcome (addTriplet assorted wayBack) joinedPair.graph).2 = (.ok true, g) ∧
        g.triplets = [⟨0, 1, 0⟩] := by
  have hadd : (outcome (addTriplet assorted wayBack) joinedPair.graph).1 = .ok true := by
    decide +kernel
  have htriplets : joinedPair.graph.triplets = [⟨0, 1, 0⟩] := by decide +kernel
  have hunedited : Unedited joinedPair := .change _ (.init assorted)
  obtain ⟨hundone, -⟩ := removeEdge_undoes (s := joinedPair) (.step _ (.init assorted))
    (Or.inl hunedited) (Prod.ext hadd rfl)
  rw [htriplets] at hundone
  exact ⟨hadd, by decide +kernel, hundone rfl⟩

def overtaken : World := joinedPair.next (.editNode 0 ⟨"b", []⟩)

/-- An edge that can be changed in place is added between nodes that are not there yet, and cannot
be removed. From a node that is found by its content, even another edge cannot: looking its subject
up leaves the index with the row of the subject for that content. -/
theorem added_not_removed :
    Reachable ⟨assorted, empty⟩ ∧
      (outcome (addTriplet assorted ⟨some 0, some 1, some 2⟩) empty).1 = .ok true ∧
      (outcome (removeEdge assorted ⟨some 0, some 1, some 2⟩)
        (outcome (addTriplet assorted ⟨some 0, some 1, some 2⟩) empty).2).1 = .error .wrongKind ∧
      Reachable overtaken ∧
      (outcome (addTriplet overtaken.contents wayBack) overtaken.graph).1 = .ok true ∧
      (outcome (removeEdge overtaken.contents wayBack)
        (outcome (addTriplet overtaken.contents wayBack) overtaken.graph).2).1 = .ok false :=
  ⟨.init assorted, by decide +kernel, by decide +kernel, .step _ (.step _ (.init assorted)),
    by decide +kernel, by decide +kernel⟩

end GraphTemplate.Graph

import GraphTemplate.Proofs.Graph.Updates

/-! Every graph that can be reached is sound, whatever was edited in place and whichever operations
failed on the way, and an operation fails only for a content that nothing can be looked up by. -/
namespace GraphTemplate.Graph

variable {w : Contents} {g g' : Graph}

/-- What holds at the end of an operation that has come to a result or to a fault. -/
structure Safe {α : Type} (w : Contents) (x : Except Fault α) (g : Graph) : Prop where
  sound : g.Sound
  fault : ∀ ⦃f⦄, x = .error f → Unhashable w f

theorem Safe.ok {α : Type} (h : g.Sound) (a : α) : Safe w (.ok a) g :=
  ⟨h, fun _ hf => (nomatch hf)⟩

theorem Safe.error {α : Type} (h : g.Sound) {f : Fault} (hf : Unhashable w f) :
    Safe w (.error f : Except Fault α) g :=
  ⟨h, fun _ he => Except.error.inj he ▸ hf⟩

theorem Safe.raise {α β : Type} {f : Fault} (h : Safe w (.error f : Except Fault α) g) :
    Safe w (.error f : Except Fault β) g :=
  Safe.error h.sound (h.fault rfl)

theorem Sound.of_rows (h : g.Sound) (hi : g'.Indexed) (hf : g'.rows = g.rows) : g'.Sound :=
  ⟨h.linked.of_rows hf, hi⟩

theorem positionOf_cons_unhashable {c : Entity} {i : EdgeId} {f : Fault} (is : List EdgeId)
    (h : (w.edge i).hashed = .error f) : positionOf w c (i :: is) = .error f := by
  rw [positionOf, h]
  rfl

theorem positionOf_cons {c : Entity} {i : EdgeId} (is : List EdgeId)
    (h : (w.edge i).isHashable = true) :
    positionOf w c (i :: is) = if (w.edge i).alike c = true then .ok (some 0)
      else (positionOf w c is).map (·.map (· + 1)) := by
  rw [positionOf, Entity.hashed_of_isHashable h]
  by_cases hc : (w.edge i).alike c = true
  · simp only [bind, Except.bind, hc, if_true]
    rfl
  · simp only [bind, Except.bind, hc]
    cases positionOf w c is <;> rfl

theorem positionOf_ok {c : Entity} {is : List EdgeId} {o : Option Nat}
    (h : positionOf w c is = .ok o) : o = is.findIdx? fun i => (w.edge i).alike c := by
  induction is generalizing o with
  | nil => exact (Except.ok.inj h).symm
  | cons i is ih =>
    rw [List.findIdx?_cons]
    cases hd : (w.edge i).hashed with
    | error f =>
      rw [positionOf_cons_unhashable is hd] at h
      exact nomatch h
    | ok d =>
      rw [positionOf_cons is (Entity.hashed_eq_ok_iff.mp hd).1] at h
      by_cases hc : (w.edge i).alike c = true
      · rw [if_pos hc] at h ⊢
        exact (Except.ok.inj h).symm
      · rw [if_neg hc] at h ⊢
        cases hp : positionOf w c is with
        | error f =>
          rw [hp] at h
          exact nomatch h
        | ok p =>
          rw [hp] at h
          rw [← ih hp]
          exact (Except.ok.inj h).symm

theorem positionOf_error {c : Entity} {is : List EdgeId} {f : Fault}
    (h : positionOf w c is = .error f) : ∃ i ∈ is, (w.edge i).hashed = .error f := by
  induction is with
  | nil => exact nomatch h
  | cons i is ih =>
    cases hd : (w.edge i).hashed with
    | error f' =>
      rw [positionOf_cons_unhashable is hd] at h
      obtain rfl := Except.error.inj h
      exact ⟨i, List.mem_cons_self, hd⟩
    | ok d =>
      rw [positionOf_cons is (Entity.hashed_eq_ok_iff.mp hd).1] at h
      by_cases hc : (w.edge i).alike c = true
      · rw [if_pos hc] at h
        exact nomatch h
      · rw [if_neg hc] at h
        cases hp : positionOf w c is with
        | error f' =>
          rw [hp] at h
          obtain rfl := Except.error.inj h
          obtain ⟨j, hj, hf⟩ := ih hp
          exact ⟨j, List.mem_cons_of_mem i hj, hf⟩
        | ok p =>
          rw [hp] at h
          exact nomatch h

theorem positionOf_eq_none {c : Entity} {is : List EdgeId} (h : positionOf w c is = .ok none) :
    ∀ j ∈ is, (w.edge j).isHashable = true ∧ ¬(w.edge j).alike c = true := by
  induction is with
  | nil => exact fun j hj => absurd hj List.not_mem_nil
  | cons i is ih =>
    cases hd : (w.edge i).hashed with
    | error f =>
      rw [positionOf_cons_unhashable is hd] at h
      cases h
    | ok d =>
      have hh := (Entity.hashed_eq_ok_iff.mp hd).1
      rw [positionOf_cons is hh] at h
      by_cases hc : (w.edge i).alike c = true
      · rw [if_pos hc] at h
        cases h
      · rw [if_neg hc] at h
        rw [List.forall_mem_cons]
        refine ⟨⟨hh, hc⟩, ih ?_⟩
        rcases hp : positionOf w c is with f | _ | p
        · rw [hp] at h
          cases h
        · rfl
        · rw [hp] at h
          cases h

theorem outcome_edgePosition {r : Nat} {row : Row} (hr : g.row? r = some row) (s : Nat)
    (i : EdgeId) : outcome (edgePosition w r s i) g =
      (match (w.edge i).hashed with
        | .error f => .error f
        | .ok c => positionOf w c (g.edgesBetween r s), g) := by
  unfold edgePosition
  rw [outcome_bind, outcome_hashed]
  cases (w.edge i).hashed with
  | error f => rfl
  | ok c =>
    dsimp only
    rw [outcome_bind_ok (outcome_rowAt hr), edgesBetween_eq hr]
    rfl

theorem edgePosition_cases {r s : Nat} {row : Row} {i : EdgeId} {x : Except Fault (Option Nat)}
    (hr : g.row? r = some row) (h : outcome (edgePosition w r s i) g = (x, g')) :
    g' = g ∧ ((∃ f, x = .error f ∧ Unhashable w f) ∨
      x = .ok ((g.edgesBetween r s).findIdx? fun j => (w.edge j).alike (w.edge i))) := by
  rw [outcome_edgePosition hr] at h
  obtain ⟨hx, rfl⟩ := Prod.mk.inj h
  refine ⟨rfl, ?_⟩
  cases hc : (w.edge i).hashed with
  | error f =>
    rw [hc] at hx
    exact Or.inl ⟨f, hx.symm, Or.inr ⟨i, hc⟩⟩
  | ok c =>
    obtain ⟨-, rfl⟩ := Entity.hashed_eq_ok_iff.mp hc
    rw [hc] at hx
    cases hp : positionOf w (w.edge i) (g.edgesBetween r s) with
    | error f =>
      obtain ⟨j, -, hj⟩ := positionOf_error hp
      exact Or.inl ⟨f, by rw [← hx, ← hp], Or.inr ⟨j, hj⟩⟩
    | ok o =>
      refine Or.inr ?_
      rw [← hx, ← positionOf_ok hp]
      exact hp

theorem find_safe {n : NodeId} {x : Except Fault (Option Nat)} (hg : g.Sound)
    (h : outcome (find w n) g = (x, g')) :
    Safe w x g' ∧ g'.rows = g.rows ∧
      ∀ ⦃r⦄, x = .ok (some r) → ∃ row, g'.row? r = some row := by
  obtain ⟨hi, hfr, ⟨f, rfl, hu⟩ | ⟨r, row, rfl, hr, -⟩ | ⟨rfl, -⟩⟩ := find_cases hg.indexed h
  · exact ⟨Safe.error (hg.of_rows hi hfr) hu, hfr, fun _ he => (nomatch he)⟩
  · refine ⟨Safe.ok (hg.of_rows hi hfr) _, hfr, ?_⟩
    intro s hs
    obtain rfl := Option.some.inj (Except.ok.inj hs)
    exact ⟨row, (row?_of_rows hfr r).trans hr⟩
  · exact ⟨Safe.ok (hg.of_rows hi hfr) _, hfr, fun _ he => (nomatch Except.ok.inj he)⟩

theorem isHashable_of_missing {n : NodeId} (hi : g.Indexed)
    (h : outcome (find w n) g = (.ok none, g')) : (w.node n).isHashable = true := by
  cases hrow : g.rowOf? n with
  | none => exact isHashable_of_unstored hi hrow h
  | some r =>
    rw [outcome_find_stored hi hrow] at h
    obtain ⟨c, g₁, -, hk⟩ := exists_of_outcome_bind h
    exact nomatch Except.ok.inj (Prod.mk.inj hk).1

theorem addNode_safe {n : NodeId} {x : Except Fault Bool} (hg : g.Sound)
    (h : outcome (addNode w n) g = (x, g')) : Safe w x g' := by
  unfold addNode at h
  rcases outcome_bind_cases h with ⟨f, hf, rfl⟩ | ⟨o, g₁, ho, hk⟩
  · exact (find_safe hg hf).1.raise
  · obtain ⟨hi, hfr, ⟨f', he, hu⟩ | ⟨r, row, he, -⟩ | ⟨he, hn, -⟩⟩ := find_cases hg.indexed ho
    · exact nomatch he
    · obtain rfl := Except.ok.inj he
      obtain ⟨rfl, rfl⟩ := Prod.mk.inj hk
      exact Safe.ok (hg.of_rows hi hfr) _
    · obtain rfl := Except.ok.inj he
      have hg₁ := hg.of_rows hi hfr
      rw [← nodes_of_rows hfr] at hn
      obtain ⟨rfl, rfl⟩ := Prod.mk.inj
        ((outcome_bind_ok (insertRow_ok (isHashable_of_missing hg.indexed ho))).symm.trans hk)
      exact Safe.ok (hg₁.inserted hn _) _

theorem removeNode_safe {n : NodeId} {x : Except Fault Bool} (hg : g.Sound)
    (h : outcome (removeNode w n) g = (x, g')) : Safe w x g' := by
  unfold removeNode at h
  rcases outcome_bind_cases h with ⟨f, hf, rfl⟩ | ⟨o, g₁, ho, hk⟩
  · exact (find_safe hg hf).1.raise
  obtain ⟨hs, -, hlive⟩ := find_safe hg ho
  cases o with
  | none =>
    obtain ⟨rfl, rfl⟩ := Prod.mk.inj hk
    exact Safe.ok hs.sound _
  | some r =>
    obtain ⟨row, hr⟩ := hlive rfl
    obtain ⟨rfl, rfl⟩ := Prod.mk.inj
      ((outcome_bind_ok (outcome_removeRow hs.sound.indexed hr)).symm.trans hk)
    exact Safe.ok (hs.sound.dropRow hr) _

theorem isHashable_of_missing_part {p : Option NodeId} {n : NodeId} (hi : g.Indexed)
    (hp : p = some n) (h : outcome (findPart w p) g = (.ok none, g')) :
    (w.node n).isHashable = true := by
  subst hp
  exact isHashable_of_missing hi h

theorem findPart_cases {p : Option NodeId} {x : Except Fault (Option Nat)} (hg : g.Sound)
    (h : outcome (findPart w p) g = (x, g')) :
    Safe w x g' ∧ g'.rows = g.rows ∧
      (∀ ⦃r⦄, x = .ok (some r) → ∃ row, g'.row? r = some row) ∧
      ∀ ⦃n⦄, p = some n → x = .ok none → n ∉ g'.nodes ∧ g'.indexed? (w.node n) = none := by
  cases p with
  | none =>
    obtain ⟨rfl, rfl⟩ := Prod.mk.inj h
    exact ⟨Safe.ok hg _, rfl, fun _ hr => (nomatch Except.ok.inj hr), fun _ hn => (nomatch hn)⟩
  | some n =>
    obtain ⟨hs, hfr, hlive⟩ := find_safe hg h
    refine ⟨hs, hfr, hlive, ?_⟩
    intro m hm hx
    obtain rfl := Option.some.inj hm
    obtain ⟨-, -, ⟨f, he, -⟩ | ⟨r, row, he, -⟩ | ⟨-, hn, hd⟩⟩ := find_cases hg.indexed h
    · exact nomatch he.symm.trans hx
    · exact nomatch Except.ok.inj (he.symm.trans hx)
    · rw [nodes_of_rows hfr]
      exact ⟨hn, hd⟩

theorem joined_cases {a b : Option Nat} {i : Option EdgeId} {x : Except Fault Bool}
    (ha : ∀ ⦃r⦄, a = some r → ∃ row, g.row? r = some row)
    (h : outcome (joined w a b i) g = (x, g')) :
    g' = g ∧ (∀ ⦃f⦄, x = .error f → Unhashable w f) ∧
      ∀ ⦃r s j⦄, a = some r → b = some s → i = some j → x = .ok false →
        ∀ k ∈ g.edgesBetween r s, ¬(w.edge k).alike (w.edge j) = true := by
  unfold joined at h
  split at h
  · next r s j =>
    obtain ⟨row, hrow⟩ := ha rfl
    rcases outcome_bind_cases h with ⟨f, hf, rfl⟩ | ⟨o, g₁, ho, hk⟩
    · obtain ⟨rfl, ⟨f', he, hu⟩ | he⟩ := edgePosition_cases hrow hf
      · obtain rfl := Except.error.inj he
        exact ⟨rfl, fun _ hx => Except.error.inj hx ▸ hu, fun _ _ _ _ _ _ hx => (nomatch hx)⟩
      · exact nomatch he
    · obtain ⟨rfl, ⟨f', he, hu⟩ | he⟩ := edgePosition_cases hrow ho
      · exact nomatch he
      · obtain rfl := Except.ok.inj he
        obtain ⟨rfl, rfl⟩ := Prod.mk.inj hk
        refine ⟨rfl, fun _ hx => (nomatch hx), ?_⟩
        intro r' s' j' hr hs hj hx k hkm hal
        obtain rfl := Option.some.inj hr
        obtain rfl := Option.some.inj hs
        obtain rfl := Option.some.inj hj
        have hn := Option.not_isSome_iff_eq_none.mp (Bool.not_eq_true _ ▸ Except.ok.inj hx)
        rw [List.findIdx?_eq_none_iff] at hn
        exact absurd hal (by rw [hn k hkm]; exact Bool.false_ne_true)
  · next hnone =>
    obtain ⟨rfl, rfl⟩ := Prod.mk.inj h
    refine ⟨rfl, fun _ hx => (nomatch hx), ?_⟩
    intro r s j hr hs hj _
    exact absurd hj (hnone r s j hr hs)

/-- A graph that has lost no row and gained no edge. -/
structure Grows (g g' : Graph) : Prop where
  rows : ∀ ⦃r row⦄, g.row? r = some row → ∃ row', g'.row? r = some row'
  edges : ∀ r s, g'.edgesBetween r s = g.edgesBetween r s

theorem Grows.refl (g : Graph) : Grows g g := ⟨fun _ row hr => ⟨row, hr⟩, fun _ _ => rfl⟩

theorem Grows.trans {g₁ g₂ g₃ : Graph} (h : Grows g₁ g₂) (k : Grows g₂ g₃) : Grows g₁ g₃ where
  rows _ _ hr := by
    obtain ⟨row', hr'⟩ := h.rows hr
    exact k.rows hr'
  edges r s := (k.edges r s).trans (h.edges r s)

theorem Grows.of_rows (h : g'.rows = g.rows) : Grows g g' where
  rows r row hr := ⟨row, (row?_of_rows h r).trans hr⟩
  edges := edgesBetween_of_rows h

theorem Grows.inserted (g : Graph) (n : NodeId) (c : Entity) : Grows g (g.inserted n c) where
  rows _ row hr := ⟨row, row?_inserted_of_row? hr⟩
  edges := edgesBetween_inserted g n c

theorem Grows.eq_none {r : Nat} (h : Grows g g') (hr : g'.row? r = none) : g.row? r = none := by
  cases hg : g.row? r with
  | none => rfl
  | some row =>
    obtain ⟨row', hr'⟩ := h.rows hg
    rw [hr] at hr'
    exact nomatch hr'

theorem ensureMain_cases {o : Option Nat} {p : Option NodeId} {x : Except Fault (Option Nat)}
    (hg : g.Sound)
    (hn : ∀ ⦃n⦄, p = some n → o = none → (w.node n).isHashable = true ∧ n ∉ g.nodes)
    (h : outcome (ensureMain w o p) g = (x, g')) :
    Safe w x g' ∧ ∀ ⦃o'⦄, x = .ok o' → (g' = g ∧ o' = o) ∨
      ∃ n, o = none ∧ p = some n ∧ o' = some g.rows.length ∧ g' = g.inserted n (w.node n) := by
  unfold ensureMain at h
  split at h
  · next n =>
    obtain ⟨hh, hout⟩ := hn rfl rfl
    obtain ⟨rfl, rfl⟩ := Prod.mk.inj ((outcome_bind_ok (insertRow_ok hh)).symm.trans h)
    exact ⟨Safe.ok (hg.inserted hout _) _,
      fun _ he => Or.inr ⟨n, rfl, rfl, (Except.ok.inj he).symm, rfl⟩⟩
  · obtain ⟨rfl, rfl⟩ := Prod.mk.inj h
    exact ⟨Safe.ok hg _, fun _ he => Or.inl ⟨rfl, (Except.ok.inj he).symm⟩⟩

theorem ensureSubject_cases {o : Option Nat} {p : Option NodeId} {x : Except Fault (Option Nat)}
    (hg : g.Sound) (h : outcome (ensureSubject w o p) g = (x, g')) :
    Safe w x g' ∧ ∀ ⦃o'⦄, x = .ok o' → (g' = g ∧ o' = o) ∨
      ∃ n g₁, o = none ∧ p = some n ∧ g₁.Sound ∧ g₁.rows = g.rows ∧
        ((g' = g₁ ∧ ∃ r row, o' = some r ∧ g.row? r = some row ∧
            (row.node = n ∨ g.indexed? (w.node n) = some r)) ∨
          (n ∉ g₁.nodes ∧ o' = some g₁.rows.length ∧ g' = g₁.inserted n (w.node n))) := by
  unfold ensureSubject at h
  split at h
  · next n =>
    rcases outcome_bind_cases h with ⟨f, hf, rfl⟩ | ⟨o, g₁, ho, hk⟩
    · exact ⟨(find_safe hg hf).1.raise, fun _ hx => (nomatch hx)⟩
    · obtain ⟨hi, hfr, hcase⟩ := find_cases hg.indexed ho
      have hg₁ := hg.of_rows hi hfr
      rcases hcase with ⟨f', he, hu⟩ | ⟨r, row, he, hr, hrow⟩ | ⟨he, hn, -⟩
      · exact nomatch he
      · obtain rfl := Except.ok.inj he
        obtain ⟨rfl, rfl⟩ := Prod.mk.inj hk
        refine ⟨Safe.ok hg₁ _, ?_⟩
        intro o' ho'
        obtain rfl := Except.ok.inj ho'
        exact Or.inr ⟨n, g₁, rfl, rfl, hg₁, hfr, Or.inl ⟨rfl, r, row, rfl, hr,
          hrow.imp_right fun hd => hd.2.1⟩⟩
      · obtain rfl := Except.ok.inj he
        rw [← nodes_of_rows hfr] at hn
        obtain ⟨rfl, rfl⟩ := Prod.mk.inj
          ((outcome_bind_ok (insertRow_ok (isHashable_of_missing hg.indexed ho))).symm.trans hk)
        refine ⟨Safe.ok (hg₁.inserted hn _) _, ?_⟩
        intro o' ho'
        obtain rfl := Except.ok.inj ho'
        exact Or.inr ⟨n, g₁, rfl, rfl, hg₁, hfr, Or.inr ⟨hn, rfl, rfl⟩⟩
  · obtain ⟨rfl, rfl⟩ := Prod.mk.inj h
    exact ⟨Safe.ok hg _, fun _ he => Or.inl ⟨rfl, (Except.ok.inj he).symm⟩⟩

/-- A node that was not found before another was inserted is, if it is found now, the one in the
new row. -/
theorem eq_length_of_found {m n : NodeId} {r : Nat} {row : Row} (hn : n ∉ g.nodes)
    (hd : g.indexed? (w.node n) = none) (hr : (g.inserted m (w.node m)).row? r = some row)
    (h : row.node = n ∨ (g.inserted m (w.node m)).indexed? (w.node n) = some r) :
    r = g.rows.length := by
  rcases h with rfl | h
  · rcases row?_inserted_cases hr with ⟨he, -⟩ | hr
    · exact he
    · exact absurd (mem_nodes.mpr ⟨r, row, hr, rfl⟩) hn
  · rw [indexed?_inserted] at h
    by_cases ha : (w.node m).alike (w.node n) = true
    · rw [if_pos ha] at h
      exact (Option.some.inj h).symm
    · rw [if_neg ha] at h
      exact nomatch hd.symm.trans h

/-- The row that a part of a triplet is in at last, and how it came there: it had been found, or
the row was not there in the graph that the part was looked up in. -/
structure Ensured (base g g' : Graph) (o o' : Option Nat) : Prop where
  grows : Grows g g'
  live : ∀ ⦃r⦄, o' = some r → ∃ row, g'.row? r = some row
  origin : ∀ ⦃r⦄, o' = some r → o = some r ∨ base.row? r = none

theorem ensured_main {o o' : Option Nat} {p : Option NodeId}
    (hlive : ∀ ⦃r⦄, o = some r → ∃ row, g.row? r = some row)
    (h : (g' = g ∧ o' = o) ∨
      ∃ n, o = none ∧ p = some n ∧ o' = some g.rows.length ∧ g' = g.inserted n (w.node n)) :
    Ensured g g g' o o' := by
  rcases h with ⟨rfl, rfl⟩ | ⟨n, rfl, -, rfl, rfl⟩
  · exact ⟨Grows.refl _, hlive, fun _ hr => Or.inl hr⟩
  · refine ⟨Grows.inserted g n _, ?_, ?_⟩
    · intro r hr
      obtain rfl := Option.some.inj hr
      exact ⟨_, row?_inserted_self _ _ _⟩
    · intro r hr
      obtain rfl := Option.some.inj hr
      exact Or.inr (row?_length g)

theorem ensured_subject {base : Graph} {o o' : Option Nat} {p : Option NodeId}
    (hbase : g = base ∨ ∃ m, g = base.inserted m (w.node m))
    (hlive : ∀ ⦃r⦄, o = some r → ∃ row, g.row? r = some row)
    (hout : ∀ ⦃n⦄, p = some n → o = none → n ∉ base.nodes ∧ base.indexed? (w.node n) = none)
    (h : (g' = g ∧ o' = o) ∨
      ∃ n g₁, o = none ∧ p = some n ∧ g₁.Sound ∧ g₁.rows = g.rows ∧
        ((g' = g₁ ∧ ∃ r row, o' = some r ∧ g.row? r = some row ∧
            (row.node = n ∨ g.indexed? (w.node n) = some r)) ∨
          (n ∉ g₁.nodes ∧ o' = some g₁.rows.length ∧ g' = g₁.inserted n (w.node n)))) :
    Ensured base g g' o o' := by
  have hgrows : Grows base g := by
    rcases hbase with rfl | ⟨m, rfl⟩
    · exact Grows.refl _
    · exact Grows.inserted base m _
  rcases h with ⟨rfl, rfl⟩ | ⟨n, g₁, rfl, hp, -, hfr, h⟩
  · exact ⟨Grows.refl _, hlive, fun _ hr => Or.inl hr⟩
  obtain ⟨hn, hd⟩ := hout hp rfl
  rcases h with ⟨rfl, r, row, rfl, hr, hrow⟩ | ⟨-, rfl, rfl⟩
  · refine ⟨Grows.of_rows hfr, ?_, ?_⟩
    · intro s hs
      obtain rfl := Option.some.inj hs
      exact ⟨row, (row?_of_rows hfr r).trans hr⟩
    · intro s hs
      obtain rfl := Option.some.inj hs
      refine Or.inr ?_
      rcases hbase with rfl | ⟨m, rfl⟩
      · rcases hrow with rfl | hrow
        · exact absurd (mem_nodes.mpr ⟨r, row, hr, rfl⟩) hn
        · exact nomatch hd.symm.trans hrow
      · rw [eq_length_of_found hn hd hr hrow]
        exact row?_length base
  · have hgrows' := (Grows.of_rows hfr).trans (Grows.inserted g₁ n (w.node n))
    refine ⟨hgrows', ?_, ?_⟩
    · intro s hs
      obtain rfl := Option.some.inj hs
      exact ⟨_, row?_inserted_self _ _ _⟩
    · intro s hs
      obtain rfl := Option.some.inj hs
      exact Or.inr ((hgrows.trans (Grows.of_rows hfr)).eq_none (row?_length g₁))

theorem join_safe {a b : Option Nat} {e : Option EdgeId} {x : Except Fault Bool} (hg : g.Sound)
    (ha : ∀ ⦃r⦄, a = some r → ∃ row, g.row? r = some row)
    (hb : ∀ ⦃s⦄, b = some s → ∃ row, g.row? s = some row)
    (hi : ∀ ⦃r s i⦄, a = some r → b = some s → e = some i → i ∉ g.edgesBetween r s)
    (h : outcome (join a b e) g = (x, g')) : g'.Sound ∧ ∃ j, x = .ok j := by
  unfold join at h
  split at h
  · next r s i =>
    obtain ⟨row, hr⟩ := ha rfl
    obtain ⟨row', hs⟩ := hb rfl
    obtain ⟨rfl, rfl⟩ := Prod.mk.inj ((outcome_join hr s i).symm.trans h)
    exact ⟨hg.appended hr hs (hi rfl rfl rfl), true, rfl⟩
  · obtain ⟨rfl, rfl⟩ := Prod.mk.inj h
    exact ⟨hg, false, rfl⟩

def placeTriplet (w : Contents) (t : PartialTriplet) (main subject : Option Nat) : Action Bool := do
  let main' ← ensureMain w main t.main
  let subject' ← ensureSubject w subject t.subject
  let isJoined ← join main' subject' t.edge
  return (main.isNone && t.main.isSome) || (subject.isNone && t.subject.isSome) || isJoined

/-- What holds when the parts of a triplet have been looked up and no edge like its own joins them:
the parts that were found have rows, and the others can be inserted. -/
structure LookedUp (w : Contents) (g : Graph) (t : PartialTriplet) (main subject : Option Nat) :
    Prop where
  sound : g.Sound
  mainRow : ∀ ⦃r⦄, main = some r → ∃ row, g.row? r = some row
  subjectRow : ∀ ⦃s⦄, subject = some s → ∃ row, g.row? s = some row
  mainMissing : ∀ ⦃n⦄, t.main = some n → main = none → (w.node n).isHashable = true ∧ n ∉ g.nodes
  subjectMissing : ∀ ⦃n⦄, t.subject = some n → subject = none →
    (w.node n).isHashable = true ∧ n ∉ g.nodes ∧ g.indexed? (w.node n) = none
  unjoined : ∀ ⦃r s i⦄, main = some r → subject = some s → t.edge = some i →
    ∀ j ∈ g.edgesBetween r s, ¬(w.edge j).alike (w.edge i) = true

/-- Either a triplet is done with when it has been looked up, and nothing is written but the index,
or it is placed. -/
theorem addTriplet_cases {t : PartialTriplet} {x : Except Fault Bool} (hg : g.Sound)
    (h : outcome (addTriplet w t) g = (x, g')) :
    (Safe w x g' ∧ g'.rows = g.rows) ∨ ∃ main subject g₂,
      LookedUp w g₂ t main subject ∧ outcome (placeTriplet w t main subject) g₂ = (x, g') := by
  unfold addTriplet at h
  rcases outcome_bind_cases h with ⟨f, hf, rfl⟩ | ⟨main, g₁, hmain, h⟩
  · obtain ⟨hs, hfr, -⟩ := findPart_cases hg hf
    exact Or.inl ⟨hs.raise, hfr⟩
  obtain ⟨hs₁, hfr₁, hlive₁, hout₁⟩ := findPart_cases hg hmain
  rcases outcome_bind_cases h with ⟨f, hf, rfl⟩ | ⟨subject, g₂', hsubject, h⟩
  · obtain ⟨hs, hfr, -⟩ := findPart_cases hs₁.sound hf
    exact Or.inl ⟨hs.raise, hfr.trans hfr₁⟩
  obtain ⟨hs₂, hfr₂, hlive₂, hout₂⟩ := findPart_cases hs₁.sound hsubject
  have hmainRow : ∀ ⦃r⦄, main = some r → ∃ row, g₂'.row? r = some row := by
    intro r hr
    obtain ⟨row, hrow⟩ := hlive₁ (congrArg _ hr)
    exact (Grows.of_rows hfr₂).rows hrow
  rcases outcome_bind_cases h with ⟨f, hf, rfl⟩ | ⟨j, g₂, hj, h⟩
  · obtain ⟨rfl, hu, -⟩ := joined_cases hmainRow hf
    exact Or.inl ⟨Safe.error hs₂.sound (hu rfl), hfr₂.trans hfr₁⟩
  obtain ⟨rfl, -, hunjoined⟩ := joined_cases hmainRow hj
  cases j with
  | true =>
    obtain ⟨rfl, rfl⟩ := Prod.mk.inj h
    exact Or.inl ⟨Safe.ok hs₂.sound _, hfr₂.trans hfr₁⟩
  | false =>
    refine Or.inr ⟨main, subject, g₂, ⟨hs₂.sound, hmainRow, ?_, ?_, ?_, ?_⟩, h⟩
    · intro s hs
      exact hlive₂ (congrArg _ hs)
    · rintro n hn rfl
      rw [nodes_of_rows hfr₂]
      exact ⟨isHashable_of_missing_part hg.indexed hn hmain, (hout₁ hn rfl).1⟩
    · rintro n hn rfl
      exact ⟨isHashable_of_missing_part hs₁.sound.indexed hn hsubject, hout₂ hn rfl⟩
    · intro r s i hr hs hi
      exact hunjoined hr hs hi rfl

/-- Placing the parts joins none of them: an edge between their rows was there when they were looked
up, so both were found. -/
theorem LookedUp.unjoined_of_ensured {t : PartialTriplet} {main subject main' subject' : Option Nat}
    {g₃ g₄ : Graph} (hl : LookedUp w g t main subject) (hm : Ensured g g g₃ main main')
    (hs : Ensured g g₃ g₄ subject subject') ⦃r s : Nat⦄ ⦃i : EdgeId⦄ (hr : main' = some r)
    (hs' : subject' = some s) (hi : t.edge = some i) : i ∉ g₄.edgesBetween r s := by
  intro hmem
  rw [(hm.grows.trans hs.grows).edges] at hmem
  rcases hm.origin hr with hr | hr
  · rcases hs.origin hs' with hs' | hs'
    · exact hl.unjoined hr hs' hi i hmem (Entity.alike_refl _)
    · rw [hl.sound.linked.edgesBetween_eq_nil hs'] at hmem
      exact List.not_mem_nil hmem
  · rw [Graph.edgesBetween_eq_nil hr] at hmem
    exact List.not_mem_nil hmem

structure BothEnsured (g : Graph) (t : PartialTriplet) (main subject : Option Nat) : Prop where
  sound : g.Sound
  mainRow : ∀ ⦃r⦄, main = some r → ∃ row, g.row? r = some row
  subjectRow : ∀ ⦃s⦄, subject = some s → ∃ row, g.row? s = some row
  unjoined : ∀ ⦃r s i⦄, main = some r → subject = some s → t.edge = some i →
    i ∉ g.edgesBetween r s

theorem LookedUp.ensured {t : PartialTriplet} {main subject main' subject' : Option Nat}
    {g₃ g₄ : Graph} (hl : LookedUp w g t main subject)
    (hmain : outcome (ensureMain w main t.main) g = (.ok main', g₃))
    (hsubject : outcome (ensureSubject w subject t.subject) g₃ = (.ok subject', g₄)) :
    BothEnsured g₄ t main' subject' := by
  obtain ⟨hs₃, hx₃⟩ := ensureMain_cases hl.sound hl.mainMissing hmain
  obtain ⟨hs₄, hx₄⟩ := ensureSubject_cases hs₃.sound hsubject
  have hm := ensured_main hl.mainRow (hx₃ rfl)
  have hbase : g₃ = g ∨ ∃ m, g₃ = g.inserted m (w.node m) :=
    (hx₃ rfl).imp And.left fun ⟨n, _, _, _, hg₃⟩ => ⟨n, hg₃⟩
  have hs : Ensured g g₃ g₄ subject subject' := by
    refine ensured_subject hbase ?_ (fun n hn he => (hl.subjectMissing hn he).2) (hx₄ rfl)
    intro r hr
    obtain ⟨row, hrow⟩ := hl.subjectRow hr
    exact hm.grows.rows hrow
  refine ⟨hs₄.sound, ?_, hs.live, hl.unjoined_of_ensured hm hs⟩
  intro r hr
  obtain ⟨row, hrow⟩ := hm.live hr
  exact hs.grows.rows hrow

theorem LookedUp.placeTriplet_safe {t : PartialTriplet} {main subject : Option Nat}
    {x : Except Fault Bool} (hl : LookedUp w g t main subject)
    (h : outcome (placeTriplet w t main subject) g = (x, g')) : Safe w x g' := by
  unfold placeTriplet at h
  rcases outcome_bind_cases h with ⟨f, hf, rfl⟩ | ⟨main', g₃, hmain, h⟩
  · obtain ⟨hs, -⟩ := ensureMain_cases hl.sound hl.mainMissing hf
    exact hs.raise
  obtain ⟨hs₃, -⟩ := ensureMain_cases hl.sound hl.mainMissing hmain
  rcases outcome_bind_cases h with ⟨f, hf, rfl⟩ | ⟨subject', g₄, hsubject, h⟩
  · obtain ⟨hs, -⟩ := ensureSubject_cases hs₃.sound hf
    exact hs.raise
  have he := hl.ensured hmain hsubject
  rcases outcome_bind_cases h with ⟨f, hf, rfl⟩ | ⟨j, g₅, hj, h⟩
  · obtain ⟨-, b, hb⟩ := join_safe he.sound he.mainRow he.subjectRow he.unjoined hf
    exact nomatch hb
  · obtain ⟨hs₅, -⟩ := join_safe he.sound he.mainRow he.subjectRow he.unjoined hj
    obtain ⟨rfl, rfl⟩ := Prod.mk.inj h
    exact Safe.ok hs₅ _

theorem addTriplet_safe {t : PartialTriplet} {x : Except Fault Bool} (hg : g.Sound)
    (h : outcome (addTriplet w t) g = (x, g')) : Safe w x g' := by
  rcases addTriplet_cases hg h with ⟨hs, -⟩ | ⟨main, subject, g₂, hl, h⟩
  · exact hs
  · exact hl.placeTriplet_safe h

theorem removeEdge_safe {t : PartialTriplet} {x : Except Fault Bool} (hg : g.Sound)
    (h : outcome (removeEdge w t) g = (x, g')) : Safe w x g' := by
  have hpure (hs : g.Sound) (h : outcome (pure false) g = (x, g')) : Safe w x g' := by
    obtain ⟨rfl, rfl⟩ := Prod.mk.inj h
    exact Safe.ok hs _
  rcases t with ⟨_ | main, _ | subject, _ | i⟩
  case some.some.some =>
    rcases outcome_bind_cases h with ⟨f, hf, rfl⟩ | ⟨m, g₁, hm, h⟩
    · exact (find_safe hg hf).1.raise
    obtain ⟨hs₁, -, hlive⟩ := find_safe hg hm
    rcases outcome_bind_cases h with ⟨f, hf, rfl⟩ | ⟨s, g₂, hs, h⟩
    · exact (find_safe hs₁.sound hf).1.raise
    obtain ⟨hs₂, hfr₂, -⟩ := find_safe hs₁.sound hs
    rcases m with _ | r
    · obtain ⟨rfl, rfl⟩ := Prod.mk.inj h
      exact Safe.ok hs₂.sound _
    rcases s with _ | s
    · obtain ⟨rfl, rfl⟩ := Prod.mk.inj h
      exact Safe.ok hs₂.sound _
    obtain ⟨row, hr⟩ := hlive rfl
    rw [← row?_of_rows hfr₂] at hr
    rcases outcome_bind_cases h with ⟨f, hf, rfl⟩ | ⟨o, g₃, ho, h⟩
    · obtain ⟨rfl, ⟨f', he, hu⟩ | he⟩ := edgePosition_cases hr hf
      · obtain rfl := Except.error.inj he
        exact Safe.error hs₂.sound hu
      · exact nomatch he
    obtain ⟨rfl, ⟨f', he, -⟩ | ho⟩ := edgePosition_cases hr ho
    · exact nomatch he
    rcases o with _ | position
    · obtain ⟨rfl, rfl⟩ := Prod.mk.inj h
      exact Safe.ok hs₂.sound _
    · obtain ⟨hp, -⟩ := List.findIdx?_eq_some_iff_getElem.mp (Except.ok.inj ho).symm
      obtain ⟨rfl, rfl⟩ := Prod.mk.inj
        ((outcome_bind_ok (outcome_removeEdgeAt hr hp)).symm.trans h)
      exact Safe.ok (hs₂.sound.dropped hr s position) _
  all_goals exact hpure hg h

inductive Change where
  | addNode (n : NodeId)
  | removeNode (n : NodeId)
  | addTriplet (t : PartialTriplet)
  | removeEdge (t : PartialTriplet)

def Change.perform (w : Contents) : Change → Action Bool
  | .addNode n => Graph.addNode w n
  | .removeNode n => Graph.removeNode w n
  | .addTriplet t => Graph.addTriplet w t
  | .removeEdge t => Graph.removeEdge w t

theorem perform_safe {c : Change} {x : Except Fault Bool} (hg : g.Sound)
    (h : outcome (c.perform w) g = (x, g')) : Safe w x g' := by
  cases c with
  | addNode n => exact addNode_safe hg h
  | removeNode n => exact removeNode_safe hg h
  | addTriplet t => exact addTriplet_safe hg h
  | removeEdge t => exact removeEdge_safe hg h

/-- What nodes and edges hold at present, and a graph of them. -/
structure World where
  contents : Contents
  graph : Graph

/-- Every query looks up one node at most. -/
inductive Event where
  | change (c : Change)
  | lookup (n : NodeId)
  | editNode (n : NodeId) (e : Entity)
  | editEdge (i : EdgeId) (e : Entity)

/-- An operation that fails leaves behind what it has done so far. -/
def World.next (s : World) : Event → World
  | .change c => ⟨s.contents, (outcome (c.perform s.contents) s.graph).2⟩
  | .lookup n => ⟨s.contents, (outcome (find s.contents n) s.graph).2⟩
  | .editNode n e => ⟨s.contents.setNode n e, s.graph⟩
  | .editEdge i e => ⟨s.contents.setEdge i e, s.graph⟩

inductive Reachable : World → Prop where
  | init (w : Contents) : Reachable ⟨w, empty⟩
  | step {s : World} (e : Event) : Reachable s → Reachable (s.next e)

theorem step_sound {s : World} (h : s.graph.Sound) (e : Event) : (s.next e).graph.Sound := by
  cases e with
  | change c => exact (perform_safe h rfl).sound
  | lookup n => exact (find_safe h rfl).1.sound
  | editNode n e => exact h
  | editEdge i e => exact h

theorem reachable_sound {s : World} (h : Reachable s) : s.graph.Sound := by
  induction h with
  | init w => exact sound_empty
  | step e _ ih => exact step_sound ih e

end GraphTemplate.Graph

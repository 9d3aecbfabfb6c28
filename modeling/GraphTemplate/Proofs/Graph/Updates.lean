import GraphTemplate.Proofs.Graph.Index

/-! Sound graphs and the changes to them: a row more, a row less, an edge more or less under a row.
In a sound graph a node has one row, edges end in rows that are there, no edge joins two rows twice,
and the index points to rows that were last seen with the content it has them under. -/
namespace GraphTemplate.Graph

variable {w : Contents} {g g' : Graph}

structure Linked (g : Graph) : Prop where
  distinct : ∀ ⦃r s row row'⦄, g.row? r = some row → g.row? s = some row' →
    row.node = row'.node → r = s
  keyed : g.Keyed
  landing : ∀ ⦃r s i⦄, i ∈ g.edgesBetween r s → ∃ row, g.row? s = some row
  parallel : ∀ r s, (g.edgesBetween r s).Nodup

structure Sound (g : Graph) : Prop where
  linked : g.Linked
  indexed : g.Indexed

theorem sound_empty : Sound empty where
  linked :=
    { distinct := fun _ _ _ _ h => nomatch h
      keyed := fun _ _ h => nomatch h
      landing := fun _ _ _ h => nomatch h
      parallel := fun _ _ => List.nodup_nil }
  indexed := indexed_empty

theorem Linked.of_rows (hl : g.Linked) (h : g'.rows = g.rows) : g'.Linked := by
  obtain ⟨rows, _, _, _⟩ := g
  obtain ⟨_, _, _, _⟩ := g'
  obtain rfl : _ = rows := h
  exact ⟨hl.distinct, hl.keyed, hl.landing, hl.parallel⟩

theorem Linked.edgesBetween_eq_nil (hl : g.Linked) {s : Nat} (hs : g.row? s = none) (r : Nat) :
    g.edgesBetween r s = [] := by
  rw [List.eq_nil_iff_forall_not_mem]
  intro i hi
  obtain ⟨row, hrow⟩ := hl.landing hi
  rw [hs] at hrow
  exact nomatch hrow

def inserted (g : Graph) (n : NodeId) (c : Entity) : Graph where
  rows := g.rows ++ [some ⟨n, []⟩]
  index := enter c g.rows.length g.index
  keys := Entries.put g.rows.length c g.keys
  owners := Entries.put n g.rows.length g.owners

theorem insertRow_ok {n : NodeId} (h : (w.node n).isHashable = true) :
    outcome (insertRow w n) g = (.ok g.rows.length, g.inserted n (w.node n)) := by
  have hhashed (k : Graph) : outcome (hashed (w.node n)) k = (.ok (w.node n), k) := by
    rw [outcome_hashed, Entity.hashed_of_isHashable h]
  unfold insertRow
  rw [outcome_bind_ok (outcome_get g), outcome_bind_ok (outcome_modify _ g),
    outcome_bind_ok (hhashed _), outcome_bind_ok (outcome_modify _ _), outcome_pure]
  rfl

theorem row?_length (g : Graph) : g.row? g.rows.length = none := by
  simp [row?]

theorem row?_inserted (g : Graph) (n : NodeId) (c : Entity) (r : Nat) :
    (g.inserted n c).row? r = if r = g.rows.length then some ⟨n, []⟩ else g.row? r := by
  unfold inserted row?
  by_cases hr : r = g.rows.length
  · subst hr
    simp
  · rw [if_neg hr, List.getElem?_append]
    by_cases hlt : r < g.rows.length
    · rw [if_pos hlt]
    · have hle : g.rows.length < r := by omega
      rw [if_neg hlt, List.getElem?_eq_none (by simp; omega), List.getElem?_eq_none (by omega)]

theorem row?_inserted_of_row? {n : NodeId} {c : Entity} {r : Nat} {row : Row}
    (h : g.row? r = some row) : (g.inserted n c).row? r = some row := by
  have hlt := row?_lt h
  rw [row?_inserted, if_neg (by omega)]
  exact h

theorem row?_inserted_self (g : Graph) (n : NodeId) (c : Entity) :
    (g.inserted n c).row? g.rows.length = some ⟨n, []⟩ := by
  rw [row?_inserted, if_pos rfl]

theorem row?_inserted_cases {n : NodeId} {c : Entity} {r : Nat} {row : Row}
    (h : (g.inserted n c).row? r = some row) :
    r = g.rows.length ∧ row = ⟨n, []⟩ ∨ g.row? r = some row := by
  rw [row?_inserted] at h
  split at h
  · next hr => exact Or.inl ⟨hr, (Option.some.inj h).symm⟩
  · exact Or.inr h

theorem indexed?_inserted (g : Graph) (n : NodeId) (c d : Entity) :
    (g.inserted n c).indexed? d =
      if c.alike d then some g.rows.length else g.indexed? d :=
  rowFor?_enter g.index c d g.rows.length

theorem key?_inserted (g : Graph) (n : NodeId) (c : Entity) (r : Nat) :
    (g.inserted n c).key? r = if r = g.rows.length then some c else g.key? r :=
  Entries.lookup_put g.rows.length r c g.keys

theorem key?_inserted_of_key? (hi : g.Indexed) {n : NodeId} {c k : Entity} {r : Nat}
    (h : g.key? r = some k) : (g.inserted n c).key? r = some k := by
  obtain ⟨row, hr⟩ := hi.exists_row h
  have hlt := row?_lt hr
  rw [key?_inserted, if_neg (by omega)]
  exact h

theorem indexed?_inserted_self (g : Graph) (n : NodeId) (c : Entity) :
    (g.inserted n c).indexed? c = some g.rows.length := by
  rw [indexed?_inserted, if_pos (Entity.alike_refl c)]

theorem edgesBetween_inserted (g : Graph) (n : NodeId) (c : Entity) (r s : Nat) :
    (g.inserted n c).edgesBetween r s = g.edgesBetween r s := by
  unfold edgesBetween
  rw [row?_inserted]
  by_cases hr : r = g.rows.length
  · rw [if_pos hr, hr, row?_length]
    rfl
  · rw [if_neg hr]

theorem Linked.inserted (hl : g.Linked) {n : NodeId} (hn : n ∉ g.nodes) (c : Entity) :
    (g.inserted n c).Linked where
  distinct := by
    have hfresh : ∀ ⦃r row⦄, g.row? r = some row → row.node ≠ n :=
      fun r row hr he => hn (mem_nodes.mpr ⟨r, row, hr, he⟩)
    intro r s row row' hr hs he
    rcases row?_inserted_cases hr with ⟨rfl, rfl⟩ | hr <;>
      rcases row?_inserted_cases hs with ⟨rfl, rfl⟩ | hs
    · rfl
    · exact absurd he.symm (hfresh hs)
    · exact absurd he (hfresh hr)
    · exact hl.distinct hr hs he
  keyed := by
    intro r row hr
    rcases row?_inserted_cases hr with ⟨-, rfl⟩ | hr
    · exact List.nodup_nil
    · exact hl.keyed hr
  landing := by
    intro r s i hi
    rw [edgesBetween_inserted] at hi
    obtain ⟨row, hs⟩ := hl.landing hi
    exact ⟨row, row?_inserted_of_row? hs⟩
  parallel := by
    intro r s
    rw [edgesBetween_inserted]
    exact hl.parallel r s

theorem owned_inserted (hi : g.Indexed) {n : NodeId} (hn : n ∉ g.nodes) (c : Entity) (m : NodeId)
    (r : Nat) : (g.inserted n c).owners.lookup m = some r ↔
      ∃ row, (g.inserted n c).row? r = some row ∧ row.node = m := by
  have hlookup : (g.inserted n c).owners.lookup m =
      if m = n then some g.rows.length else g.owners.lookup m :=
    Entries.lookup_put n m g.rows.length g.owners
  rw [hlookup]
  by_cases hm : m = n
  · subst hm
    rw [if_pos rfl]
    constructor
    · intro h
      obtain rfl := Option.some.inj h
      exact ⟨_, row?_inserted_self g m c, rfl⟩
    · rintro ⟨row, hr, he⟩
      rcases row?_inserted_cases hr with ⟨rfl, -⟩ | hr
      · rfl
      · exact absurd (mem_nodes.mpr ⟨r, row, hr, he⟩) hn
  · rw [if_neg hm, hi.owned]
    constructor
    · rintro ⟨row, hr, he⟩
      exact ⟨row, row?_inserted_of_row? hr, he⟩
    · rintro ⟨row, hr, he⟩
      rcases row?_inserted_cases hr with ⟨-, rfl⟩ | hr
      · exact absurd he.symm hm
      · exact ⟨row, hr, he⟩

theorem Indexed.inserted (hi : g.Indexed) {n : NodeId} (hn : n ∉ g.nodes) (c : Entity) :
    (g.inserted n c).Indexed where
  separate := (hi.separate.enter c g.rows.length).1
  pointing := by
    intro d s hs
    rw [indexed?_inserted] at hs
    by_cases hd : c.alike d = true
    · rw [if_pos hd] at hs
      obtain rfl := Option.some.inj hs
      exact ⟨c, (key?_inserted g n c _).trans (if_pos rfl), hd⟩
    · rw [if_neg hd] at hs
      obtain ⟨k, hk, hkd⟩ := hi.pointing hs
      exact ⟨k, key?_inserted_of_key? hi hk, hkd⟩
  once := Entries.nodup_put _ c hi.once
  recorded := by
    intro r
    rw [key?_inserted, row?_inserted]
    by_cases hr : r = g.rows.length
    · rw [if_pos hr, if_pos hr]
      rfl
    · rw [if_neg hr, if_neg hr, hi.recorded]
  owned := owned_inserted hi hn c

theorem Sound.inserted (h : g.Sound) {n : NodeId} (hn : n ∉ g.nodes) (c : Entity) :
    (g.inserted n c).Sound :=
  ⟨h.linked.inserted hn c, h.indexed.inserted hn c⟩

def dropRow (g : Graph) (r : Nat) : Graph where
  rows := (g.rows.map (·.map (withoutChild r))).set r none
  index := match g.key? r with
    | some c => g.leave c r
    | none => g.index
  keys := Entries.remove r g.keys
  owners := match g.row? r with
    | some row => Entries.remove row.node g.owners
    | none => g.owners

theorem row?_dropRow {r : Nat} {row : Row} (h : g.row? r = some row) (s : Nat) :
    (g.dropRow r).row? s = if s = r then none else (g.row? s).map (withoutChild r) := by
  have hlt := row?_lt h
  rw [row?, dropRow]
  by_cases hs : s = r
  · subst hs
    simp [hlt]
  · rw [if_neg hs, List.getElem?_set_ne (Ne.symm hs), List.getElem?_map, row?]
    rcases g.rows[s]? with _ | _ | row' <;> rfl

theorem key?_dropRow (g : Graph) (r s : Nat) :
    (g.dropRow r).key? s = if s = r then none else g.key? s :=
  Entries.lookup_remove r s g.keys

theorem outcome_removeRow (hi : g.Indexed) {r : Nat} {row : Row} (h : g.row? r = some row) :
    outcome (removeRow r) g = (.ok (), g.dropRow r) := by
  obtain ⟨c, hk⟩ := hi.exists_key h
  have howner : (g.owners.lookup row.node).isSome = true := by
    rw [(hi.owned row.node r).mpr ⟨row, h, rfl⟩]
    rfl
  have hrow : ({ g with rows := g.rows.map (·.map (withoutChild r)) } : Graph).row? r =
      some (withoutChild r row) := by
    rw [row?, List.getElem?_map, row?_eq_some_iff.mp h]
    rfl
  have hkey : ({ g with rows := g.rows.map (·.map (withoutChild r)) } : Graph).key? r = some c := hk
  unfold removeRow
  rw [outcome_bind_ok (outcome_modify _ g), outcome_bind_ok (outcome_rowAt hrow),
    outcome_bind_ok (outcome_keyAt hkey), outcome_bind_ok (outcome_modify _ _),
    outcome_bind_ok (outcome_get _)]
  refine (congrArg (outcome · _) (if_pos howner)).trans ?_
  rw [dropRow, hk, h]
  rfl

theorem row?_of_row?_dropRow {r s : Nat} {row row' : Row} (h : g.row? r = some row)
    (hs : (g.dropRow r).row? s = some row') :
    s ≠ r ∧ ∃ old, g.row? s = some old ∧ row' = withoutChild r old := by
  rw [row?_dropRow h] at hs
  by_cases hsr : s = r
  · rw [if_pos hsr] at hs
    exact nomatch hs
  · rw [if_neg hsr] at hs
    obtain ⟨old, hold, he⟩ := Option.map_eq_some_iff.mp hs
    exact ⟨hsr, old, hold, he.symm⟩

theorem edgesBetween_dropRow {r : Nat} {row : Row} (h : g.row? r = some row) (a b : Nat) :
    (g.dropRow r).edgesBetween a b = if a = r ∨ b = r then [] else g.edgesBetween a b := by
  by_cases ha : a = r
  · have hn : (g.dropRow r).row? a = none := by rw [row?_dropRow h, if_pos ha]
    rw [if_pos (Or.inl ha), Graph.edgesBetween_eq_nil hn]
  · cases hrow : g.row? a with
    | none =>
      have hn : (g.dropRow r).row? a = none := by rw [row?_dropRow h, if_neg ha, hrow]; rfl
      rw [Graph.edgesBetween_eq_nil hn, Graph.edgesBetween_eq_nil hrow, ite_self]
    | some old =>
      have hn : (g.dropRow r).row? a = some (withoutChild r old) := by
        rw [row?_dropRow h, if_neg ha, hrow]
        rfl
      rw [edgesBetween_eq hn, edgesBetween_eq hrow, withoutChild, edgesUnder_remove]
      by_cases hb : b = r
      · rw [if_pos hb, if_pos (Or.inr hb)]
      · rw [if_neg hb, if_neg (not_or.mpr ⟨ha, hb⟩)]

theorem Linked.dropRow (hl : g.Linked) {r : Nat} {row : Row} (h : g.row? r = some row) :
    (g.dropRow r).Linked where
  distinct := by
    intro a b rowa rowb ha hb he
    obtain ⟨-, olda, hola, rfl⟩ := row?_of_row?_dropRow h ha
    obtain ⟨-, oldb, holb, rfl⟩ := row?_of_row?_dropRow h hb
    exact hl.distinct hola holb he
  keyed := by
    intro a rowa ha
    obtain ⟨-, old, hold, rfl⟩ := row?_of_row?_dropRow h ha
    exact Entries.nodup_remove r (hl.keyed hold)
  landing := by
    intro a b i hi
    rw [edgesBetween_dropRow h] at hi
    by_cases hab : a = r ∨ b = r
    · rw [if_pos hab] at hi
      exact absurd hi List.not_mem_nil
    · rw [if_neg hab] at hi
      obtain ⟨rowb, hb⟩ := hl.landing hi
      refine ⟨withoutChild r rowb, ?_⟩
      rw [row?_dropRow h, if_neg (not_or.mp hab).2, hb]
      rfl
  parallel := by
    intro a b
    rw [edgesBetween_dropRow h]
    by_cases hab : a = r ∨ b = r
    · rw [if_pos hab]
      exact List.nodup_nil
    · rw [if_neg hab]
      exact hl.parallel a b

theorem indexed?_dropRow {r : Nat} {k : Entity} (h : g.key? r = some k) (d : Entity) :
    (g.dropRow r).indexed? d =
      if k.alike d = true ∧ g.indexed? k = some r then none else g.indexed? d := by
  rw [← rowFor?_leave]
  unfold dropRow indexed?
  rw [h]
  rfl

theorem owned_dropRow (hi : g.Indexed) {r : Nat} {row : Row} (h : g.row? r = some row) (n : NodeId)
    (s : Nat) : (g.dropRow r).owners.lookup n = some s ↔
      ∃ row, (g.dropRow r).row? s = some row ∧ row.node = n := by
  have hlookup : (g.dropRow r).owners.lookup n =
      if n = row.node then none else g.owners.lookup n := by
    unfold dropRow
    rw [h]
    exact Entries.lookup_remove row.node n g.owners
  rw [hlookup]
  constructor
  · intro hs
    by_cases hn : n = row.node
    · rw [if_pos hn] at hs
      exact nomatch hs
    · rw [if_neg hn] at hs
      obtain ⟨old, hold, rfl⟩ := (hi.owned n s).mp hs
      have hne : s ≠ r := by
        rintro rfl
        rw [h] at hold
        exact hn (congrArg Row.node (Option.some.inj hold)).symm
      exact ⟨withoutChild r old, by rw [row?_dropRow h, if_neg hne, hold]; rfl, rfl⟩
  · rintro ⟨row', hs, hn⟩
    obtain ⟨hne, old, hold, rfl⟩ := row?_of_row?_dropRow h hs
    have howner := (hi.owned n s).mpr ⟨old, hold, hn⟩
    have hout : n ≠ row.node := by
      rintro rfl
      exact hne (Option.some.inj (howner.symm.trans ((hi.owned row.node r).mpr ⟨row, h, rfl⟩)))
    rw [if_neg hout, howner]

theorem Indexed.dropRow (hi : g.Indexed) {r : Nat} {row : Row} (h : g.row? r = some row) :
    (g.dropRow r).Indexed where
  separate := by
    obtain ⟨k, hk⟩ := hi.exists_key h
    unfold Graph.dropRow
    rw [hk]
    exact hi.separate.leave k r
  pointing := by
    intro d s hs
    obtain ⟨k, hk⟩ := hi.exists_key h
    rw [indexed?_dropRow hk] at hs
    by_cases hl : k.alike d = true ∧ g.indexed? k = some r
    · rw [if_pos hl] at hs
      exact nomatch hs
    · rw [if_neg hl] at hs
      obtain ⟨old, hold, hc⟩ := hi.pointing hs
      have hne : s ≠ r := by
        rintro rfl
        obtain rfl := Option.some.inj (hk.symm.trans hold)
        exact hl ⟨hc, (indexed?_congr hc).trans hs⟩
      exact ⟨old, by rw [key?_dropRow, if_neg hne, hold], hc⟩
  once := Entries.nodup_remove r hi.once
  recorded := by
    intro s
    rw [key?_dropRow, row?_dropRow h]
    by_cases hs : s = r
    · rw [if_pos hs, if_pos hs]
      rfl
    · rw [if_neg hs, if_neg hs, Option.isSome_map, hi.recorded]
  owned := owned_dropRow hi h

theorem Sound.dropRow (h : g.Sound) {r : Nat} {row : Row} (hr : g.row? r = some row) :
    (g.dropRow r).Sound :=
  ⟨h.linked.dropRow hr, h.indexed.dropRow hr⟩

def changeChildren (g : Graph) (r : Nat)
    (change : List (Nat × List EdgeId) → List (Nat × List EdgeId)) : Graph :=
  match g.row? r with
  | some row => { g with rows := g.rows.set r (some { row with children := change row.children }) }
  | none => g

section
variable {r : Nat} {row : Row} {change : List (Nat × List EdgeId) → List (Nat × List EdgeId)}

theorem changeChildren_eq (h : g.row? r = some row) : g.changeChildren r change =
    { g with rows := g.rows.set r (some { row with children := change row.children }) } := by
  rw [changeChildren, h]

theorem outcome_editChildren (h : g.row? r = some row) :
    outcome (editChildren r change) g = (.ok (), g.changeChildren r change) := by
  unfold editChildren
  rw [outcome_bind_ok (outcome_rowAt h), outcome_modify, changeChildren_eq h]

theorem outcome_join (h : g.row? r = some row) (s : Nat) (i : EdgeId) :
    outcome (join (some r) (some s) (some i)) g =
      (.ok true, g.changeChildren r (appendEdge s i)) := by
  unfold join
  rw [outcome_bind_ok (outcome_editChildren h), outcome_pure]

theorem outcome_removeEdgeAt {s p : Nat} (h : g.row? r = some row)
    (hp : p < (g.edgesBetween r s).length) :
    outcome (removeEdgeAt r s p) g = (.ok (), g.changeChildren r (dropEdge s p)) := by
  unfold removeEdgeAt
  rw [outcome_bind_ok (outcome_rowAt h)]
  rw [edgesBetween_eq h, edgesUnder] at hp
  cases hs : row.children.lookup s with
  | none =>
    rw [hs] at hp
    exact absurd hp (Nat.not_lt_zero p)
  | some edges =>
    rw [hs] at hp
    have hlt : p < edges.length := hp
    simp only [hlt, if_true]
    exact outcome_editChildren h

theorem row?_changeChildren (h : g.row? r = some row) (s : Nat) :
    (g.changeChildren r change).row? s =
      if s = r then some { row with children := change row.children } else g.row? s :=
  row?_set (row?_lt h) rfl (by rw [changeChildren_eq h])

theorem key?_changeChildren (g : Graph) (r s : Nat)
    (change : List (Nat × List EdgeId) → List (Nat × List EdgeId)) :
    (g.changeChildren r change).key? s = g.key? s := by
  unfold changeChildren
  cases g.row? r <;> rfl

theorem row?_of_row?_changeChildren (h : g.row? r = some row) {s : Nat} {row' : Row}
    (hs : (g.changeChildren r change).row? s = some row') :
    ∃ old, g.row? s = some old ∧ row'.node = old.node ∧
      row'.children = if s = r then change old.children else old.children := by
  rw [row?_changeChildren h] at hs
  by_cases hsr : s = r
  · rw [if_pos hsr] at hs
    obtain rfl := Option.some.inj hs
    exact ⟨row, hsr ▸ h, rfl, (if_pos hsr).symm⟩
  · rw [if_neg hsr] at hs
    exact ⟨row', hs, rfl, (if_neg hsr).symm⟩

theorem exists_row?_changeChildren (change : List (Nat × List EdgeId) → List (Nat × List EdgeId))
    (h : g.row? r = some row) {s : Nat} {old : Row} (hs : g.row? s = some old) :
    ∃ row', (g.changeChildren r change).row? s = some row' ∧ row'.node = old.node := by
  rw [row?_changeChildren h]
  by_cases hsr : s = r
  · subst hsr
    rw [h] at hs
    obtain rfl := Option.some.inj hs
    exact ⟨_, if_pos rfl, rfl⟩
  · exact ⟨old, by rw [if_neg hsr, hs], rfl⟩

theorem edgesBetween_changeChildren (h : g.row? r = some row) (a b : Nat) :
    (g.changeChildren r change).edgesBetween a b =
      if a = r then edgesUnder b (change row.children) else g.edgesBetween a b := by
  by_cases ha : a = r
  · subst ha
    rw [if_pos rfl, edgesBetween_eq ((row?_changeChildren h a).trans (if_pos rfl))]
  · unfold edgesBetween
    rw [row?_changeChildren h, if_neg ha, if_neg ha]

theorem indexed?_changeChildren (h : g.row? r = some row) (c : Entity) :
    (g.changeChildren r change).indexed? c = g.indexed? c := by
  rw [changeChildren_eq h]
  rfl

theorem Indexed.changeChildren (hi : g.Indexed) (h : g.row? r = some row) :
    (g.changeChildren r change).Indexed where
  separate := by
    rw [changeChildren_eq h]
    exact hi.separate
  pointing := by
    intro d s hs
    rw [indexed?_changeChildren h] at hs
    rw [key?_changeChildren]
    exact hi.pointing hs
  once := by
    rw [changeChildren_eq h]
    exact hi.once
  recorded := by
    intro s
    rw [key?_changeChildren, row?_changeChildren h, hi.recorded]
    by_cases hs : s = r
    · rw [if_pos hs, hs, h]
      rfl
    · rw [if_neg hs]
  owned := by
    intro n s
    have howners : (g.changeChildren r change).owners = g.owners := by rw [changeChildren_eq h]
    rw [howners, hi.owned]
    constructor
    · rintro ⟨old, hold, hn⟩
      obtain ⟨row', hrow', he⟩ := exists_row?_changeChildren change h hold
      exact ⟨row', hrow', he.trans hn⟩
    · rintro ⟨row', hrow', hn⟩
      obtain ⟨old, hold, he, -⟩ := row?_of_row?_changeChildren h hrow'
      exact ⟨old, hold, he.symm.trans hn⟩

/-- A change of the edges of one row leaves the graph linked if it keeps the subjects apart and
the new edges end in rows. -/
theorem Linked.changeChildren (hl : g.Linked) (h : g.row? r = some row)
    (hk : ((change row.children).map Prod.fst).Nodup)
    (hland : ∀ ⦃s i⦄, i ∈ edgesUnder s (change row.children) → ∃ row', g.row? s = some row')
    (hpar : ∀ s, (edgesUnder s (change row.children)).Nodup) :
    (g.changeChildren r change).Linked where
  distinct := by
    intro a b rowa rowb ha hb he
    obtain ⟨olda, ha, han, -⟩ := row?_of_row?_changeChildren h ha
    obtain ⟨oldb, hb, hbn, -⟩ := row?_of_row?_changeChildren h hb
    exact hl.distinct ha hb (by rw [← han, ← hbn, he])
  keyed := by
    intro a rowa ha
    obtain ⟨old, hold, -, hc⟩ := row?_of_row?_changeChildren h ha
    rw [hc]
    by_cases har : a = r
    · subst har
      rw [h] at hold
      obtain rfl := Option.some.inj hold
      rwa [if_pos rfl]
    · rw [if_neg har]
      exact hl.keyed hold
  landing := by
    intro a b i hi
    rw [edgesBetween_changeChildren h] at hi
    have hb : ∃ row', g.row? b = some row' := by
      by_cases har : a = r
      · rw [if_pos har] at hi
        exact hland hi
      · rw [if_neg har] at hi
        exact hl.landing hi
    obtain ⟨old, hold⟩ := hb
    obtain ⟨row', hrow', -⟩ := exists_row?_changeChildren change h hold
    exact ⟨row', hrow'⟩
  parallel := by
    intro a b
    rw [edgesBetween_changeChildren h]
    by_cases har : a = r
    · rw [if_pos har]
      exact hpar b
    · rw [if_neg har]
      exact hl.parallel a b

end

theorem Sound.appended (hg : g.Sound) {r s : Nat} {row row' : Row} {i : EdgeId}
    (hr : g.row? r = some row) (hs : g.row? s = some row') (hi : i ∉ g.edgesBetween r s) :
    (g.changeChildren r (appendEdge s i)).Sound := by
  rw [edgesBetween_eq hr] at hi
  refine ⟨hg.linked.changeChildren hr ?_ ?_ ?_, hg.indexed.changeChildren hr⟩
  · exact nodup_keys_appendEdge (hg.linked.keyed hr)
  · intro t j hj
    rw [edgesUnder_appendEdge] at hj
    by_cases hts : t = s
    · exact ⟨row', hts ▸ hs⟩
    · rw [if_neg hts, ← edgesBetween_eq hr] at hj
      exact hg.linked.landing hj
  · intro t
    rw [edgesUnder_appendEdge]
    by_cases hts : t = s
    · rw [if_pos hts]
      refine List.nodup_append.mpr ⟨?_, List.nodup_singleton i, ?_⟩
      · rw [← edgesBetween_eq hr]
        exact hg.linked.parallel r s
      · intro a ha b hb hab
        rw [List.mem_singleton] at hb
        exact hi (hb ▸ hab ▸ ha)
    · rw [if_neg hts, ← edgesBetween_eq hr]
      exact hg.linked.parallel r t

theorem Sound.dropped (hg : g.Sound) {r : Nat} {row : Row} (hr : g.row? r = some row)
    (s p : Nat) : (g.changeChildren r (dropEdge s p)).Sound := by
  have hk := hg.linked.keyed hr
  have hsub (t : Nat) :
      (edgesUnder t (dropEdge s p row.children)).Sublist (g.edgesBetween r t) := by
    rw [edgesUnder_dropEdge hk, edgesBetween_eq hr]
    by_cases hts : t = s
    · rw [if_pos hts, hts]
      exact List.eraseIdx_sublist _ _
    · rw [if_neg hts]
  refine ⟨hg.linked.changeChildren hr ?_ ?_ ?_, hg.indexed.changeChildren hr⟩
  · exact hk.sublist (keys_dropEdge_sublist s p row.children)
  · exact fun t i hi => hg.linked.landing ((hsub t).mem hi)
  · exact fun t => (hg.linked.parallel r t).sublist (hsub t)

end GraphTemplate.Graph

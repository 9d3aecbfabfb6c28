import GraphTemplate.Proofs.Document.Shape
import GraphTemplate.Proofs.Value.Written

/-! What is complained about in data that has not the shape of a document: a part of the data, which
can be told if no number in the data is too long. -/
namespace GraphTemplate

namespace Shape

/-- The complaint taken is one of those with the least key. -/
theorem least_spec {cs : List (String × Complaint)} {c : Complaint} (h : least cs = some c) :
    ∃ e ∈ cs, c = e.2.under (.key e.1) ∧ ∀ e' ∈ cs, e.1 ≤ e'.1 := by
  induction cs with
  | nil => exact nomatch h
  | cons e cs ih =>
    rw [least] at h
    by_cases hall : (cs.all fun e' => decide (e.1 ≤ e'.1)) = true
    · rw [if_pos hall] at h
      refine ⟨e, List.mem_cons_self, (Option.some.inj h).symm, ?_⟩
      exact List.forall_mem_cons.mpr ⟨String.le_refl e.1, by simpa using hall⟩
    · rw [if_neg hall] at h
      obtain ⟨m, hm, hc, hle⟩ := ih h
      obtain ⟨e', he', hnle⟩ : ∃ e' ∈ cs, ¬e.1 ≤ e'.1 := by simpa using hall
      have hge : e'.1 ≤ e.1 := (String.le_total e.1 e'.1).resolve_left hnle
      refine ⟨m, List.mem_cons_of_mem e hm, hc, ?_⟩
      exact List.forall_mem_cons.mpr ⟨String.le_trans (hle e' he') hge, hle⟩

/-- The complaint taken is about the first item with one. -/
theorem firstItem_spec {item : Shape} {n : Nat} {vs : List Value} {c : Complaint}
    (h : firstItem item n vs = some c) :
    ∃ i v c', vs[i]? = some v ∧ item.complaint? v = some c' ∧ c = c'.under (.index (n + i)) ∧
      ∀ (j : Nat) (w : Value), vs[j]? = some w → ¬item.Fits w → i ≤ j := by
  induction vs generalizing n with
  | nil =>
    rw [firstItem] at h
    exact nomatch h
  | cons v vs ih =>
    rw [firstItem] at h
    cases hv : item.complaint? v with
    | some c' =>
      rw [hv] at h
      exact ⟨0, v, c', rfl, hv, (Option.some.inj h).symm, fun j _ _ _ => Nat.zero_le j⟩
    | none =>
      rw [hv] at h
      obtain ⟨i, u, c', hu, hc', hc, hfirst⟩ := ih h
      refine ⟨i + 1, u, c', hu, hc', ?_, ?_⟩
      · rw [hc, Nat.add_right_comm n 1 i, Nat.add_assoc]
      · intro j w hw hbad
        cases j with
        | zero =>
          obtain rfl : v = w := Option.some.inj hw
          exact absurd hv hbad
        | succ j => exact Nat.succ_le_succ (hfirst j w hw hbad)

theorem exists_of_mem_entryComplaints {entry : Shape} {entries : List (Value × Value)}
    {k : String} {c : Complaint} (h : (k, c) ∈ entryComplaints entry entries) :
    ∃ e ∈ entries, entry.complaint? e.2 = some c := by
  induction entries with
  | nil =>
    rw [entryComplaints] at h
    exact absurd h List.not_mem_nil
  | cons e es ih =>
    have hrest : (k, c) ∈ entryComplaints entry es →
        ∃ e' ∈ e :: es, entry.complaint? e'.2 = some c := fun hm => by
      obtain ⟨e', he, hc⟩ := ih hm
      exact ⟨e', List.mem_cons_of_mem e he, hc⟩
    obtain ⟨key, v⟩ := e
    cases key with
    | text t =>
      rw [entryComplaints] at h
      cases hv : entry.complaint? v with
      | none =>
        rw [hv] at h
        exact hrest h
      | some c' =>
        rw [hv] at h
        rcases List.mem_cons.mp h with he | hm
        · obtain ⟨-, rfl⟩ := Prod.mk.inj he
          exact ⟨(.text t, v), List.mem_cons_self, hv⟩
        · exact hrest hm
    | _ => exact hrest (by simpa only [entryComplaints] using h)

theorem exists_of_mem_fieldComplaints {fields : List (String × Shape)}
    {entries : List (Value × Value)} {k : String} {c : Complaint}
    (h : (k, c) ∈ fieldComplaints fields entries) :
    ∃ f ∈ fields, ∃ v, field? f.1 entries = some v ∧ f.2.complaint? v = some c := by
  induction fields with
  | nil =>
    rw [fieldComplaints] at h
    exact absurd h List.not_mem_nil
  | cons f fields ih =>
    have hrest : (k, c) ∈ fieldComplaints fields entries →
        ∃ f' ∈ f :: fields, ∃ v, field? f'.1 entries = some v ∧ f'.2.complaint? v = some c :=
      fun hm => by
        obtain ⟨f', hf, hc⟩ := ih hm
        exact ⟨f', List.mem_cons_of_mem f hf, hc⟩
    rw [fieldComplaints] at h
    cases hv : (field? f.1 entries).bind (complaint? f.2) with
    | none =>
      rw [hv] at h
      exact hrest h
    | some c' =>
      rw [hv] at h
      rcases List.mem_cons.mp h with he | hm
      · obtain ⟨-, rfl⟩ := Prod.mk.inj he
        exact ⟨f, List.mem_cons_self, Option.bind_eq_some_iff.mp hv⟩
      · exact hrest hm

theorem mem_of_field? {key : String} {entries : List (Value × Value)} {v : Value}
    (h : field? key entries = some v) : ∃ k, (k, v) ∈ entries := by
  induction entries with
  | nil =>
    rw [field?] at h
    cases h
  | cons e es ih =>
    obtain ⟨k, u⟩ := e
    have hrest : field? key es = some v → ∃ k', (k', v) ∈ (k, u) :: es := fun hf => by
      obtain ⟨k', hm⟩ := ih hf
      exact ⟨k', List.mem_cons_of_mem _ hm⟩
    cases k with
    | text t =>
      rw [field?] at h
      by_cases ht : t = key
      · rw [if_pos ht] at h
        obtain rfl := Option.some.inj h
        exact ⟨.text t, List.mem_cons_self⟩
      · rw [if_neg ht] at h
        exact hrest h
    | _ => exact hrest (by simpa only [field?] using h)

end Shape

namespace Value

theorem unwritten_of_mem {vs : List Value} (h : itemsWritten vs = []) :
    ∀ v ∈ vs, v.written = [] := by
  induction vs with
  | nil => exact fun _ hv => absurd hv List.not_mem_nil
  | cons v vs ih =>
    rw [itemsWritten, List.append_eq_nil_iff] at h
    exact List.forall_mem_cons.mpr ⟨h.1, ih h.2⟩

theorem unwritten_of_mem_entries {es : List (Value × Value)} (h : entriesWritten es = []) :
    ∀ e ∈ es, e.2.written = [] := by
  induction es with
  | nil => exact fun _ he => absurd he List.not_mem_nil
  | cons e es ih =>
    obtain ⟨k, v⟩ := e
    simp only [entriesWritten, List.append_eq_nil_iff] at h
    exact List.forall_mem_cons.mpr ⟨h.1.2, ih h.2⟩

end Value

namespace Shape

theorem eq_of_unsuitable {v : Value} {c : Complaint}
    (h : (if isEmptyText v then none else some ⟨[], v, .unsuitable⟩) = some c) :
    c = ⟨[], v, .unsuitable⟩ := by
  split at h
  · exact nomatch h
  · exact (Option.some.inj h).symm

theorem eq_of_unknownKeys? {known : List String} {v : Value} {entries : List (Value × Value)}
    {c : Complaint} (h : unknownKeys? known v entries = some c) :
    ∃ names, c = ⟨[], v, .unknownKeys names⟩ := by
  unfold unknownKeys? at h
  dsimp only at h
  split at h
  · exact nomatch h
  · exact ⟨_, (Option.some.inj h).symm⟩

/-- What is complained about is a part of the data. -/
theorem unwritten_of_complaint : (shape : Shape) → {v : Value} → {c : Complaint} →
    v.written = [] → shape.complaint? v = some c → c.value.written = []
  | .text, v, c, hv, hc => by
    unfold complaint? at hc
    split at hc
    · cases hc
    · rwa [← Option.some.inj hc]
  | .integer, v, c, hv, hc => by
    unfold complaint? at hc
    split at hc
    · split at hc
      · cases hc
      · rwa [← Option.some.inj hc]
    · rwa [← Option.some.inj hc]
  | .list item, v, c, hv, hc => by
    unfold complaint? at hc
    split at hc
    · obtain ⟨i, u, c', hu, hcu, rfl, -⟩ := firstItem_spec hc
      have hw : c'.value.written = [] :=
        unwritten_of_complaint item (Value.unwritten_of_mem hv u (List.mem_of_getElem? hu)) hcu
      exact hw
    · rwa [eq_of_unsuitable hc]
  | .table entry, v, c, hv, hc => by
    unfold complaint? at hc
    split at hc
    · obtain ⟨⟨k, c'⟩, hm, rfl, -⟩ := least_spec hc
      obtain ⟨e, he, hce⟩ := exists_of_mem_entryComplaints hm
      have hw : c'.value.written = [] :=
        unwritten_of_complaint entry (Value.unwritten_of_mem_entries hv e he) hce
      exact hw
    · rwa [eq_of_unsuitable hc]
  | .closed fields, v, c, hv, hc => by
    unfold complaint? at hc
    split at hc
    · rcases Option.or_eq_some_iff.mp hc with hc | ⟨-, hc⟩
      · obtain ⟨⟨k, c'⟩, hm, rfl, -⟩ := least_spec hc
        obtain ⟨f, hf, u, hu, hcu⟩ := exists_of_mem_fieldComplaints hm
        obtain ⟨k', hk⟩ := mem_of_field? hu
        have hw : c'.value.written = [] :=
          unwritten_of_complaint f.2 (Value.unwritten_of_mem_entries hv _ hk) hcu
        exact hw
      · obtain ⟨names, rfl⟩ := eq_of_unknownKeys? hc
        exact hv
    · rwa [eq_of_unsuitable hc]
termination_by shape => sizeOf shape
decreasing_by
  · simp
  · simp
  · have := List.sizeOf_lt_of_mem hf
    obtain ⟨k, s⟩ := f
    simp at this ⊢
    omega

theorem message_ok {shape : Shape} {v : Value} {c : Complaint} (hv : v.written = [])
    (hc : shape.complaint? v = some c) : ∃ message, c.message = .ok message := by
  have hform : ∃ s, c.value.form = .ok s := by
    have hw := Value.writes_form c.value
    rw [unwritten_of_complaint shape hv hc] at hw
    rcases hw with ⟨hs, -⟩ | ⟨-, n, hn, -⟩
    · exact hs
    · exact absurd hn List.not_mem_nil
  obtain ⟨s, hs⟩ := hform
  have hdefect : ∃ m, c.defectMessage = .ok m := by
    unfold Complaint.defectMessage
    rw [hs]
    cases c.defect <;> exact ⟨_, rfl⟩
  obtain ⟨m, hm⟩ := hdefect
  unfold Complaint.message
  rw [hm]
  exact ⟨_, rfl⟩

end Shape

namespace Document

end Document

end GraphTemplate

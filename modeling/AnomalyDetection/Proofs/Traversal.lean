import AnomalyDetection.Proofs.Outcome
import Mathlib.Data.List.Forall2

namespace AnomalyDetection.Traversal

variable {f : α → Except ε β} {l : List α}

theorem mapM_cons_ok {a : α} {b : β} (h : f a = .ok b) :
    (a :: l).mapM f = (l.mapM f).map (b :: ·) := by
  simp only [List.mapM_cons, h]
  cases l.mapM f <;> rfl

theorem mapM_cons_error {a : α} {e : ε} (h : f a = .error e) : (a :: l).mapM f = .error e := by
  simp only [List.mapM_cons, h]
  rfl

theorem mapM_eq_map {g : α → β} (h : ∀ a ∈ l, f a = .ok (g a)) : l.mapM f = .ok (l.map g) := by
  induction l
  case nil => rfl
  case cons a l hi =>
    have ⟨ha, hl⟩ := List.forall_mem_cons.mp h
    rw [mapM_cons_ok ha, hi hl]
    rfl

-- A traversal succeeds with all of its results, or fails with the first failure.
theorem mapM_cases (f : α → Except ε β) (l : List α) :
    (∃ bs, l.mapM f = .ok bs ∧ List.Forall₂ (fun a b => f a = .ok b) l bs) ∨
    ∃ front a back e, l = front ++ a :: back ∧ (∀ a ∈ front, ∃ b, f a = .ok b) ∧
      f a = .error e ∧ l.mapM f = .error e := by
  induction l
  case nil => exact .inl ⟨[], rfl, .nil⟩
  case cons a l hi =>
    cases ha : f a
    case error e =>
      exact .inr ⟨[], a, l, e, rfl, List.forall_mem_nil _, ha, mapM_cons_error ha⟩
    case ok b =>
      cases hi
      case inl h =>
        have ⟨bs, hm, hr⟩ := h
        exact .inl ⟨b :: bs, by rw [mapM_cons_ok ha, hm]; rfl, .cons ha hr⟩
      case inr h =>
        obtain ⟨front, c, back, e, rfl, hf, hc, hm⟩ := h
        refine .inr ⟨a :: front, c, back, e, rfl, List.forall_mem_cons.mpr ⟨⟨b, ha⟩, hf⟩, hc, ?_⟩
        rw [mapM_cons_ok ha, hm]
        rfl

theorem exists_mapM_ok (h : ∀ a ∈ l, ∃ b, f a = .ok b) :
    ∃ bs, l.mapM f = .ok bs ∧ List.Forall₂ (fun a b => f a = .ok b) l bs := by
  cases mapM_cases f l
  case inl hc => exact hc
  case inr hc =>
    obtain ⟨front, a, back, e, rfl, _, ha, _⟩ := hc
    have ⟨b, hb⟩ := h a List.mem_append_cons_self
    cases ha.symm.trans hb

-- The first failure ends the traversal.
theorem mapM_first_error {front back : List α} {a : α} {e : ε}
    (hf : ∀ a ∈ front, ∃ b, f a = .ok b) (h : f a = .error e) :
    (front ++ a :: back).mapM f = .error e := by
  induction front
  case nil => exact mapM_cons_error h
  case cons c front hi =>
    have ⟨⟨b, hb⟩, hl⟩ := List.forall_mem_cons.mp hf
    rw [List.cons_append, mapM_cons_ok hb, hi hl]
    rfl

theorem exists_of_mapM_ok {bs : List β} (h : l.mapM f = .ok bs) : ∀ a ∈ l, ∃ b, f a = .ok b := by
  cases mapM_cases f l
  case inl hc =>
    have ⟨bs, _, hr⟩ := hc
    exact (List.forall₂_and_left l bs).mp (hr.imp fun _ b hb => ⟨⟨b, hb⟩, hb⟩) |>.left
  case inr hc =>
    have ⟨_, _, _, _, _, _, _, he⟩ := hc
    cases h.symm.trans he

theorem forall_mem_right {R : α → β → Prop} {p : β → Prop} {bs : List β}
    (h : List.Forall₂ R l bs) (hp : ∀ a b, R a b → p b) : ∀ b ∈ bs, p b := by
  induction h
  case nil => exact List.forall_mem_nil p
  case cons hab _ hi => exact List.forall_mem_cons.mpr ⟨hp _ _ hab, hi⟩

theorem countP_eq {R : α → β → Prop} {p : α → Bool} {q : β → Bool} {bs : List β}
    (h : List.Forall₂ R l bs) (hp : ∀ a b, R a b → p a = q b) : l.countP p = bs.countP q := by
  induction h
  case nil => rfl
  case cons hab _ hi => rw [List.countP_cons, List.countP_cons, hi, hp _ _ hab]

-- Functions that fail together are traversed together.
theorem rel_mapM {R : β → δ → Prop} {g : γ → Except ε δ} {m : List γ}
    (h : List.Forall₂ (fun a c => Outcome.Rel R (f a) (g c)) l m) :
    Outcome.Rel (List.Forall₂ R) (l.mapM f) (m.mapM g) := by
  induction h
  case nil => exact .ok .nil
  case cons a c l m h _ hi =>
    cases hf : f a <;> cases hg : g c <;> rw [hf, hg] at h <;> cases h
    case error.error.error e =>
      rw [mapM_cons_error hf, mapM_cons_error hg]
      exact .error e
    case ok.ok.ok hr =>
      rw [mapM_cons_ok hf, mapM_cons_ok hg]
      exact hi.map fun _ _ hs => .cons hr hs

end AnomalyDetection.Traversal

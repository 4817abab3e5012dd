namespace AnomalyDetection.Outcome

variable {x : Except ε α}

theorem bind_eq_ok {f : α → Except ε β} {b : β} (h : x >>= f = .ok b) :
    ∃ a, x = .ok a ∧ f a = .ok b := by
  cases x
  case error => cases h
  case ok a => exact ⟨a, rfl, h⟩

theorem map_eq_ok {f : α → β} {b : β} (h : x.map f = .ok b) : ∃ a, x = .ok a ∧ f a = b := by
  cases x <;> cases h
  exact ⟨_, rfl, rfl⟩

theorem mapError_eq_ok {f : ε → δ} {a : α} (h : x.mapError f = .ok a) : x = .ok a := by
  cases x <;> cases h
  rfl

theorem map_eq_error {f : α → β} {e : ε} : x.map f = .error e ↔ x = .error e := by
  cases x
  case error e' => exact ⟨fun h => by cases h; rfl, fun h => by cases h; rfl⟩
  case ok => exact ⟨nofun, nofun⟩

theorem mapError_eq_error {f : ε → δ} {e : δ} :
    x.mapError f = .error e ↔ ∃ e', x = .error e' ∧ e = f e' := by
  cases x
  case error e' =>
    constructor
    case mp => intro h; cases h; exact ⟨e', rfl, rfl⟩
    case mpr => rintro ⟨_, ⟨⟩, rfl⟩; rfl
  case ok => exact ⟨nofun, fun ⟨_, h, _⟩ => nomatch h⟩

theorem eq_ok_of_toOption {a : α} (h : x.toOption = some a) : x = .ok a := by
  cases x <;> cases h
  rfl

-- Outcomes that are the same failure, or successes that go together.
inductive Rel (R : α → β → Prop) : Except ε α → Except ε β → Prop
  | ok {a : α} {b : β} : R a b → Rel R (.ok a) (.ok b)
  | error (e : ε) : Rel R (.error e) (.error e)

theorem Rel.map {R : α → β → Prop} {S : γ → δ → Prop} {f : α → γ} {g : β → δ} {y : Except ε β}
    (h : Rel R x y) (hf : ∀ a b, R a b → S (f a) (g b)) : Rel S (x.map f) (y.map g) := by
  cases h
  case ok a b h => exact .ok (hf a b h)
  case error e => exact .error e

end AnomalyDetection.Outcome

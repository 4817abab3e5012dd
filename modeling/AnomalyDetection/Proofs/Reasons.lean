import AnomalyDetection.Proofs.Traversal

namespace AnomalyDetection

-- What an outcome fails with, if it does.
def failure : Except ε α → Option ε
  | .ok _ => none
  | .error e => some e

theorem failure_eq_some {x : Except ε α} {e : ε} : failure x = some e ↔ x = .error e := by
  cases x
  case error => exact ⟨fun h => by cases h; rfl, fun h => by cases h; rfl⟩
  case ok => exact ⟨nofun, nofun⟩

inductive FirstOf : List (ε → Prop) → Option ε → Prop
  | none : FirstOf [] none
  | here {p : ε → Prop} {ps : List (ε → Prop)} {e : ε} : p e → FirstOf (p :: ps) (some e)
  | later {p : ε → Prop} {ps : List (ε → Prop)} {r : Option ε} : (∀ e, ¬p e) → FirstOf ps r →
    FirstOf (p :: ps) r

-- Reasons that leave no choice of whether a computation fails, and with what.
def FailsBy (ps : List (ε → Prop)) (x : Except ε α) : Prop :=
  ∀ r, FirstOf ps r ↔ failure x = r

-- A reason that applies to a member of a list, and to none of the members before.
def FirstIn (p : α → ε → Prop) (l : List α) (e : ε) : Prop :=
  ∃ front a back, l = front ++ a :: back ∧ (∀ c ∈ front, ∀ e, ¬p c e) ∧ p a e

variable {p : ε → Prop} {ps qs : List (ε → Prop)} {x : Except ε α}

theorem firstOf_append {r : Option ε} : FirstOf (ps ++ qs) r ↔
    (∃ e, FirstOf ps (some e) ∧ r = some e) ∨ FirstOf ps none ∧ FirstOf qs r := by
  induction ps generalizing r
  case nil =>
    constructor
    case mp => exact fun h => .inr ⟨.none, h⟩
    case mpr =>
      rintro (⟨e, h, _⟩ | ⟨_, h⟩)
      · cases h
      · exact h
  case cons p ps hi =>
    constructor
    case mp =>
      intro h
      cases h
      case here e hp => exact .inl ⟨e, .here hp, rfl⟩
      case later hn h =>
        exact (hi.mp h).imp (fun ⟨e, h, hr⟩ => ⟨e, .later hn h, hr⟩) (And.imp_left (.later hn))
    case mpr =>
      rintro (⟨e, h, rfl⟩ | ⟨h, hq⟩)
      · cases h
        case here hp => exact .here hp
        case later hn h => exact .later hn (hi.mpr (.inl ⟨e, h, rfl⟩))
      · cases h
        case later hn h => exact .later hn (hi.mpr (.inr ⟨h, hq⟩))

theorem firstIn_congr {p q : α → ε → Prop} {l : List α} {e : ε}
    (h : ∀ a ∈ l, ∀ e, p a e ↔ q a e) : FirstIn p l e ↔ FirstIn q l e := by
  have front {p q : α → ε → Prop} (h : ∀ a ∈ l, ∀ e, p a e ↔ q a e) (hf : FirstIn p l e) :
      FirstIn q l e := by
    obtain ⟨front, a, back, rfl, hn, ha⟩ := hf
    exact ⟨front, a, back, rfl,
      fun c hc e hq => hn c hc e ((h c (List.mem_append_left _ hc) e).mpr hq),
      (h a List.mem_append_cons_self e).mp ha⟩
  exact ⟨front h, front fun a ha e => (h a ha e).symm⟩

namespace FailsBy

-- The same reasons lead to the same failure.
theorem failure_eq {y : Except ε β} (hx : FailsBy ps x) (hy : FailsBy ps y) :
    failure x = failure y :=
  (hx _).mp ((hy _).mpr rfl)

theorem ok (a : α) : FailsBy [] (.ok a : Except ε α) := by
  intro r
  constructor
  case mp => rintro ⟨⟩; rfl
  case mpr => rintro rfl; exact .none

theorem of_iff (h : ∀ e, x = .error e ↔ p e) : FailsBy [p] x := by
  intro r
  constructor
  case mp =>
    intro hf
    cases hf
    case here e hp => rw [(h e).mpr hp, failure]
    case later hn hf =>
      cases hf
      cases x
      case error e => exact absurd ((h e).mp rfl) (hn e)
      case ok => rfl
  case mpr =>
    rintro rfl
    cases x
    case error e => exact .here ((h e).mp rfl)
    case ok => exact .later (fun e hp => nomatch (h e).mpr hp) .none

theorem bind {f : α → Except ε β} (hx : FailsBy ps x) (hf : ∀ a, x = .ok a → FailsBy qs (f a)) :
    FailsBy (ps ++ qs) (x >>= f) := by
  intro r
  rw [firstOf_append]
  cases x
  case error e =>
    constructor
    case mp =>
      rintro (⟨_, h, rfl⟩ | ⟨h, _⟩)
      · exact (hx _).mp h
      · exact nomatch (hx _).mp h
    case mpr => rintro rfl; exact .inl ⟨e, (hx _).mpr rfl, rfl⟩
  case ok a =>
    constructor
    case mp =>
      rintro (⟨_, h, _⟩ | ⟨_, h⟩)
      · exact nomatch (hx _).mp h
      · exact (hf a rfl r).mp h
    case mpr => exact fun h => .inr ⟨(hx _).mpr rfl, (hf a rfl r).mpr h⟩

theorem cons {f : α → Except ε β} (hx : ∀ e, x = .error e ↔ p e)
    (hf : ∀ a, x = .ok a → FailsBy ps (f a)) : FailsBy (p :: ps) (x >>= f) :=
  bind (of_iff hx) hf

theorem guard {c : Prop} [Decidable c] {e : ε} (h : ¬c → FailsBy ps x) :
    FailsBy ((fun e' => c ∧ e' = e) :: ps) (if c then .error e else x) := by
  intro r
  by_cases hc : c
  case pos =>
    rw [if_pos hc]
    constructor
    case mp =>
      intro hf
      cases hf
      case here hp => rw [hp.right, failure]
      case later hn _ => exact absurd ⟨hc, rfl⟩ (hn e)
    case mpr => rintro rfl; exact .here ⟨hc, rfl⟩
  case neg =>
    rw [if_neg hc, ← h hc r]
    constructor
    case mp =>
      intro hf
      cases hf
      case here hp => exact absurd hp.left hc
      case later _ hf => exact hf
    case mpr => exact .later fun _ hp => hc hp.left

end FailsBy

namespace Traversal

variable {f : α → Except ε β} {p : α → ε → Prop}

-- A traversal fails for the reason of the first member that there is one for.
theorem mapM_eq_error (h : ∀ a e, f a = .error e ↔ p a e) {l : List α} {e : ε} :
    l.mapM f = .error e ↔ FirstIn p l e := by
  constructor
  case mp =>
    intro he
    cases mapM_cases f l
    case inl hc =>
      have ⟨_, hm, _⟩ := hc
      cases he.symm.trans hm
    case inr hc =>
      have ⟨front, a, back, e', hl, hf, ha, hm⟩ := hc
      cases he.symm.trans hm
      refine ⟨front, a, back, hl, fun c hd e' hp => ?_, (h a e).mp ha⟩
      have ⟨b, hb⟩ := hf c hd
      cases hb.symm.trans ((h c e').mpr hp)
  case mpr =>
    rintro ⟨front, a, back, rfl, hn, ha⟩
    refine mapM_first_error (fun c hd => ?_) ((h a e).mpr ha)
    cases hf : f c
    case error e' => exact absurd ((h c e').mp hf) (hn c hd e')
    case ok b => exact ⟨b, rfl⟩

end Traversal

end AnomalyDetection

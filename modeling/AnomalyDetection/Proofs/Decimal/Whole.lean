import AnomalyDetection.Proofs.Decimal.Numeral

namespace AnomalyDetection.Decimal

variable {s : List Char} {bound : Nat} {n : Int}

-- The texts of a whole number. Zeros in front are allowed.
inductive SpellsWhole : List Char → Int → Prop
  | bare {ds : List Nat} : IsNumeral ds → SpellsWhole (spelled ds) (ofDigits ds)
  | plus {ds : List Nat} : IsNumeral ds → SpellsWhole ('+' :: spelled ds) (ofDigits ds)
  | minus {ds : List Nat} : IsNumeral ds → SpellsWhole ('-' :: spelled ds) (-ofDigits ds)

theorem IsDecimal.isNumeral {n : Nat} {ds : List Nat} (h : IsDecimal n ds) : IsNumeral ds :=
  ⟨h.digits, h.nonempty⟩

theorem spellsWhole_integer (n : Int) : SpellsWhole (integer n) n := by
  cases n
  case ofNat n =>
    have ⟨ds, he, hd⟩ := natural_eq_spelled n
    rw [integer, he, ← hd.value]
    exact .bare hd.isNumeral
  case negSucc n =>
    have ⟨ds, he, hd⟩ := natural_eq_spelled (n + 1)
    rw [integer, he, Int.negSucc_eq, ← Int.natCast_succ, Nat.succ_eq_add_one, ← hd.value]
    exact .minus hd.isNumeral

theorem spellsWhole_plus (n : Nat) : SpellsWhole ('+' :: natural n) n := by
  have ⟨ds, he, hd⟩ := natural_eq_spelled n
  rw [he, ← hd.value]
  exact .plus hd.isNumeral

-- A text is read as a number just if it is a text of that number, and the number is in bounds.
theorem signed?_eq_some :
    signed? bound s = some n ↔ SpellsWhole s n ∧ -(bound : Int) ≤ n ∧ n < bound := by
  have hb {a : Int} : (if -(bound : Int) ≤ a ∧ a < bound then some a else none) = some n ↔
      a = n ∧ -(bound : Int) ≤ n ∧ n < bound := by
    rw [Option.ite_none_right_eq_some, Option.some_inj]
    exact ⟨fun ⟨h, he⟩ => ⟨he, he ▸ h⟩, fun ⟨he, h⟩ => ⟨he ▸ h, he⟩⟩
  unfold signed?
  simp only [bind]
  constructor
  case mp =>
    intro h
    split at h
    all_goals
      have ⟨a, ha, h⟩ := Option.bind_eq_some_iff.mp h
      obtain ⟨rfl, hn⟩ := hb.mp h
      refine ⟨?_, hn⟩
    case h_1 =>
      have ⟨m, hm, he⟩ := Option.map_eq_some_iff.mp ha
      obtain ⟨ds, rfl, hd, rfl⟩ := natural?_eq_some.mp hm
      exact he ▸ .plus hd
    case h_2 =>
      have ⟨_, ha, he⟩ := Option.map_eq_some_iff.mp ha
      have ⟨m, hm, hi⟩ := Option.bind_eq_some_iff.mp ha
      obtain ⟨ds, rfl, hd, rfl⟩ := natural?_eq_some.mp hm
      cases hi
      exact he ▸ .minus hd
    case h_3 =>
      have ⟨m, hm, he⟩ := Option.map_eq_some_iff.mp ha
      obtain ⟨ds, rfl, hd, rfl⟩ := natural?_eq_some.mp hm
      exact he ▸ .bare hd
  case mpr =>
    rintro ⟨h, hn⟩
    have hf := hb.mpr ⟨rfl, hn⟩
    cases h
    case plus hd => simp only [hd.natural?_spelled]; exact hf
    case minus hd => simp only [hd.natural?_spelled]; exact hf
    case bare hd =>
      split
      case h_1 h => exact absurd rfl (hd.ne_sign h).right
      case h_2 h => exact absurd rfl (hd.ne_sign h).left
      case h_3 => rwa [hd.natural?_spelled]

-- With bounds that are wide enough, a text has one reading only.
theorem SpellsWhole.unique {m : Int} (h : SpellsWhole s n) (h' : SpellsWhole s m) : n = m := by
  have hn : signed? (n.natAbs + m.natAbs + 1) s = some n :=
    signed?_eq_some.mpr ⟨h, by omega, by omega⟩
  have hm : signed? (n.natAbs + m.natAbs + 1) s = some m :=
    signed?_eq_some.mpr ⟨h', by omega, by omega⟩
  exact Option.some_inj.mp (hn.symm.trans hm)

theorem dash_notMem_spelled {ds : List Nat} (h : AllDigits ds) : '-' ∉ spelled ds := by
  intro hm
  have ⟨d, hd, he⟩ := List.mem_map.mp hm
  exact (digitChar_ne_sign d (h d hd)).left he

theorem SpellsWhole.dash_notMem_tail (h : SpellsWhole s n) : '-' ∉ s.tail := by
  cases h
  case bare hd => exact mt List.mem_of_mem_tail (dash_notMem_spelled hd.digits)
  case plus hd => exact dash_notMem_spelled hd.digits
  case minus hd => exact dash_notMem_spelled hd.digits

end AnomalyDetection.Decimal

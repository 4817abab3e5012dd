import AnomalyDetection.Decimal.Integer

namespace AnomalyDetection.Decimal

variable {ds : List Nat} {rest : List Char} {n : Nat}

-- The text of some digits, most significant first.
def spelled (ds : List Nat) : List Char := ds.map Nat.digitChar

def AllDigits (ds : List Nat) : Prop := ∀ d ∈ ds, d < 10

-- Nothing that goes on with a digit.
def NoDigitFirst (s : List Char) : Prop := ∀ c rest, s = c :: rest → digit? c = none

theorem noDigitFirst_cons {c : Char} (h : digit? c = none) (rest : List Char) :
    NoDigitFirst (c :: rest) := by
  rintro _ _ ⟨⟩
  exact h

theorem digit?_digitChar : ∀ d < 10, digit? (Nat.digitChar d) = some d := by
  decide

theorem digitChar_ne_sign : ∀ d < 10, Nat.digitChar d ≠ '-' ∧ Nat.digitChar d ≠ '+' := by
  decide

theorem eq_digitChar {c : Char} {d : Nat} (h : digit? c = some d) :
    c = Nat.digitChar d ∧ d < 10 := by
  unfold digit? at h
  split at h
  case isFalse => cases h
  case isTrue hc =>
    have hn : ∀ n < 58, 48 ≤ n → Char.ofNat n = Nat.digitChar (n - 48) := by decide
    have hl : 48 ≤ c.toNat := hc.left
    have hu : c.toNat ≤ 57 := hc.right
    have hz : '0'.toNat = 48 := rfl
    cases h
    rw [hz, ← hn c.toNat (by omega) hl, Char.ofNat_toNat]
    exact ⟨rfl, by omega⟩

theorem filterMap_spelled (h : AllDigits ds) : (spelled ds).filterMap digit? = ds := by
  induction ds
  case nil => rfl
  case cons d ds hi =>
    have ⟨hd, hs⟩ := List.forall_mem_cons.mp h
    exact (List.filterMap_cons_some (digit?_digitChar d hd)).trans (congrArg (d :: ·) (hi hs))

theorem isSome_of_spelled (h : AllDigits ds) : ∀ c ∈ spelled ds, (digit? c).isSome := by
  intro c hc
  have ⟨d, hd, he⟩ := List.mem_map.mp hc
  rw [← he, digit?_digitChar d (h d hd)]
  rfl

theorem takeWhile_spelled_append (h : AllDigits ds) (hr : NoDigitFirst rest) :
    (spelled ds ++ rest).takeWhile (fun c => (digit? c).isSome) = spelled ds := by
  rw [List.takeWhile_append_of_pos (isSome_of_spelled h)]
  cases rest
  case nil => simp
  case cons c rest => simp [hr c rest rfl]

theorem spanDigits_spelled_append (h : AllDigits ds) (hr : NoDigitFirst rest) :
    spanDigits (spelled ds ++ rest) = (ds, rest) := by
  induction ds
  case nil =>
    cases rest
    case nil => rfl
    case cons c rest => simp [spelled, spanDigits, hr c rest rfl]
  case cons d ds hi =>
    have ⟨hd, hs⟩ := List.forall_mem_cons.mp h
    have hi := hi hs
    simp only [spelled, List.map_cons, List.cons_append, spanDigits, digit?_digitChar d hd] at hi ⊢
    rw [hi]

theorem ofDigits_append (ds : List Nat) (d : Nat) :
    ofDigits (ds ++ [d]) = 10 * ofDigits ds + d := by
  simp [ofDigits]

theorem ofDigits_replicate_append (k : Nat) (ds : List Nat) :
    ofDigits (List.replicate k 0 ++ ds) = ofDigits ds := by
  induction k
  case zero => rfl
  case succ k hi => exact hi

-- What is known about the digits of a number.
structure IsDecimal (n : Nat) (ds : List Nat) : Prop where
  digits : AllDigits ds
  value : ofDigits ds = n
  nonempty : ds ≠ []
  -- Only zero itself starts with a zero.
  leading : ∀ d more, ds = d :: more → d = 0 → more = []

theorem natural_eq_spelled (n : Nat) : ∃ ds, natural n = spelled ds ∧ IsDecimal n ds := by
  induction n using Nat.strongRecOn
  case ind n hi =>
    unfold natural
    rw [Nat.toDigits_eq_if (by decide)]
    by_cases h : n < 10
    case pos =>
      rw [if_pos h]
      refine ⟨[n], rfl, by simp [AllDigits, h], ?value, nofun, ?first⟩
      case value => simp [ofDigits]
      case first => rintro d more ⟨⟩ -; rfl
    case neg =>
      rw [if_neg h]
      have ⟨ds, he, hd⟩ := hi (n / 10) (by omega)
      refine ⟨ds ++ [n % 10], ?spelled, ?digits, ?value, by simp, ?first⟩
      case spelled => simp only [spelled, List.map_append] at he ⊢; rw [← he]; rfl
      case digits =>
        intro d hm
        cases List.mem_append.mp hm
        case inl hm => exact hd.digits d hm
        case inr hm => rw [List.mem_singleton.mp hm]; omega
      case value => rw [ofDigits_append, hd.value]; omega
      case first =>
        intro d more he hz
        cases ds
        case nil => cases hd.nonempty rfl
        case cons d' ds =>
          cases he
          cases hd.leading _ _ rfl hz
          have := hd.value
          simp only [hz, ofDigits, List.foldl_cons, List.foldl_nil] at this
          omega

theorem length_spelled (ds : List Nat) : (spelled ds).length = ds.length :=
  List.length_map _

theorem padded_eq_spelled (width n : Nat) :
    ∃ ds, padded width n = spelled ds ∧ AllDigits ds ∧ ofDigits ds = n ∧ width ≤ ds.length ∧
      (0 < width → n < Nat.pow 10 width → ds.length = width) := by
  have ⟨ds, he, hd⟩ := natural_eq_spelled n
  refine ⟨List.replicate (width - ds.length) 0 ++ ds, ?spelled, ?digits, ?value, ?width, ?length⟩
  case spelled => simp [padded, he, spelled]
  case digits =>
    intro d hm
    cases List.mem_append.mp hm
    case inl hm => rw [List.eq_of_mem_replicate hm]; decide
    case inr hm => exact hd.digits d hm
  case value => rw [ofDigits_replicate_append, hd.value]
  case width => rw [List.length_append, List.length_replicate]; omega
  case length =>
    intro hw hn
    have hl : (natural n).length ≤ width := (Nat.length_toDigits_le_iff (by decide) hw).mpr hn
    rw [he, length_spelled] at hl
    rw [List.length_append, List.length_replicate]
    omega

end AnomalyDetection.Decimal

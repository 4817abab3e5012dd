import AnomalyDetection.Time.Calendar

namespace AnomalyDetection.Date

-- A day of an era is taken apart into the century, the group of four years in it, the year in that
-- and the day of the year. All of them but the last have fixed lengths, up to a leap day at the
-- very end.
structure Parts (d c q t u : Int) : Prop where
  day : d = 36524 * c + 1461 * q + 365 * t + u
  century : 0 ≤ c ∧ c ≤ 3
  group : 0 ≤ q ∧ q ≤ 24
  year : 0 ≤ t ∧ t ≤ 3
  rest : 0 ≤ u ∧ u ≤ 365
  -- A day 365 is a leap day; the last year of a century has one just if the century is the last.
  leap : u = 365 → t = 3 ∧ (q = 24 → c = 3)

theorem exists_parts {d : Int} (h₀ : 0 ≤ d) (h₁ : d < 146097) : ∃ c q t u, Parts d c q t u := by
  have ⟨c, hc⟩ : ∃ c, c = min 3 (d / 36524) := ⟨_, rfl⟩
  have ⟨q, hq⟩ : ∃ q, q = min 24 ((d - 36524 * c) / 1461) := ⟨_, rfl⟩
  have ⟨t, ht⟩ : ∃ t, t = min 3 ((d - 36524 * c - 1461 * q) / 365) := ⟨_, rfl⟩
  refine ⟨c, q, t, d - 36524 * c - 1461 * q - 365 * t, ?_⟩
  constructor <;> omega

namespace Parts

variable {d c q t u : Int} (h : Parts d c q t u)

include h

theorem centuries : d / 36524 - d / 146096 = c := by
  obtain ⟨hd, hc, hq, ht, hu, hl⟩ := h
  have hr : (d ≠ 146096 → 1461 * q + 365 * t + u ≤ 36523) ∧ (d = 146096 → c = 3) ∧
    d ≤ 146096 := by omega
  by_cases he : d = 146096
  case pos => omega
  case neg =>
    have hr := hr.left he
    have h₁ : d / 36524 = c := by omega
    have h₂ : d / 146096 = 0 := by omega
    omega

theorem leapDays :
    d / 1460 = 25 * c + q + if 1460 ≤ 24 * c + q + 365 * t + u then 1 else 0 := by
  obtain ⟨hd, hc, hq, ht, hu, -⟩ := h
  split <;> omega

theorem yearOfEra :
    (d - d / 1460 + d / 36524 - d / 146096) / 365 = 100 * c + 4 * q + t := by
  have h₁ := h.centuries
  have h₂ := h.leapDays
  obtain ⟨hd, hc, hq, ht, hu, hl⟩ := h
  have h₃ : d - d / 1460 + d / 36524 - d / 146096 = d - d / 1460 + c := by omega
  rw [h₃, h₂]
  split <;> omega

theorem dayOfYear :
    d - (365 * (100 * c + 4 * q + t) + (100 * c + 4 * q + t) / 4 - (100 * c + 4 * q + t) / 100) =
      u := by
  obtain ⟨hd, hc, hq, ht, -, -⟩ := h
  omega

end Parts

theorem exists_parts_ofDay (n : Int) : ∃ c q t u, Parts ((n + epoch) % 146097) c q t u :=
  exists_parts (Int.emod_nonneg _ (by decide)) (Int.emod_lt_of_pos _ (by decide))

section

variable {n c q t u : Int} (h : Parts ((n + epoch) % 146097) c q t u)

include h

theorem ofDay_eq :
    let year := 100 * c + 4 * q + t + (n + epoch) / 146097 * 400
    let fromMarch := (5 * u + 2) / 153
    let month := if fromMarch < 10 then fromMarch + 3 else fromMarch - 9
    ofDay n = ⟨if month ≤ 2 then year + 1 else year, month.toNat,
      (u - (153 * fromMarch + 2) / 5 + 1).toNat⟩ := by
  simp only [ofDay, h.yearOfEra, h.dayOfYear]

end

-- The day number of a date whose year, before it is moved to January, is given by its parts.
theorem toDay_eq {era y m k : Int} (hy : 0 ≤ y ∧ y ≤ 399) (hm : 0 ≤ m ∧ m ≤ 11) (hk : 1 ≤ k) :
    toDay ⟨if (if m < 10 then m + 3 else m - 9) ≤ 2 then y + era * 400 + 1 else y + era * 400,
      (if m < 10 then m + 3 else m - 9).toNat, k.toNat⟩ =
    era * 146097 + (y * 365 + y / 4 - y / 100 + ((153 * m + 2) / 5 + k - 1)) - epoch := by
  have he : (y + era * 400) / 400 = era := by omega
  have hr : (y + era * 400) % 400 = y := by omega
  by_cases h : m < 10
  case pos =>
    have hl : ¬m + 3 ≤ 2 := by omega
    have hn : ¬(m + 3).toNat ≤ 2 := by omega
    have hc : ((((m + 3).toNat + 9 : Nat) : Int) % 12) = m := by omega
    simp only [toDay, h, hl, hn, if_true, if_false, he, hr]
    omega
  case neg =>
    have hl : m - 9 ≤ 2 := by omega
    have hn : (m - 9).toNat ≤ 2 := by omega
    simp only [toDay, h, hl, hn, if_true, if_false, Int.add_sub_cancel, he, hr]
    omega

theorem toDay_ofDay (n : Int) : (ofDay n).toDay = n := by
  have ⟨c, q, t, u, h⟩ := exists_parts_ofDay n
  have hd := h.dayOfYear
  rw [ofDay_eq h]
  obtain ⟨-, hc, hq, ht, hu, -⟩ := h
  rw [toDay_eq (by omega) (by omega) (by omega)]
  omega

theorem isLeap_of_last {c q : Int} (era : Int) (h : q = 24 → c = 3) (hq : 0 ≤ q ∧ q ≤ 24) :
    isLeap (100 * c + 4 * q + 3 + era * 400 + 1) := by
  have h₄ : (100 * c + 4 * q + 3 + era * 400 + 1) % 4 = 0 := by omega
  have h₁ : (100 * c + 4 * q + 3 + era * 400 + 1) % 100 ≠ 0 ∨
    (100 * c + 4 * q + 3 + era * 400 + 1) % 400 = 0 := by omega
  simpa [isLeap, h₄] using h₁

theorem le_february (year : Int) : 28 ≤ monthLength year 2 := by
  cases h : isLeap year <;> simp [monthLength, h]

theorem isValid_ofDay (n : Int) : (ofDay n).isValid := by
  have ⟨c, q, t, u, h⟩ := exists_parts_ofDay n
  rw [ofDay_eq h]
  obtain ⟨-, -, hq, -, hu, hl⟩ := h
  generalize hm : (5 * u + 2) / 153 = m
  have hr : m = 0 ∨ m = 1 ∨ m = 2 ∨ m = 3 ∨ m = 4 ∨ m = 5 ∨ m = 6 ∨ m = 7 ∨ m = 8 ∨ m = 9 ∨
    m = 10 ∨ m = 11 := by omega
  rcases hr with rfl | rfl | rfl | rfl | rfl | rfl | rfl | rfl | rfl | rfl | rfl | rfl
  all_goals simp only [isValid, Bool.and_eq_true, decide_eq_true_eq]
  all_goals refine ⟨⟨⟨by decide, by decide⟩, by omega⟩, ?_⟩
  -- From March on the months have their fixed lengths. February comes last.
  case inr.inr.inr.inr.inr.inr.inr.inr.inr.inr.inr =>
    by_cases hu : u = 365
    case pos =>
      have ⟨ht, hq'⟩ := hl hu
      subst hu ht
      have hy := isLeap_of_last ((n + epoch) / 146097) hq' hq
      have hf : 29 ≤ monthLength _ 2 := Nat.le_of_eq (if_pos hy).symm
      exact hf
    case neg => exact Nat.le_trans (by omega) (le_february _)
  all_goals first
    | change _ ≤ 31; omega
    | change _ ≤ 30; omega

theorem monthLength_le (year : Int) (month : Nat) : monthLength year month ≤ 31 := by
  unfold monthLength
  split
  case h_1 => split <;> decide
  all_goals decide

theorem bounds_of_isValid {d : Date} (h : d.isValid) :
    (1 ≤ d.month ∧ d.month ≤ 12) ∧ 1 ≤ d.day ∧ d.day ≤ 31 := by
  simp only [isValid, Bool.and_eq_true, decide_eq_true_eq] at h
  obtain ⟨⟨⟨h₁, h₂⟩, h₃⟩, h₄⟩ := h
  exact ⟨⟨h₁, h₂⟩, h₃, Nat.le_trans h₄ (monthLength_le ..)⟩

-- Years have about as many days as they should.
theorem year_ofDay_bounds {n : Int} (k : Nat) (h : -(k * 146097) ≤ n ∧ n ≤ k * 146097) :
    -(k * 400) ≤ (ofDay n).year ∧ (ofDay n).year ≤ k * 400 + 2400 := by
  have ⟨c, q, t, u, hp⟩ := exists_parts_ofDay n
  rw [ofDay_eq hp]
  obtain ⟨-, hc, hq, ht, -, -⟩ := hp
  simp only [epoch]
  split <;> omega

end AnomalyDetection.Date

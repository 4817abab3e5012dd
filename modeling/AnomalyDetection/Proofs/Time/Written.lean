import AnomalyDetection.Proofs.Decimal.Integer
import AnomalyDetection.Proofs.Time.Calendar
import AnomalyDetection.Proofs.Time.Reader

namespace AnomalyDetection.Instant

open Decimal (spelled AllDigits NoDigitFirst noDigitFirst_cons digit? digit?_digitChar
  digitChar_ne_sign padded)

namespace Scan

-- A scan that takes something off the front of a text.
def Takes (scan : Scan α) (s : List Char) (a : α) (rest : List Char) : Prop :=
  scan.run s = .ok (a, rest)

theorem Takes.bind {scan : Scan α} {next : α → Scan β} {s rest last : List Char} {a : α} {b : β}
    (h : Takes scan s a rest) (h' : Takes (next a) rest b last) :
    Takes (scan >>= next) s b last := by
  unfold Takes at *
  rw [StateT.run_bind, h]
  exact h'

theorem takes_pure (a : α) (s : List Char) : Takes (pure a) s a s := rfl

theorem takes_oneOf {c : Char} {cs : List Char} (h : c ∈ cs) (rest : List Char) :
    Takes (oneOf cs) (c :: rest) () rest := by
  simp only [Takes, oneOf, StateT.run_bind, StateT.run_get, pure_bind, h, if_true]
  rfl

theorem noDigitFirst_take {s : List Char} (h : NoDigitFirst s) (n : Nat) :
    NoDigitFirst (s.take n) := by
  intro c rest he
  cases n <;> cases s <;> cases he
  exact h _ _ rfl

theorem takes_number {ds : List Nat} {rest : List Char} {least most : Nat} (h : AllDigits ds)
    (hr : NoDigitFirst rest) (hl : least ≤ ds.length) (hm : ds.length ≤ most) :
    Takes (number least most) (spelled ds ++ rest) (Decimal.ofDigits ds) rest := by
  have ht : ((spelled ds ++ rest).take most).takeWhile (fun c => (digit? c).isSome) =
      spelled ds := by
    rw [List.take_append, List.take_of_length_le (Decimal.length_spelled ds ▸ hm)]
    exact Decimal.takeWhile_spelled_append h (noDigitFirst_take hr _)
  have hn : ¬(spelled ds).length < least := Decimal.length_spelled ds ▸ Nat.not_lt.mpr hl
  simp only [Takes, number, StateT.run_bind, StateT.run_get, pure_bind, ht, hn, if_false]
  simp only [List.drop_left, Decimal.filterMap_spelled h]
  rfl

theorem takes_ranged {ds : List Nat} {rest : List Char} {least most low high : Nat}
    (h : AllDigits ds) (hr : NoDigitFirst rest) (hl : least ≤ ds.length) (hm : ds.length ≤ most)
    (hb : low ≤ Decimal.ofDigits ds ∧ Decimal.ofDigits ds ≤ high) :
    Takes (ranged least most low high) (spelled ds ++ rest) (Decimal.ofDigits ds) rest := by
  refine (takes_number h hr hl hm).bind ?_
  rw [if_pos hb]
  exact takes_pure ..

theorem isBlank_digitChar : ∀ d < 10, Text.isBlank (Nat.digitChar d) = false := by
  decide

theorem takes_blanks {c : Char} (h : Text.isBlank c = false) (rest : List Char) :
    Takes blanks (c :: rest) () (c :: rest) := by
  have ht : Text.trimStart (c :: rest) = c :: rest := by rw [Text.trimStart_cons, h]; rfl
  simp only [Takes, blanks, StateT.run_modify, ht]
  rfl

theorem takes_looseMark {c : Char} (h : Text.isBlank c = false) (rest : List Char) :
    Takes (looseMark c) (c :: rest) () rest :=
  (takes_blanks h rest).bind (takes_oneOf (List.mem_singleton_self c) rest)

theorem takes_blanks_spelled {ds : List Nat} (h : AllDigits ds) (hn : ds ≠ [])
    (rest : List Char) : Takes blanks (spelled ds ++ rest) () (spelled ds ++ rest) := by
  cases ds
  case nil => cases hn rfl
  case cons d ds => exact takes_blanks (isBlank_digitChar d (h d (.head _))) _

-- A field that is written with two digits.
theorem takes_looseField {n low high : Nat} {rest : List Char} (h : n < 100)
    (hr : NoDigitFirst rest) (hb : low ≤ n ∧ n ≤ high) :
    Takes (looseField low high) (padded 2 n ++ rest) n rest := by
  have ⟨ds, he, hd, hv, _, hl⟩ := Decimal.padded_eq_spelled 2 n
  have hw : ds.length = 2 := hl (by decide) h
  have hn : ds ≠ [] := by rintro rfl; cases hw
  subst hv
  rw [he]
  exact (takes_blanks_spelled hd hn rest).bind
    (takes_ranged hd hr (by omega) (Nat.le_of_eq hw) hb)

theorem takes_get (s : List Char) : Takes get s s s := rfl

theorem takes_set (s s' : List Char) : Takes (set s') s () s' := rfl

theorem takes_looseYear {year : Int} {rest : List Char} (hr : NoDigitFirst rest)
    (hb : -2147483648 ≤ year ∧ year < 2147483648) :
    Takes looseYear (yearText year ++ rest) year rest := by
  have hc : Takes (if -2147483648 ≤ year ∧ year < 2147483648 then pure year else throw .outOfRange)
      rest year rest := by
    rw [if_pos hb]
    exact takes_pure ..
  unfold yearText looseYear
  split
  case isTrue hy =>
    have ⟨ds, he, hd, hv, _, hl⟩ := Decimal.padded_eq_spelled 4 year.toNat
    have hn : year.toNat < 10000 := by omega
    have hw : ds.length = 4 := hl (by decide) hn
    have hn : ds ≠ [] := by rintro rfl; cases hw
    have ha : (Decimal.ofDigits ds : Int) = year := by omega
    rw [he]
    refine (takes_blanks_spelled hd hn rest).bind ((takes_get _).bind ?_)
    dsimp only
    split
    case h_1 hs =>
      obtain _ | ⟨d, ds⟩ := ds
      case nil => cases hn rfl
      case cons => cases (digitChar_ne_sign d (hd d (.head _))).left (List.cons.inj hs).left
    case h_2 hs =>
      obtain _ | ⟨d, ds⟩ := ds
      case nil => cases hn rfl
      case cons => cases (digitChar_ne_sign d (hd d (.head _))).right (List.cons.inj hs).left
    case h_3 =>
      refine (takes_number hd hr (by omega) (by omega)).bind ?_
      rw [pure_bind, ha]
      exact hc
  case isFalse hy =>
    have ⟨ds, he, hd, hv, hl, _⟩ := Decimal.padded_eq_spelled 4 year.natAbs
    have hm : ds.length ≤ (spelled ds ++ rest).length := by
      rw [List.length_append, Decimal.length_spelled]
      omega
    rw [he]
    by_cases hs : year < 0
    case pos =>
      have ha : -(Decimal.ofDigits ds : Int) = year := by omega
      rw [if_pos hs]
      refine (takes_blanks (by decide) _).bind ((takes_get _).bind ?_)
      refine (takes_set _ _).bind ((takes_number hd hr (by omega) hm).bind ?_)
      rw [pure_bind, ha]
      exact hc
    case neg =>
      have ha : (Decimal.ofDigits ds : Int) = year := by omega
      rw [if_neg hs]
      refine (takes_blanks (by decide) _).bind ((takes_get _).bind ?_)
      refine (takes_set _ _).bind ((takes_number hd hr (by omega) hm).bind ?_)
      rw [pure_bind, ha]
      exact hc

theorem takes_offset : Takes looseOffset ['Z'] 0 [] := rfl

-- The digits behind the point, of which there may be up to nine.
theorem takes_fraction_padded (width n : Nat) {rest : List Char} (hr : NoDigitFirst rest)
    (hw : 0 < width ∧ width ≤ 9) (hn : n < Nat.pow 10 width) :
    Takes fraction ('.' :: padded width n ++ rest) (n * Nat.pow 10 (9 - width)) rest := by
  have ⟨ds, he, hd, hv, _, hl⟩ := Decimal.padded_eq_spelled width n
  have hl : ds.length = width := hl hw.left hn
  have hs : ds ≠ [] := by rintro rfl; exact absurd hl (Nat.ne_of_lt hw.left)
  rw [he]
  refine (takes_get _).bind ?_
  simp only [List.cons_append, Decimal.spanDigits_spelled_append hd hr, hs, if_false]
  refine (takes_set _ _).bind ?_
  rw [List.take_of_length_le (hl ▸ hw.right), hv, hl]
  exact takes_pure ..

theorem takes_fraction {nanos : Nat} (h : nanos < giga) :
    Takes fraction (fractionText nanos ++ ['Z']) nanos ['Z'] := by
  have hr : NoDigitFirst ['Z'] := by rintro c rest ⟨⟩; rfl
  unfold fractionText
  by_cases h₀ : nanos = 0
  case pos => rw [if_pos h₀, h₀]; rfl
  case neg =>
  simp only [giga] at h
  rw [if_neg h₀]
  by_cases h₃ : nanos % 1000000 = 0
  case pos =>
    have he : nanos / 1000000 * 1000000 = nanos := by omega
    have hn : nanos / 1000000 < 1000 := by omega
    have ht : Takes fraction _ (nanos / 1000000 * 1000000) _ :=
      takes_fraction_padded 3 (nanos / 1000000) hr (by decide) hn
    rw [if_pos h₃]
    rwa [he] at ht
  case neg =>
  rw [if_neg h₃]
  by_cases h₆ : nanos % 1000 = 0
  case pos =>
    have he : nanos / 1000 * 1000 = nanos := by omega
    have hn : nanos / 1000 < 1000000 := by omega
    have ht : Takes fraction _ (nanos / 1000 * 1000) _ :=
      takes_fraction_padded 6 (nanos / 1000) hr (by decide) hn
    rw [if_pos h₆]
    rwa [he] at ht
  case neg =>
    have ht : Takes fraction _ (nanos * 1) _ := takes_fraction_padded 9 nanos hr (by decide) h
    rw [if_neg h₆]
    rwa [Nat.mul_one] at ht

theorem noDigitFirst_fractionText (nanos : Nat) (rest : List Char) :
    NoDigitFirst (fractionText nanos ++ 'Z' :: rest) := by
  unfold fractionText
  split
  case isTrue => exact noDigitFirst_cons rfl _
  case isFalse =>
    split
    case isTrue => exact noDigitFirst_cons rfl _
    case isFalse => split <;> exact noDigitFirst_cons rfl _

theorem year_bounds {t : Instant} (h : t.InRange) :
    -2147483648 ≤ (Date.ofDay t.day).year ∧ (Date.ofDay t.day).year < 2147483648 := by
  have hf : firstDay = -96465292 := by decide
  have hl : lastDay = 95026236 := by decide
  have ⟨h₁, h₂⟩ := h
  have ⟨h₁, h₂⟩ := Date.year_ofDay_bounds (n := t.day) 661 (by omega)
  omega

-- The fields of a written instant.
def fieldsOf (t : Instant) : Fields :=
  ⟨Date.ofDay t.day, t.second / 3600, t.second / 60 % 60, t.second % 60 + t.nanosecond / giga,
    t.nanosecond % giga, 0⟩

-- Only a leap second is the second 60.
theorem second_eq {t : Instant} (h : t.Aligned) :
    if giga ≤ t.nanosecond then t.second % 60 = 59 ∧ t.nanosecond / giga = 1
    else t.nanosecond / giga = 0 := by
  have hn := t.nanosecond_lt
  split
  case isTrue hl =>
    refine ⟨h (decide_eq_true hl), ?_⟩
    simp only [giga] at *
    omega
  case isFalse hl => exact Nat.div_eq_of_lt (Nat.lt_of_not_le hl)

theorem second_le {t : Instant} (h : t.Aligned) : t.second % 60 + t.nanosecond / giga ≤ 60 := by
  have hs := second_eq h
  split at hs <;> omega

theorem takes_loose {t : Instant} (hr : t.InRange) (ha : t.Aligned) :
    Takes loose t.written (fieldsOf t) [] := by
  have hd := Date.bounds_of_isValid (Date.isValid_ofDay t.day)
  have hs := t.second_lt
  have hl := second_le ha
  unfold loose written
  simp only [List.append_assoc, List.cons_append]
  have noDigit {c : Char} (h : digit? c = none) (rest : List Char) := noDigitFirst_cons h rest
  refine (takes_looseYear (noDigit rfl _) (year_bounds hr)).bind ?_
  refine (takes_looseMark rfl _).bind ?_
  refine (takes_looseField (by omega) (noDigit rfl _) hd.left).bind ?_
  refine (takes_looseMark rfl _).bind ?_
  refine (takes_looseField (by omega) (noDigit rfl _) hd.right).bind ?_
  refine (takes_oneOf (by decide) _).bind ?_
  refine (takes_looseField (by omega) (noDigit rfl _) (by omega)).bind ?_
  refine (takes_looseMark rfl _).bind ?_
  refine (takes_looseField (by omega) (noDigit rfl _) (by omega)).bind ?_
  refine (takes_looseMark rfl _).bind ?_
  refine (takes_looseField (Nat.lt_of_le_of_lt hl (by decide)) (noDigitFirst_fractionText _ _)
    ⟨Nat.zero_le _, hl⟩).bind ?_
  refine (takes_fraction (Nat.mod_lt _ (by decide))).bind ?_
  exact takes_offset.bind (takes_pure ..)

end Scan

theorem ofParts_second (t : Instant) :
    (ofParts t.day t.second 0).day = t.day ∧ (ofParts t.day t.second 0).second = t.second := by
  have hs := t.second_lt
  simp only [ofParts, Int.zero_ediv, Int.add_zero]
  omega

theorem instant_fieldsOf {t : Instant} (hr : t.InRange) (ha : t.Aligned) :
    (Scan.fieldsOf t).instant = .ok t := by
  have ⟨h₁, h₂⟩ := hr
  have hd : ¬(!(Date.ofDay t.day).isValid || decide (t.day < firstDay) ||
      decide (lastDay < t.day)) = true := by
    simp only [Date.isValid_ofDay, Bool.not_true, Bool.false_or, Bool.or_eq_true,
      decide_eq_true_eq]
    omega
  have ho : ¬((0 : Int) ≤ -86400 ∨ (86400 : Int) ≤ 0) := by decide
  have he := Scan.second_eq ha
  have hn : (if t.second % 60 + t.nanosecond / giga = 60 then giga else 0) +
      t.nanosecond % giga = t.nanosecond := by
    have hm := Nat.div_add_mod t.nanosecond giga
    split at he
    case isTrue => rw [he.left, he.right, if_pos rfl]; rw [he.right] at hm; omega
    case isFalse => rw [he, if_neg (by omega)]; rw [he] at hm; omega
  have hs : ((t.second / 3600 : Nat) : Int) * 3600 + ((t.second / 60 % 60 : Nat) : Int) * 60 +
      ((if t.second % 60 + t.nanosecond / giga = 60 then 59
        else t.second % 60 + t.nanosecond / giga : Nat) : Int) - 0 = t.second := by
    split at he
    case isTrue => rw [he.left, he.right, if_pos rfl]; omega
    case isFalse => rw [he, if_neg (by omega)]; omega
  unfold Scan.Fields.instant Scan.fieldsOf
  simp only [Date.toDay_ofDay, hs, hn, ofParts_second, t.nanosecond_lt, dif_pos]
  rw [if_neg hd, if_neg ho]
  exact if_pos hr

theorem ofLooseText_written {t : Instant} (hr : t.InRange) (ha : t.Aligned) :
    ofLooseText t.written = .ok t := by
  have h : Scan.loose.run t.written = .ok (Scan.fieldsOf t, []) := Scan.takes_loose hr ha
  unfold ofLooseText
  rw [h]
  exact instant_fieldsOf hr ha

end AnomalyDetection.Instant

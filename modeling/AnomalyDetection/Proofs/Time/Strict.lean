import AnomalyDetection.Proofs.Decimal.Whole
import AnomalyDetection.Proofs.Text.Blank
import AnomalyDetection.Proofs.Time.Written

namespace AnomalyDetection.Instant

open Decimal (spelled AllDigits NoDigitFirst noDigitFirst_cons digit? padded)

-- The years that are written with four digits.
def HasPlainYear (t : Instant) : Prop :=
  0 ≤ (Date.ofDay t.day).year ∧ (Date.ofDay t.day).year ≤ 9999

instance (t : Instant) : Decidable t.HasPlainYear := inferInstanceAs (Decidable (_ ∧ _))

namespace Scan

section Reading

-- A field that is written with two digits.
theorem takes_field {n low high : Nat} {rest : List Char} (h : n < 100)
    (hr : NoDigitFirst rest) (hb : low ≤ n ∧ n ≤ high) :
    Takes (ranged 2 2 low high) (padded 2 n ++ rest) n rest := by
  have ⟨ds, he, hd, hv, _, hl⟩ := Decimal.padded_eq_spelled 2 n
  have hw : ds.length = 2 := hl (by decide) h
  subst hv
  rw [he]
  exact takes_ranged hd hr (Nat.le_of_eq hw.symm) (Nat.le_of_eq hw) hb

theorem takes_year {year : Int} {rest : List Char} (hr : NoDigitFirst rest)
    (hy : 0 ≤ year ∧ year ≤ 9999) :
    Takes (number 4 4) (yearText year ++ rest) year.toNat rest := by
  have ⟨ds, he, hd, hv, _, hl⟩ := Decimal.padded_eq_spelled 4 year.toNat
  have hn : year.toNat < 10000 := by omega
  have hw : ds.length = 4 := hl (by decide) hn
  rw [yearText, if_pos hy, he, ← hv]
  exact takes_number hd hr (Nat.le_of_eq hw.symm) (Nat.le_of_eq hw)

theorem takes_zulu (between : Scan Unit) : Takes (offset between) ['Z'] 0 [] := rfl

theorem takes_strict {t : Instant} (ha : t.Aligned) (hy : t.HasPlainYear) :
    Takes strict t.written (fieldsOf t) [] := by
  have hd := Date.bounds_of_isValid (Date.isValid_ofDay t.day)
  have hs := t.second_lt
  have hl := second_le ha
  have hn : ((Date.ofDay t.day).year.toNat : Int) = (Date.ofDay t.day).year :=
    Int.toNat_of_nonneg hy.left
  unfold strict written
  simp only [List.append_assoc, List.cons_append]
  have noDigit {c : Char} (h : digit? c = none) (rest : List Char) := noDigitFirst_cons h rest
  have takes_mark (c : Char) (rest : List Char) : Takes (oneOf [c]) (c :: rest) () rest :=
    takes_oneOf (List.mem_singleton_self c) rest
  refine (takes_year (noDigit rfl _) hy).bind ?_
  refine (takes_mark '-' _).bind ?_
  refine (takes_field (by omega) (noDigit rfl _) hd.left).bind ?_
  refine (takes_mark '-' _).bind ?_
  refine (takes_field (by omega) (noDigit rfl _) hd.right).bind ?_
  refine (takes_oneOf (by decide) _).bind ?_
  refine (takes_field (by omega) (noDigit rfl _) (by omega)).bind ?_
  refine (takes_mark ':' _).bind ?_
  refine (takes_field (by omega) (noDigit rfl _) (by omega)).bind ?_
  refine (takes_mark ':' _).bind ?_
  refine (takes_field (Nat.lt_of_le_of_lt hl (by decide)) (noDigitFirst_fractionText _ _)
    ⟨Nat.zero_le _, hl⟩).bind ?_
  refine (takes_fraction (Nat.mod_lt _ (by decide))).bind ?_
  rw [hn]
  exact (takes_zulu _).bind (takes_pure ..)

end Reading

section Failing

variable {s rest : List Char}

theorem Takes.of_bind {scan : Scan α} {next : α → Scan β} {last : List Char} {b : β}
    (h : Takes (scan >>= next) s b last) :
    ∃ a rest, Takes scan s a rest ∧ Takes (next a) rest b last := by
  unfold Takes at h
  rw [StateT.run_bind] at h
  have ⟨⟨a, rest⟩, ha, hb⟩ := Outcome.bind_eq_ok h
  exact ⟨a, rest, ha, hb⟩

theorem of_takes_oneOf {cs : List Char} (h : Takes (oneOf cs) s () rest) :
    ∃ c ∈ cs, s = c :: rest := by
  unfold oneOf at h
  have ⟨_, _, hg, h⟩ := h.of_bind
  cases hg
  split at h
  case h_1 => cases h
  case h_2 =>
    split at h
    case isTrue hc => cases h; exact ⟨_, hc, rfl⟩
    case isFalse => cases h

theorem of_takes_number {least most n : Nat} (h : Takes (number least most) s n rest) :
    ∃ front, least ≤ front.length ∧ s = front ++ rest := by
  unfold number at h
  have ⟨_, _, hg, h⟩ := h.of_bind
  cases hg
  generalize hd : (s.take most).takeWhile (fun c => (digit? c).isSome) = ds at h
  have hl : ds.length ≤ s.length :=
    hd ▸ (List.takeWhile_sublist _).length_le.trans (List.length_take_le' ..)
  by_cases hn : ds.length < least
  case pos =>
    rw [if_pos hn] at h
    cases h
  case neg =>
    rw [if_neg hn] at h
    cases h
    refine ⟨s.take ds.length, ?_, (List.take_append_drop ..).symm⟩
    rw [List.length_take_of_le hl]
    exact Nat.not_lt.mp hn

theorem of_takes_strict {f : Fields} (h : Takes strict s f rest) :
    ∃ front more, front ≠ [] ∧ s = front ++ '-' :: more := by
  have ⟨_, behind, hn, h⟩ := h.of_bind
  have ⟨front, hl, hs⟩ := of_takes_number hn
  have ⟨_, more, ho, _⟩ := h.of_bind
  have ⟨c, hc, hb⟩ := of_takes_oneOf ho
  cases List.mem_singleton.mp hc
  exact ⟨front, more, List.ne_nil_of_length_pos (by omega), hb ▸ hs⟩

end Failing

theorem yields_strict : Yields strict Fields.Sound := by
  unfold strict
  refine .skip fun year => .skip fun _ => .skip fun month => .skip fun _ => .skip fun day => ?_
  refine .skip fun _ => .skip fun hour => .skip fun _ => .skip fun minute => .skip fun _ => ?_
  refine .skip fun second => yields_fraction.bind fun nanosecond hn => ?_
  exact (yields_offset _).bind fun offset ho => yields_pure ⟨hn, ho⟩

end Scan

variable {s : List Char} {t : Instant}

theorem ofText?_eq_some (h : ofText? s = some t) :
    ∃ f, Scan.Takes Scan.strict s f [] ∧ f.instant = .ok t := by
  have ⟨⟨f, rest⟩, hf, h⟩ := Option.bind_eq_some_iff.mp h
  dsimp only at h
  split at h
  case isTrue hr =>
    exact ⟨f, hr ▸ Outcome.eq_ok_of_toOption hf, Outcome.eq_ok_of_toOption h⟩
  case isFalse => cases h

theorem aligned_of_ofText? (h : ofText? s = some t) : t.Aligned := by
  have ⟨f, hf, h⟩ := ofText?_eq_some h
  exact aligned_of_fields (Scan.yields_strict _ _ _ hf) h

-- No text is a whole number and an instant.
theorem signed?_of_ofText? (h : ofText? s = some t) (bound : Nat) :
    Decimal.signed? bound s = none := by
  have ⟨f, hf, _⟩ := ofText?_eq_some h
  obtain ⟨front, more, hn, rfl⟩ := Scan.of_takes_strict hf
  obtain ⟨c, front, rfl⟩ := List.exists_cons_of_ne_nil hn
  refine Option.eq_none_iff_forall_ne_some.mpr fun n he => ?_
  refine (Decimal.signed?_eq_some.mp he).left.dash_notMem_tail ?_
  simp

theorem inRange_of_plainYear (h : t.HasPlainYear) : t.InRange := by
  have hf : firstDay = -96465292 := by decide
  have hl : lastDay = 95026236 := by decide
  have hd := Date.bounds_of_isValid (Date.isValid_ofDay t.day)
  have ht := Date.toDay_ofDay t.day
  unfold HasPlainYear at h
  generalize Date.ofDay t.day = d at *
  simp only [Date.toDay, Date.epoch] at ht
  unfold InRange
  split at ht <;> omega

theorem ofText?_written (ha : t.Aligned) (hy : t.HasPlainYear) : ofText? t.written = some t := by
  have h : Scan.strict.run t.written = .ok (Scan.fieldsOf t, []) := Scan.takes_strict ha hy
  unfold ofText?
  rw [h]
  exact congrArg Except.toOption (instant_fieldsOf (inRange_of_plainYear hy) ha)

theorem isBlank_of_spelled {ds : List Nat} (h : AllDigits ds) :
    ∀ c ∈ spelled ds, Text.isBlank c = false := by
  intro c hc
  have ⟨d, hd, he⟩ := List.mem_map.mp hc
  exact he ▸ Scan.isBlank_digitChar d (h d hd)

theorem trim_written (h : t.HasPlainYear) : Text.trim t.written = t.written := by
  have hp (width n : Nat) : ∀ c ∈ padded width n, Text.isBlank c = false := by
    have ⟨ds, he, hd, _⟩ := Decimal.padded_eq_spelled width n
    exact he ▸ isBlank_of_spelled hd
  have hf (nanos : Nat) : ∀ c ∈ fractionText nanos, Text.isBlank c = false := by
    unfold fractionText
    repeat' split
    case isTrue => exact List.forall_mem_nil _
    all_goals exact List.forall_mem_cons.mpr ⟨rfl, hp _ _⟩
  refine Text.trim_of_forall ?_
  have hy : yearText (Date.ofDay t.day).year = padded 4 (Date.ofDay t.day).year.toNat := if_pos h
  simp only [written, hy, List.forall_mem_append, List.forall_mem_cons]
  exact ⟨⟨⟨⟨⟨⟨⟨hp _ _, rfl, hp _ _⟩, rfl, hp _ _⟩, rfl, hp _ _⟩, rfl, hp _ _⟩, rfl, hp _ _⟩, hf _⟩,
    rfl, List.forall_mem_nil _⟩

end AnomalyDetection.Instant

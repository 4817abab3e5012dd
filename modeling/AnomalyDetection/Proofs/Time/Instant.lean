import AnomalyDetection.Proofs.Outcome
import AnomalyDetection.Time.Json

namespace AnomalyDetection.Instant

-- The instants that a count of milliseconds can stand for.
structure IsWholeMillis (t : Instant) : Prop where
  noLeap : t.inLeapSecond = false
  whole : t.nanosecond % 1000000 = 0

theorem inRange_of_checked? {t u : Instant} (h : t.checked? = some u) : u.InRange := by
  unfold checked? at h
  split at h
  case isTrue hr => cases h; exact hr
  case isFalse => cases h

theorem inRange_of_ofMillis {ms : Int} {t : Instant} (h : ofMillis ms = .ok t) : t.InRange := by
  unfold ofMillis at h
  split at h
  case h_1 ht => cases h; exact inRange_of_checked? ht
  case h_2 => cases h

-- What the fields say of an instant: a leap second is the one behind the last of its minute.
theorem fields_instant {f : Scan.Fields} {t : Instant} (h : f.instant = .ok t) :
    t.InRange ∧
    t.nanosecond = (if f.second = 60 then giga else 0) + f.nanosecond ∧
    t.second = (ofParts 0 (f.hour * 3600 + f.minute * 60 +
      (if f.second = 60 then 59 else f.second : Nat) - f.offset) 0).second := by
  unfold Scan.Fields.instant at h
  dsimp only at h
  split at h
  case isTrue => cases h
  split at h
  case isTrue => cases h
  generalize (if f.second = 60 then giga else 0) + f.nanosecond = nanosecond at h ⊢
  split at h
  case isFalse => cases h
  generalize (if f.second = 60 then 59 else f.second) = second at h ⊢
  split at h
  case isTrue hr => cases h; exact ⟨hr, rfl, rfl⟩
  case isFalse => cases h

theorem inRange_of_fields {f : Scan.Fields} {t : Instant} (h : f.instant = .ok t) : t.InRange :=
  (fields_instant h).left

theorem inRange_of_ofText? {s : List Char} {t : Instant} (h : ofText? s = some t) : t.InRange := by
  have ⟨⟨f, rest⟩, _, h⟩ := Option.bind_eq_some_iff.mp h
  dsimp only at h
  split at h
  case isFalse => cases h
  case isTrue =>
    cases hf : f.instant <;> rw [hf] at h <;> cases h
    exact inRange_of_fields hf

theorem inRange_of_ofTimestampText {s : List Char} {t : Instant} (h : ofTimestampText s = .ok t) :
    t.InRange := by
  unfold ofTimestampText at h
  dsimp only at h
  split at h
  case h_1 => exact inRange_of_ofMillis h
  case h_2 =>
    split at h
    case h_1 ht => cases h; exact inRange_of_ofText? ht
    case h_2 => cases h

theorem inRange_of_ofTimestamp {j : Json} {t : Instant} (h : ofTimestamp j = .ok t) :
    t.InRange := by
  unfold ofTimestamp at h
  split at h
  case h_1 => exact inRange_of_ofMillis h
  case h_2 => exact inRange_of_ofTimestampText h
  case h_3 => cases h

theorem ofParts_epochMillis {t : Instant} (h : t.IsWholeMillis) :
    ofParts 0 (t.epochMillis / 1000) (t.epochMillis % 1000 * 1000000) = t := by
  have hs := t.second_lt
  have hn : t.nanosecond < 1000000000 := by
    exact Nat.lt_of_not_le (of_decide_eq_false h.noLeap)
  have hw := h.whole
  ext <;> simp only [ofParts, epochMillis, giga] <;> omega

theorem ofMillis_epochMillis {t : Instant} (h : t.IsWholeMillis) (hr : t.InRange) :
    ofMillis t.epochMillis = .ok t := by
  simp only [ofMillis, ofEpochMillis?, ofParts_epochMillis h, checked?, hr, if_true]

end Instant

theorem Json.Decoder.inRange_of_timestamp {s : Setting} {d : Document} {t : Instant}
    (h : timestamp s d = .ok (some t)) : t.InRange := by
  have ⟨j, _, h⟩ := Outcome.bind_eq_ok h
  cases j
  case none => cases h
  case some j =>
    have ⟨u, hu, he⟩ := Outcome.map_eq_ok (Outcome.mapError_eq_ok h)
    cases he
    exact Instant.inRange_of_ofTimestamp hu

end AnomalyDetection

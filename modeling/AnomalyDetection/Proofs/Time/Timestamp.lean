import AnomalyDetection.Proofs.Json.Integers
import AnomalyDetection.Proofs.Time.Clock
import AnomalyDetection.Proofs.Time.Strict

namespace AnomalyDetection

theorem Decimal.SpellsWhole.isBlank {s : List Char} {n : Int} (h : SpellsWhole s n) :
    ∀ c ∈ s, Text.isBlank c = false := by
  cases h
  case bare hd => exact Instant.isBlank_of_spelled hd.digits
  case plus hd => exact List.forall_mem_cons.mpr ⟨rfl, Instant.isBlank_of_spelled hd.digits⟩
  case minus hd => exact List.forall_mem_cons.mpr ⟨rfl, Instant.isBlank_of_spelled hd.digits⟩

namespace Instant

-- The values that a count of milliseconds is given by: its literal, and its digits in a string,
-- with any sign that fits and blanks around.
inductive Spelling (ms : Int) : Json → Prop
  | literal {j : Json} : Json.read? ((Decimal.integer ms).map some) = some j → Spelling ms j
  | digits {before s after : List Char} : Text.allBlank before → Decimal.SpellsWhole s ms →
    Text.allBlank after → Spelling ms (.string (String.ofList (before ++ s ++ after)))

-- The counts of the instants in range.
def MillisInRange (ms : Int) : Prop := firstDay * 86400000 ≤ ms ∧ ms < (lastDay + 1) * 86400000

variable {ms : Int} {j : Json} {t : Instant} {s : List Char}

theorem millisInRange_iff :
    MillisInRange ms ↔ -8334601228800000 ≤ ms ∧ ms < 8210266876800000 := by
  have hf : firstDay * 86400000 = -8334601228800000 := by decide
  have hl : (lastDay + 1) * 86400000 = 8210266876800000 := by decide
  rw [MillisInRange, hf, hl]

theorem millisInRange_epochMillis (h : t.InRange) (hw : t.IsWholeMillis) :
    MillisInRange t.epochMillis := by
  have ⟨h₁, h₂⟩ := h
  have hs := t.second_lt
  have hn : t.nanosecond < 1000000000 := Nat.lt_of_not_le (of_decide_eq_false hw.noLeap)
  unfold MillisInRange epochMillis
  omega

-- There is one of them for every count.
theorem exists_of_millisInRange (h : MillisInRange ms) :
    ∃ t : Instant, t.InRange ∧ t.IsWholeMillis ∧ t.epochMillis = ms := by
  unfold MillisInRange at h
  refine ⟨ofParts 0 (ms / 1000) (ms % 1000 * 1000000), ?range,
    ⟨inLeapSecond_ofParts .., ?whole⟩, ?count⟩
  case range => simp only [InRange, ofParts, giga]; omega
  case whole => simp only [ofParts, giga]; omega
  case count => simp only [epochMillis, ofParts, giga]; omega

theorem ofMillis_eq_error (h : ¬MillisInRange ms) : ∃ e, ofMillis ms = .error e := by
  have hr : ¬(ofParts 0 (ms / 1000) (ms % 1000 * 1000000)).InRange := by
    have hd : (ofParts 0 (ms / 1000) (ms % 1000 * 1000000)).day = ms / 86400000 := by
      simp only [ofParts, giga]
      omega
    rw [InRange, hd]
    unfold MillisInRange at h
    omega
  simp only [ofMillis, ofEpochMillis?, checked?, if_neg hr]
  exact ⟨_, rfl⟩

-- What is read of a number lies in the range only if the number is the count itself.
theorem ofTimestamp_number {m : Json.Number} (h : m.StandsFor ms) :
    ofTimestamp (.number m) = ofMillis ms ∨
      ¬MillisInRange ms ∧ ∃ e, ofTimestamp (.number m) = .error e := by
  have ho : ofTimestamp (.number m) = ofMillis m.whole := rfl
  rw [ho]
  rcases h with he | ⟨hn, hf⟩
  · exact .inl (congrArg ofMillis he)
  · refine .inr ⟨?range, ofMillis_eq_error ?far⟩
    case range => rw [millisInRange_iff]; omega
    case far => unfold Json.Number.Far at hf; rw [millisInRange_iff]; omega

theorem aligned_of_noLeap (h : t.inLeapSecond = false) : t.Aligned := by
  intro hl
  rw [h] at hl
  cases hl

theorem aligned_of_ofMillis (h : ofMillis ms = .ok t) : t.Aligned := by
  unfold ofMillis at h
  split at h
  case h_2 => cases h
  case h_1 ht =>
    cases h
    unfold ofEpochMillis? checked? at ht
    split at ht
    case isTrue => cases ht; exact aligned_of_noLeap (inLeapSecond_ofParts ..)
    case isFalse => cases ht

-- No text is read as two numbers, whatever the bounds.
theorem ofTimestampText_of_spells (h : Decimal.SpellsWhole s ms) {before after : List Char}
    (hb : Text.allBlank before) (ha : Text.allBlank after) :
    ofTimestampText (before ++ s ++ after) = ofMillis ms ∨
      ¬MillisInRange ms ∧ ∃ e, ofTimestampText (before ++ s ++ after) = .error e := by
  unfold ofTimestampText
  rw [Text.trim_append s hb ha, Text.trim_of_forall h.isBlank]
  dsimp only
  cases hs : Decimal.signed? (UInt64.size / 2) s
  case some m =>
    have ⟨hm, _⟩ := Decimal.signed?_eq_some.mp hs
    exact .inl (congrArg ofMillis (hm.unique h))
  case none =>
    have ht : ofText? s = none := by
      refine Option.eq_none_iff_forall_ne_some.mpr fun t ht => ?_
      have hn := signed?_of_ofText? ht (ms.natAbs + 1)
      rw [Decimal.signed?_eq_some.mpr ⟨h, by omega, by omega⟩] at hn
      cases hn
    have hr : ¬MillisInRange ms := by
      intro hr
      have ⟨h₁, h₂⟩ := millisInRange_iff.mp hr
      have hz : UInt64.size / 2 = 2 ^ 63 := rfl
      rw [Decimal.signed?_eq_some.mpr ⟨h, by omega, by omega⟩] at hs
      cases hs
    rw [ht]
    exact .inr ⟨hr, _, rfl⟩

theorem ofTimestamp_of_spelling (h : Spelling ms j) :
    ofTimestamp j = ofMillis ms ∨ ¬MillisInRange ms ∧ ∃ e, ofTimestamp j = .error e := by
  cases h
  case literal h =>
    obtain ⟨m, rfl, hm⟩ := Json.standsFor_of_read? h
    exact ofTimestamp_number hm
  case digits hb h ha =>
    rw [ofTimestamp, String.toList_ofList]
    exact ofTimestampText_of_spells h hb ha

theorem exists_literal (h : MillisInRange ms) :
    ∃ j, Json.read? ((Decimal.integer ms).map some) = some j := by
  have ⟨h₁, h₂⟩ := millisInRange_iff.mp h
  have hz : UInt64.size = 2 ^ 64 := rfl
  have ⟨m, hm⟩ := Json.read?_integer (n := ms) (by omega)
  exact ⟨_, hm⟩

theorem ofTimestamp_toJson (ha : t.Aligned) (hy : t.HasPlainYear) :
    ofTimestamp t.toJson = .ok t := by
  have ht := ofText?_written ha hy
  rw [toJson, ofTimestamp, text, String.toList_ofList, ofTimestampText, trim_written hy]
  simp only [signed?_of_ofText? ht, ht]

-- Leap seconds are read where clocks may have one, and nowhere else.
theorem aligned_of_ofTimestamp (h : ofTimestamp j = .ok t) : t.Aligned := by
  unfold ofTimestamp at h
  split at h
  case h_1 => exact aligned_of_ofMillis h
  case h_2 =>
    unfold ofTimestampText at h
    dsimp only at h
    split at h
    case h_1 => exact aligned_of_ofMillis h
    case h_2 =>
      split at h
      case h_1 ht => cases h; exact aligned_of_ofText? ht
      case h_2 => cases h
  case h_3 => cases h

end Instant
end AnomalyDetection

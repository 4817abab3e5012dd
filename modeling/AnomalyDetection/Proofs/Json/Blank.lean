import AnomalyDetection.Json.Reader

namespace AnomalyDetection.Json.Reader

theorem start?_of_isBlank {c : Char} (h : Text.isBlank c) : Numeral.start? c = none := by
  have hd : c ≠ '-' := by rintro rfl; simp [Text.isBlank] at h
  have hn : ¬('0' ≤ c ∧ c ≤ '9') := by
    rintro ⟨h₀, h₉⟩
    have h₀ : 48 ≤ c.toNat := h₀
    have h₉ : c.toNat ≤ 57 := h₉
    simp [Text.isBlank] at h
    omega
  simp [Numeral.start?, Decimal.digit?, hd, hn]

theorem beginValue_of_isBlank {c : Char} (h : Text.isBlank c) (fs : List Frame) :
    beginValue fs c = fail fs := by
  have ne {k : Char} (hk : Text.isBlank k = false) : c ≠ k := by rintro rfl; simp_all
  simp only [beginValue, ne (k := 'n') rfl, ne (k := 't') rfl, ne (k := 'f') rfl,
    ne (k := '"') rfl, ne (k := '[') rfl, ne (k := '\x7b') rfl, if_false, start?_of_isBlank h]

theorem foldl_step_fail (fs : List Frame) (gs : List Text.Glyph) :
    gs.foldl step (fail fs) = fail fs := by
  induction gs
  case nil => rfl
  case cons hi => exact hi

-- What blanks leave of the start: the reader waits on, or has given up for good.
theorem foldl_step_blank {s : List Char} (h : Text.allBlank s) :
    (s.map some).foldl step start = start ∨ (s.map some).foldl step start = fail [] := by
  induction s
  case nil => exact .inl rfl
  case cons c s hi =>
    have ⟨hc, hs⟩ : Text.isBlank c ∧ Text.allBlank s := by simpa [Text.allBlank] using h
    rw [List.map_cons, List.foldl_cons]
    by_cases hw : isSpace c
    case pos =>
      have he : step start (some c) = start := by simp [start, step, stepToken, hw]
      rw [he]
      exact hi hs
    case neg =>
      have he : step start (some c) = fail [] := by
        simp [start, step, stepToken, hw, beginValue_of_isBlank hc]
      rw [he]
      exact .inr (foldl_step_fail ..)

end Reader

-- Only four of the blank characters may stand between tokens at all; a reader that has met nothing
-- else still waits for a value.
theorem read?_of_allBlank {s : List Char} (h : Text.allBlank s) : read? (s.map some) = none := by
  cases Reader.foldl_step_blank h <;> rename_i h <;> simp only [read?, Document.read, h] <;> rfl

end AnomalyDetection.Json

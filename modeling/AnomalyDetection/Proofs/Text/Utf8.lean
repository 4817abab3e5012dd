import AnomalyDetection.Text.Utf8

namespace AnomalyDetection.Text

theorem continuation?_ofNat (n : Nat) :
    continuation? (UInt8.ofNat (n % 64 + 128)) = some (n % 64) := by
  have h : (UInt8.ofNat (n % 64 + 128)).toNat = n % 64 + 128 :=
    UInt8.toNat_ofNat_of_lt' (show n % 64 + 128 < 256 by omega)
  rw [continuation?, h, if_pos (by omega), Nat.add_sub_cancel]

theorem pair?_eq_none {a b : UInt8} (h : 0xE0 ≤ a.toNat) : pair? a b = none :=
  if_neg (by omega)

theorem triple?_eq_none {a b c : UInt8} (h : 0xF0 ≤ a.toNat) : triple? a b c = none :=
  if_neg (by omega)

section

variable {n : Nat}

theorem pair?_of_lead (h₁ : 0x80 ≤ n) (h₂ : n ≤ 0x7FF) :
    pair? (UInt8.ofNat (n / 64 % 32 + 192)) (UInt8.ofNat (n % 64 + 128)) = some (Char.ofNat n) := by
  have h : (UInt8.ofNat (n / 64 % 32 + 192)).toNat = n / 64 % 32 + 192 :=
    UInt8.toNat_ofNat_of_lt' (show _ < 256 by omega)
  have he : n / 64 % 32 * 64 + n % 64 = n := by omega
  rw [pair?, h, if_pos (by omega), continuation?_ofNat, Option.bind_eq_bind, Option.bind_some]
  simp only [Nat.add_sub_cancel, he]
  exact if_pos h₁

theorem triple?_of_lead (h₁ : 0x800 ≤ n) (h₂ : n ≤ 0xFFFF) (hs : n < 0xD800 ∨ 0xE000 ≤ n) :
    triple? (UInt8.ofNat (n / 4096 % 16 + 224)) (UInt8.ofNat (n / 64 % 64 + 128))
      (UInt8.ofNat (n % 64 + 128)) = some (Char.ofNat n) := by
  have h : (UInt8.ofNat (n / 4096 % 16 + 224)).toNat = n / 4096 % 16 + 224 :=
    UInt8.toNat_ofNat_of_lt' (show _ < 256 by omega)
  have he : (n / 4096 % 16 * 64 + n / 64 % 64) * 64 + n % 64 = n := by omega
  rw [triple?, h, if_pos (by omega), continuation?_ofNat, continuation?_ofNat]
  simp only [Option.bind_eq_bind, Option.bind_some, Nat.add_sub_cancel, he]
  exact if_pos ⟨h₁, hs⟩

theorem quadruple?_of_lead (h₁ : 0x10000 ≤ n) (h₂ : n < 0x110000) :
    quadruple? (UInt8.ofNat (n / 262144 % 8 + 240)) (UInt8.ofNat (n / 4096 % 64 + 128))
      (UInt8.ofNat (n / 64 % 64 + 128)) (UInt8.ofNat (n % 64 + 128)) = some (Char.ofNat n) := by
  have h : (UInt8.ofNat (n / 262144 % 8 + 240)).toNat = n / 262144 % 8 + 240 :=
    UInt8.toNat_ofNat_of_lt' (show _ < 256 by omega)
  have he : ((n / 262144 % 8 * 64 + n / 4096 % 64) * 64 + n / 64 % 64) * 64 + n % 64 = n := by
    omega
  rw [quadruple?, h, if_pos (by omega), continuation?_ofNat, continuation?_ofNat,
    continuation?_ofNat]
  simp only [Option.bind_eq_bind, Option.bind_some, Nat.add_sub_cancel, he]
  exact if_pos ⟨h₁, h₂⟩

end

-- One case for each length of the encoded form. A longer form is met only by an octet that leads
-- none of the shorter ones.
theorem firstGlyph_encode (c : Char) (rest : Octets) :
    ∃ a tail, String.utf8EncodeChar c = a :: tail ∧
      firstGlyph a (tail ++ rest) = (some c, rest) := by
  have hc : Char.ofNat c.val.toNat = c := Char.ofNat_toNat c
  have hv : c.val.toNat < 0xD800 ∨ 0xDFFF < c.val.toNat ∧ c.val.toNat < 0x110000 := c.valid
  simp only [String.utf8EncodeChar]
  generalize c.val.toNat = n at *
  subst hc
  have toNat {m : Nat} (h : m < 256) : (UInt8.ofNat m).toNat = m := UInt8.toNat_ofNat_of_lt' h
  by_cases h₁ : n ≤ 0x7F
  case pos =>
    refine ⟨_, _, if_pos h₁, ?_⟩
    rw [firstGlyph.eq_def, toNat (by omega), if_pos (by omega)]
    rfl
  by_cases h₂ : n ≤ 0x7FF
  case pos =>
    refine ⟨_, _, (if_neg h₁).trans (if_pos h₂), ?_⟩
    rw [firstGlyph.eq_def, toNat (by omega), if_neg (by omega)]
    simp only [List.cons_append, List.nil_append, pair?_of_lead (by omega) h₂]
  by_cases h₃ : n ≤ 0xFFFF
  case pos =>
    refine ⟨_, _, (if_neg h₁).trans ((if_neg h₂).trans (if_pos h₃)), ?_⟩
    have hl := toNat (show n / 4096 % 16 + 224 < 256 by omega)
    rw [firstGlyph.eq_def, hl, if_neg (by omega)]
    have hp : 0xE0 ≤ (UInt8.ofNat (n / 4096 % 16 + 224)).toNat := by rw [hl]; omega
    simp only [List.cons_append, List.nil_append, pair?_eq_none hp,
      triple?_of_lead (show 0x800 ≤ n by omega) h₃ (by omega)]
  case neg =>
    refine ⟨_, _, (if_neg h₁).trans ((if_neg h₂).trans (if_neg h₃)), ?_⟩
    have hl := toNat (show n / 262144 % 8 + 240 < 256 by omega)
    rw [firstGlyph.eq_def, hl, if_neg (by omega)]
    have hp : 0xF0 ≤ (UInt8.ofNat (n / 262144 % 8 + 240)).toNat := by rw [hl]; omega
    simp only [List.cons_append, List.nil_append, pair?_eq_none (Nat.le_trans (by decide) hp),
      triple?_eq_none hp, quadruple?_of_lead (show 0x10000 ≤ n by omega) (by omega)]

theorem go_encode (s : List Char) {count : Nat} (h : (encode s).length ≤ count)
    (done : List Glyph) : glyphs.go count (encode s) done = done.reverse ++ s.map some := by
  induction s generalizing count done
  case nil => cases count <;> simp [encode, glyphs.go]
  case cons c s hi =>
    have ⟨a, tail, ha, hf⟩ := firstGlyph_encode c (encode s)
    have he : encode (c :: s) = a :: (tail ++ encode s) := by
      rw [encode, List.flatMap_cons, ha]
      rfl
    rw [he] at h ⊢
    cases count
    case zero => cases h
    case succ count =>
      have hl : (encode s).length ≤ count := by
        simp only [List.length_cons, List.length_append] at h
        omega
      simp only [glyphs.go, hf, hi hl, List.reverse_cons, List.map_cons, List.append_assoc]
      rfl

theorem glyphs_encode (s : List Char) : glyphs (encode s) = s.map some :=
  go_encode s (Nat.le_refl _) []

end AnomalyDetection.Text

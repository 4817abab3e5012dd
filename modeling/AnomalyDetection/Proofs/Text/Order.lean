import AnomalyDetection.Text.Utf8

namespace AnomalyDetection.Text

theorem ofNat_cons_lt {m n : Nat} {s t : Octets} (hm : m < 256) (hn : n < 256) :
    UInt8.ofNat m :: s < UInt8.ofNat n :: t ↔ m < n ∨ m = n ∧ s < t := by
  rw [List.cons_lt_cons_iff, UInt8.lt_iff_toNat_lt, ← UInt8.toNat_inj,
    UInt8.toNat_ofNat_of_lt' hm, UInt8.toNat_ofNat_of_lt' hn]

-- A longer form has a greater lead octet, and forms of one length are compared octet by octet.
theorem encodeChar_append_lt {c d : Char} (h : c < d) (s t : Octets) :
    String.utf8EncodeChar c ++ s < String.utf8EncodeChar d ++ t := by
  have hv : c.val.toNat < d.val.toNat := h
  have hd : d.val.toNat < 0xD800 ∨ 0xDFFF < d.val.toNat ∧ d.val.toNat < 0x110000 := d.valid
  have h₂ (k : Nat) : k / 4096 = k / 64 / 64 := by omega
  have h₃ (k : Nat) : k / 262144 = k / 64 / 64 / 64 := by omega
  simp only [String.utf8EncodeChar, h₂, h₃]
  generalize c.val.toNat = m at *
  generalize d.val.toNat = n at *
  split
  all_goals
    repeat' split
    all_goals
      simp (disch := omega) only [List.cons_append, List.nil_append, ofNat_cons_lt]
      omega

-- UTF-8 keeps the order of texts: the first character that is not the same decides about the octets
-- too, however many of them it takes.
theorem encode_lt {s t : List Char} (h : s < t) : encode s < encode t := by
  induction h
  case nil c t =>
    have ⟨a, tail, ha⟩ := List.exists_cons_of_ne_nil (String.utf8EncodeChar_ne_nil (c := c))
    rw [encode, encode, List.flatMap_cons, ha]
    exact List.nil_lt_cons _ _
  case rel h => exact encodeChar_append_lt h _ _
  case cons c s t _ hi =>
    rw [encode, encode, List.flatMap_cons, List.flatMap_cons]
    exact List.append_left_lt hi

theorem octets_lt {s t : String} (h : s < t) : octets s < octets t :=
  encode_lt (String.lt_iff.mp h)

end AnomalyDetection.Text

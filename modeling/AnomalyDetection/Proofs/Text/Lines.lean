import AnomalyDetection.Proofs.Paths
import AnomalyDetection.Proofs.Text.Utf8

namespace AnomalyDetection.Text

section Glyphs

variable {a b c d : UInt8} {g : Char}

theorem ofNat_eq_lineFeed {n : Nat} (h : Char.ofNat n = '\n') : n = 10 := by
  by_cases hv : n.isValidChar
  case pos =>
    rw [Char.ofNat, dif_pos hv] at h
    exact congrArg Char.toNat h
  case neg =>
    rw [Char.ofNat, dif_neg hv] at h
    cases h

theorem ofNat_ne_lineFeed {n : Nat} (h : 0x80 ≤ n) : Char.ofNat n ≠ '\n' := by
  intro he
  have hn := ofNat_eq_lineFeed he
  omega

theorem continuation?_eq_some {x : Nat} (h : continuation? b = some x) : 0x80 ≤ b.toNat :=
  (Option.ite_none_right_eq_some.mp h).left.left

theorem pair?_eq_some (h : pair? a b = some g) : 0x80 ≤ b.toNat ∧ g ≠ '\n' := by
  unfold pair? at h
  split at h
  case isFalse => cases h
  case isTrue =>
    have ⟨x, hx, h⟩ := Option.bind_eq_some_iff.mp h
    have ⟨hn, h⟩ := Option.ite_none_right_eq_some.mp h
    cases h
    exact ⟨continuation?_eq_some hx, ofNat_ne_lineFeed hn⟩

theorem triple?_eq_some (h : triple? a b c = some g) :
    0x80 ≤ b.toNat ∧ 0x80 ≤ c.toNat ∧ g ≠ '\n' := by
  unfold triple? at h
  split at h
  case isFalse => cases h
  case isTrue =>
    have ⟨x, hx, h⟩ := Option.bind_eq_some_iff.mp h
    have ⟨y, hy, h⟩ := Option.bind_eq_some_iff.mp h
    have ⟨hn, h⟩ := Option.ite_none_right_eq_some.mp h
    cases h
    exact ⟨continuation?_eq_some hx, continuation?_eq_some hy, ofNat_ne_lineFeed (by omega)⟩

theorem quadruple?_eq_some (h : quadruple? a b c d = some g) :
    0x80 ≤ b.toNat ∧ 0x80 ≤ c.toNat ∧ 0x80 ≤ d.toNat ∧ g ≠ '\n' := by
  unfold quadruple? at h
  split at h
  case isFalse => cases h
  case isTrue =>
    have ⟨x, hx, h⟩ := Option.bind_eq_some_iff.mp h
    have ⟨y, hy, h⟩ := Option.bind_eq_some_iff.mp h
    have ⟨z, hz, h⟩ := Option.bind_eq_some_iff.mp h
    have ⟨hn, h⟩ := Option.ite_none_right_eq_some.mp h
    cases h
    exact ⟨continuation?_eq_some hx, continuation?_eq_some hy, continuation?_eq_some hz,
      ofNat_ne_lineFeed (by omega)⟩

-- An octet that is a character by itself is no part of another one.
theorem firstGlyph_append (h : b.toNat < 0x80) (a : UInt8) (rest more : Octets) :
    firstGlyph a (rest ++ b :: more) =
      ((firstGlyph a rest).1, (firstGlyph a rest).2 ++ b :: more) := by
  have hp {a : UInt8} : pair? a b = none :=
    Option.eq_none_iff_forall_ne_some.mpr fun _ hg => by have := pair?_eq_some hg; omega
  have ht {a c d : UInt8} (hd : c = b ∨ d = b) : triple? a c d = none :=
    Option.eq_none_iff_forall_ne_some.mpr fun _ hg => by
      have := triple?_eq_some hg
      rcases hd with rfl | rfl <;> omega
  have hq {a c d e : UInt8} (hd : c = b ∨ d = b ∨ e = b) : quadruple? a c d e = none :=
    Option.eq_none_iff_forall_ne_some.mpr fun _ hg => by
      have := quadruple?_eq_some hg
      rcases hd with rfl | rfl | rfl <;> omega
  by_cases ha : a.toNat < 0x80
  case pos => simp only [firstGlyph, ha, if_true]
  -- One case for each number of octets in front of the one that stands alone.
  rcases rest with _ | ⟨c, _ | ⟨d, _ | ⟨e, rest⟩⟩⟩
  case neg.nil =>
    rcases more with _ | ⟨c, _ | ⟨d, more⟩⟩ <;> simp [firstGlyph, ha, hp, ht, hq]
  case neg.cons.nil =>
    cases hc : pair? a c <;> rcases more with _ | ⟨d, more⟩ <;>
      simp [firstGlyph, ha, hc, ht, hq]
  case neg.cons.cons.nil =>
    cases hc : pair? a c <;> cases hd : triple? a c d <;> simp [firstGlyph, ha, hc, hd, hq]
  case neg.cons.cons.cons =>
    cases hc : pair? a c <;> cases hd : triple? a c d <;> cases he : quadruple? a c d e <;>
      simp [firstGlyph, ha, hc, hd, he]

theorem firstGlyph_eq_lineFeed {rest : Octets} (h : (firstGlyph a rest).1 = some '\n') :
    a = 10 := by
  unfold firstGlyph at h
  split at h
  case isTrue => exact UInt8.toNat_inj.mp (ofNat_eq_lineFeed (Option.some.inj h))
  case isFalse =>
    repeat' split at h
    all_goals cases h
    · exact absurd rfl (pair?_eq_some ‹_›).right
    · exact absurd rfl (triple?_eq_some ‹_›).right.right
    · exact absurd rfl (quadruple?_eq_some ‹_›).right.right.right

theorem suffix_firstGlyph (a : UInt8) (rest : Octets) : (firstGlyph a rest).2 <:+ rest := by
  unfold firstGlyph
  repeat' split
  all_goals first
    | exact List.suffix_rfl | exact ⟨[_], rfl⟩ | exact ⟨[_, _], rfl⟩ | exact ⟨[_, _, _], rfl⟩

theorem go_done (n : Nat) (octets : Octets) (done : List Glyph) :
    glyphs.go n octets done = done.reverse ++ glyphs.go n octets [] := by
  induction n generalizing octets done
  case zero => simp [glyphs.go]
  case succ n hi =>
    cases octets
    case nil => simp [glyphs.go]
    case cons a rest =>
      simp only [glyphs.go]
      rw [hi _ (_ :: done), hi _ [_]]
      simp

-- Any count will do that is not too small.
theorem go_congr {n m : Nat} {octets : Octets} (hn : octets.length ≤ n) (hm : octets.length ≤ m) :
    glyphs.go n octets [] = glyphs.go m octets [] := by
  induction n generalizing m octets
  case zero =>
    cases List.length_eq_zero_iff.mp (Nat.le_zero.mp hn)
    cases m <;> rfl
  case succ n hi =>
    cases octets
    case nil => cases m <;> rfl
    case cons a rest =>
      cases m
      case zero => cases hm
      case succ m =>
        have hl := firstGlyph_length a rest
        rw [List.length_cons] at hn hm
        simp only [glyphs.go]
        rw [go_done n, go_done m, hi (m := m) (by omega) (by omega)]

theorem glyphs_cons (a : UInt8) (rest : Octets) :
    glyphs (a :: rest) = (firstGlyph a rest).1 :: glyphs (firstGlyph a rest).2 := by
  have h : glyphs (a :: rest) = glyphs.go rest.length (firstGlyph a rest).2
    [(firstGlyph a rest).1] := rfl
  rw [h, go_done, go_congr (firstGlyph_length a rest) (Nat.le_refl _)]
  rfl

-- From here on, octets are taken a glyph at a time.
theorem glyphs_induction {motive : Octets → Prop} (nil : motive [])
    (cons : ∀ a rest, motive (firstGlyph a rest).2 → motive (a :: rest)) (octets : Octets) :
    motive octets := by
  induction hn : octets.length using Nat.strongRecOn generalizing octets
  case ind n hi =>
    cases octets
    case nil => exact nil
    case cons a rest =>
      have hl := firstGlyph_length a rest
      rw [List.length_cons] at hn
      exact cons a rest (hi _ (by omega) _ rfl)

theorem glyphs_append (h : b.toNat < 0x80) (x y : Octets) :
    glyphs (x ++ b :: y) = glyphs x ++ some (Char.ofNat b.toNat) :: glyphs y := by
  induction x using glyphs_induction
  case nil =>
    have hb : firstGlyph b y = (some (Char.ofNat b.toNat), y) := by rw [firstGlyph.eq_def, if_pos h]
    rw [List.nil_append, glyphs_cons, hb]
    rfl
  case cons a rest hi =>
    rw [List.cons_append, glyphs_cons, firstGlyph_append h, hi, glyphs_cons a rest]
    rfl

theorem lineFeed_mem {x : Octets} (h : some '\n' ∈ glyphs x) : 10 ∈ x := by
  induction x using glyphs_induction
  case nil => cases h
  case cons a rest hi =>
    rw [glyphs_cons] at h
    rcases List.mem_cons.mp h with h | h
    · exact List.mem_cons.mpr (.inl (firstGlyph_eq_lineFeed h.symm).symm)
    · exact List.mem_cons_of_mem a ((suffix_firstGlyph a rest).mem (hi h))

end Glyphs

section Chars

variable {s : List Char}

theorem chars?_cons (c : Char) (gs : List Glyph) :
    chars? (some c :: gs) = (chars? gs).map (c :: ·) := by
  have go (gs : List Glyph) (done : List Char) :
      chars?.go gs done = (chars? gs).map (done.reverse ++ ·) := by
    unfold chars?
    induction gs generalizing done
    case nil => simp [chars?.go]
    case cons g gs hi =>
      cases g
      case none => rfl
      case some c => simp [chars?.go, hi (c :: done), hi [c], Function.comp_def]
  exact go gs [c]

theorem chars?_append (gs hs : List Glyph) :
    chars? (gs ++ hs) = (chars? gs).bind fun s => (chars? hs).map (s ++ ·) := by
  induction gs
  case nil =>
    change chars? hs = (chars? hs).map ([] ++ ·)
    simp
  case cons g gs hi =>
    cases g
    case none => rfl
    case some c => simp [chars?_cons, hi, Option.map_bind, Option.bind_map, Function.comp_def]

theorem chars?_eq_some {gs : List Glyph} (h : chars? gs = some s) : gs = s.map some := by
  induction gs generalizing s
  case nil => cases h; rfl
  case cons g gs hi =>
    cases g
    case none => cases h
    case some c =>
      rw [chars?_cons] at h
      have ⟨t, ht, hs⟩ := Option.map_eq_some_iff.mp h
      subst hs
      rw [hi ht, List.map_cons]

-- Octets on both sides of a line feed are read apart from each other.
theorem text?_append (x y : Octets) : text? (x ++ 10 :: y) =
    (text? x).bind fun s => (text? y).map fun t => s ++ '\n' :: t := by
  have hg : glyphs (x ++ 10 :: y) = glyphs x ++ some '\n' :: glyphs y :=
    glyphs_append (by decide) x y
  simp only [text?, hg, chars?_append, chars?_cons, Option.map_map]
  rfl

theorem lineFeed_notMem {x : Octets} (h : text? x = some s) (hx : 10 ∉ x) : '\n' ∉ s := by
  intro hs
  refine hx (lineFeed_mem ?_)
  rw [chars?_eq_some h]
  exact List.mem_map_of_mem hs

end Chars

section Lines

variable {α : Type} {f : List Char → Option α} (he : f [] = none) (hr : ∀ s, f (s ++ ['\r']) = f s)

include he hr

-- To what makes nothing of an empty line, and nothing of a carriage return at the end of one, lines
-- are just what lies between the line feeds.
theorem filterMap_lines (s : List Char) : (lines s).filterMap f = (split '\n' s).filterMap f := by
  have go (s line : List Char) (done : List (List Char)) (hl : '\n' ∉ line) :
      (lines.go s line done).filterMap f =
        done.reverse.filterMap f ++ (split '\n' (line.reverse ++ s)).filterMap f := by
    fun_induction lines.go s line done
    case case1 done => simp [split, he]
    case case2 line done _ =>
      rw [List.append_nil, split_of_notMem (mt List.mem_reverse.mp hl), List.reverse_cons,
        List.filterMap_append]
    case case3 s line done hi =>
      have hf : [('\r' :: line).reverse].filterMap f = [line.reverse].filterMap f := by
        simp only [List.reverse_cons, List.filterMap_cons, hr, List.filterMap_nil]
      rw [hi List.not_mem_nil, split_append, split_of_notMem (mt List.mem_reverse.mp hl),
        List.filterMap_append, hf, List.reverse_cons, List.filterMap_append, List.append_assoc]
      rfl
    case case4 s line done _ hi =>
      rw [hi List.not_mem_nil, split_append, split_of_notMem (mt List.mem_reverse.mp hl),
        List.filterMap_append, List.reverse_cons, List.filterMap_append, List.append_assoc]
      rfl
    case case5 c s line done _ hc hi =>
      rw [hi (by simp [hl, Ne.symm hc]), List.reverse_cons, List.append_assoc,
        List.singleton_append]
  exact go s [] [] List.not_mem_nil

end Lines

end AnomalyDetection.Text

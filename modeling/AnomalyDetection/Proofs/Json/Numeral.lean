import AnomalyDetection.Json.Printer
import AnomalyDetection.Json.Reader
import AnomalyDetection.Proofs.Decimal.Integer

namespace AnomalyDetection.Json

open Decimal (spelled AllDigits digit? digit?_digitChar)

namespace Numeral

-- The literal with one more character, if that still belongs to it.
def push (n : Numeral) (c : Char) : Option Numeral :=
  match n.step c with
  | .more n => some n
  | _ => none

-- The literal that a text is from its first to its last character.
def ofText? : List Char → Option Numeral
  | [] => none
  | c :: s => (start? c).bind fun n => s.foldlM push n

-- Whether the literal may end here.
def Ended (n : Numeral) : Prop := n.step ' ' = .over

-- A character that may stand behind a value.
def IsDelimiter (c : Char) : Prop := c ∈ [' ', '\n', '\t', '\r', ',', ']', '\x7d']

theorem isDelimiter_of_isSpace {c : Char} (h : Reader.isSpace c) : IsDelimiter c := by
  simp only [Reader.isSpace, Bool.or_eq_true, beq_iff_eq] at h
  rcases h with ((rfl | rfl) | rfl) | rfl <;> simp [IsDelimiter]

-- To a literal all delimiters are alike.
theorem step_delimiter {c : Char} (h : IsDelimiter c) (n : Numeral) : n.step c = n.step ' ' := by
  simp only [IsDelimiter, List.mem_cons, List.not_mem_nil, or_false] at h
  rcases h with rfl | rfl | rfl | rfl | rfl | rfl | rfl
  all_goals cases hp : n.place <;> simp only [step, hp] <;> rfl

-- The literal of a whole number with these digits.
def ofDigits (negative : Bool) (ds : List Nat) : Numeral :=
  ⟨if ds = [0] then .zero else .whole, negative, ds.reverse, [], false, []⟩

theorem foldlM_push_digits {ds : List Nat} (h : AllDigits ds) (negative : Bool)
    (done : List Nat) :
    (spelled ds).foldlM push ⟨.whole, negative, done, [], false, []⟩ =
      some ⟨.whole, negative, ds.reverse ++ done, [], false, []⟩ := by
  induction ds generalizing done
  case nil => rfl
  case cons d ds hi =>
    have ⟨hd, hs⟩ := List.forall_mem_cons.mp h
    have hp : push ⟨.whole, negative, done, [], false, []⟩ (Nat.digitChar d) =
        some ⟨.whole, negative, d :: done, [], false, []⟩ := by
      simp only [push, step, digit?_digitChar d hd]
    rw [List.reverse_cons, List.append_assoc, List.singleton_append, ← hi hs (d :: done)]
    simp only [spelled, List.map_cons, List.foldlM_cons, hp]
    rfl

theorem ended_ofDigits (negative : Bool) (ds : List Nat) : (ofDigits negative ds).Ended := by
  unfold Ended ofDigits
  by_cases hz : ds = [0] <;> simp only [hz, if_true, if_false, step] <;> rfl

theorem le_foldl_digits (ds : List Nat) (a : Nat) : a ≤ ds.foldl (fun n d => 10 * n + d) a := by
  induction ds generalizing a
  case nil => exact Nat.le_refl a
  case cons d ds hi => exact Nat.le_trans (by omega) (hi (10 * a + d))

theorem gatherWhole_eq {a : Nat} {ds : List Nat}
    (h : ds.foldl (fun n d => 10 * n + d) a < UInt64.size) :
    gatherWhole a ds = ⟨ds.foldl (fun n d => 10 * n + d) a, 0, true⟩ := by
  induction ds generalizing a
  case nil => rfl
  case cons d ds hi =>
    rw [List.foldl_cons] at h ⊢
    have hl : a * 10 + d < UInt64.size :=
      Nat.lt_of_le_of_lt (Nat.mul_comm 10 a ▸ le_foldl_digits ds (10 * a + d)) h
    rw [gatherWhole, if_pos hl, Nat.mul_comm a 10, hi h]

section

variable {n : Nat} {ds : List Nat} (h : Decimal.IsDecimal n ds)

include h

theorem ofText?_spelled : ofText? (spelled ds) = some (ofDigits false ds) := by
  cases ds
  case nil => cases h.nonempty rfl
  case cons d ds =>
    have ⟨hd, hs⟩ := List.forall_mem_cons.mp h.digits
    by_cases hz : d = 0
    case pos => cases h.leading d ds rfl hz; subst hz; rfl
    case neg =>
      have hp : start? (Nat.digitChar d) = some ⟨.whole, false, [d], [], false, []⟩ := by
        have hm : Nat.digitChar d ≠ '-' := (by decide : ∀ d < 10, Nat.digitChar d ≠ '-') d hd
        simp only [start?, hm, if_false, digit?_digitChar d hd]
      have hn : d :: ds ≠ [0] := fun he => hz (List.cons.inj he).left
      simp only [spelled, List.map_cons, ofText?, hp, Option.bind_some, ofDigits, hn, if_false]
      exact (foldlM_push_digits hs false [d]).trans (by simp)

theorem ofText?_minus_spelled : ofText? ('-' :: spelled ds) = some (ofDigits true ds) := by
  cases ds
  case nil => cases h.nonempty rfl
  case cons d ds =>
    have ⟨hd, hs⟩ := List.forall_mem_cons.mp h.digits
    by_cases hz : d = 0
    case pos => cases h.leading d ds rfl hz; subst hz; rfl
    case neg =>
      have hp : push ⟨.sign, true, [], [], false, []⟩ (Nat.digitChar d) =
          some ⟨.whole, true, [d], [], false, []⟩ := by
        simp only [push, step, digit?_digitChar d hd]
      have hn : d :: ds ≠ [0] := fun he => hz (List.cons.inj he).left
      have hm : start? '-' = some ⟨.sign, true, [], [], false, []⟩ := rfl
      simp only [spelled, List.map_cons, ofText?, hm, Option.bind_some, List.foldlM_cons, hp,
        ofDigits, hn, if_false]
      exact (foldlM_push_digits hs true [d]).trans (by simp)

theorem value?_ofDigits (negative : Bool) (hl : n < UInt64.size) :
    (ofDigits negative ds).value? = some (ofInteger negative (UInt64.ofNat n)) := by
  have hv : ds.foldl (fun n d => 10 * n + d) 0 = n := h.value
  have hg : gatherWhole 0 ds = ⟨n, 0, true⟩ := (gatherWhole_eq (hv ▸ hl)).trans (by rw [hv])
  simp only [value?, ofDigits, List.reverse_reverse, hg, List.reverse_nil, gatherFraction]
  rfl

end

end Numeral

namespace Number

-- The number is read from the text that it is written as.
structure ReadsBack (n : Number) : Prop where
  literal : ∃ l, Numeral.ofText? n.text = some l ∧ l.Ended ∧ l.value? = some n

theorem readsBack_natural (n : UInt64) : (natural n).ReadsBack := by
  have ⟨ds, he, hd⟩ := Decimal.natural_eq_spelled n.toNat
  refine ⟨Numeral.ofDigits false ds, ?text, Numeral.ended_ofDigits false ds, ?value⟩
  case text => rw [text, he, Numeral.ofText?_spelled hd]
  case value =>
    rw [Numeral.value?_ofDigits hd false n.toNat_lt, UInt64.ofNat_toNat]
    rfl

theorem readsBack_negative (m : Fin (UInt64.size / 2)) : (negative m).ReadsBack := by
  have ⟨ds, he, hd⟩ := Decimal.natural_eq_spelled (m.val + 1)
  refine ⟨Numeral.ofDigits true ds, ?text, Numeral.ended_ofDigits true ds, ?value⟩
  case text => rw [text, he, Numeral.ofText?_minus_spelled hd]
  case value =>
    have hm : m.val + 1 ≤ UInt64.size / 2 := m.isLt
    have hl : m.val + 1 < UInt64.size := Nat.lt_of_le_of_lt hm (by decide)
    have hn : (UInt64.ofNat (m.val + 1)).toNat = m.val + 1 := UInt64.toNat_ofNat_of_lt' hl
    have hr : 0 < m.val + 1 ∧ m.val + 1 ≤ UInt64.size / 2 := ⟨Nat.succ_pos _, hm⟩
    rw [Numeral.value?_ofDigits hd true hl]
    simp only [Numeral.ofInteger, hn, hr, if_true, dif_pos, and_self, Nat.add_sub_cancel]

end Number
end AnomalyDetection.Json

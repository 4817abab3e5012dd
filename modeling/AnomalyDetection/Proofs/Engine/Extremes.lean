import Mathlib
import AnomalyDetection.Proofs.Engine.Accumulator

namespace AnomalyDetection

open Accumulator (extend extreme? total)

section Arrangement

variable {α β : Type} {op : α → α → α} {xs ys : List α}

theorem extend_rightCommutative [Std.Associative op] [Std.Commutative op] (m : Option α) (x y : α) :
    extend op (extend op m x) y = extend op (extend op m y) x := by
  cases m
  case none => exact congrArg some (Std.Commutative.comm x y)
  case some m =>
    refine congrArg some ?_
    have hc : op x y = op y x := Std.Commutative.comm x y
    calc op (op m x) y
      _ = op m (op x y) := Std.Associative.assoc ..
      _ = op m (op y x) := by rw [hc]
      _ = op (op m y) x := (Std.Associative.assoc ..).symm

-- Whatever is associative and commutative leaves the same of a list in every order.
theorem extreme?_perm [Std.Associative op] [Std.Commutative op] (h : xs.Perm ys) :
    extreme? op xs = extreme? op ys := by
  have : RightCommutative (extend op) := ⟨extend_rightCommutative⟩
  rw [← Accumulator.foldl_extend_none, ← Accumulator.foldl_extend_none, h.foldl_eq]

theorem total_perm [Quantity α] [Std.Associative (α := α) (· + ·)]
    [Std.Commutative (α := α) (· + ·)] (h : xs.Perm ys) : total xs = total ys :=
  h.foldl_op_eq

theorem map_extreme? {key : α → β} {op' : β → β → β}
    (h : ∀ x y, key (op x y) = op' (key x) (key y)) (xs : List α) :
    (extreme? op xs).map key = extreme? op' (xs.map key) := by
  cases xs
  case nil => rfl
  case cons x xs =>
    have hf : (xs.map key).foldl op' (key x) = key (xs.foldl op x) :=
      List.foldl_map.trans (List.foldl_hom key fun x y => (h x y).symm)
    exact congrArg some hf.symm

end Arrangement

namespace Quantity

open Float.Model (UnpackedFloat)

-- Doubles that are the same but for the sign of zero.
def Alike (x y : Float) : Prop :=
  x = y ∨ x = 0 ∧ y = -0 ∨ x = -0 ∧ y = 0

-- What decides where a double comes: its sign, then its exponent, then its mantissa.
abbrev Rank := ℤ ×ₗ ℤ ×ₗ ℤ

-- What is no number comes where it is asked to.
def rank (nan : ℤ) : UnpackedFloat → Rank
  | .notANumber => toLex (nan, toLex (0, 0))
  | .infinity .negative => toLex (-2, toLex (0, 0))
  | .finite .negative m e _ => toLex (-1, toLex (-e, -m))
  | .zero _ => toLex (0, toLex (0, 0))
  | .finite .positive m e _ => toLex (1, toLex (e, m))
  | .infinity .positive => toLex (2, toLex (0, 0))

theorem compare_natCast (m n : ℕ) : compare (m : ℤ) n = compare m n := by
  simp [compare, compareOfLessAndEq]

theorem compare_neg (m n : ℤ) : compare (-m) (-n) = compare n m := by
  simp [compare, compareOfLessAndEq, eq_comm]

theorem compare_eq_rank (nan : ℤ) {a b : UnpackedFloat} (ha : a ≠ .notANumber)
    (hb : b ≠ .notANumber) : a.compare b = some (compare (rank nan a) (rank nan b)) := by
  rcases a with (_ | _) | _ | (_ | _) | ⟨_ | _, m, e, hm⟩ <;>
    rcases b with (_ | _) | _ | (_ | _) | ⟨_ | _, n, f, hn⟩
  all_goals first | contradiction | skip
  -- Signs decide, but for two finite doubles of one sign.
  all_goals simp [UnpackedFloat.compare, rank, Prod.Lex.compare_def, compareLex, compareOn,
    compare_natCast, compare_neg, Ordering.swap_then, Int.compare_swap, Nat.compare_swap]
  all_goals rfl

theorem rank_le_notANumber {nan : ℤ} (h : 2 < nan) (a : UnpackedFloat) :
    rank nan a ≤ rank nan .notANumber := by
  rcases a with (_ | _) | _ | (_ | _) | ⟨_ | _, m, e, hm⟩
  all_goals simp [rank, Prod.Lex.toLex_le_toLex]
  all_goals omega

theorem notANumber_le_rank {nan : ℤ} (h : nan < -2) (a : UnpackedFloat) :
    rank nan .notANumber ≤ rank nan a := by
  rcases a with (_ | _) | _ | (_ | _) | ⟨_ | _, m, e, hm⟩
  all_goals simp [rank, Prod.Lex.toLex_le_toLex]
  all_goals omega

theorem eq_notANumber_of_rank {nan : ℤ} (h : nan < -2 ∨ 2 < nan) {a : UnpackedFloat}
    (ha : rank nan a = rank nan .notANumber) : a = .notANumber := by
  rcases a with (_ | _) | _ | (_ | _) | ⟨_ | _, m, e, hm⟩
  all_goals simp [rank] at ha ⊢
  all_goals omega

section

variable {x y : Float}

theorem isNaN_iff : x.isNaN ↔ x.toModel.unpack = .notANumber :=
  UnpackedFloat.isNaN_iff

theorem lt_iff : x < y ↔ x.toModel.unpack.lt y.toModel.unpack :=
  decide_eq_true_iff

theorem lt_iff_rank (nan : ℤ) (hx : ¬x.isNaN) (hy : ¬y.isNaN) :
    x < y ↔ rank nan x.toModel.unpack < rank nan y.toModel.unpack := by
  have hc := compare_eq_rank nan (mt isNaN_iff.mpr hx) (mt isNaN_iff.mpr hy)
  rw [lt_iff, UnpackedFloat.lt, hc, beq_iff_eq, Option.some_inj, compare_lt_iff_lt]

theorem beq_iff_rank (nan : ℤ) (hx : ¬x.isNaN) (hy : ¬y.isNaN) :
    x == y ↔ rank nan x.toModel.unpack = rank nan y.toModel.unpack := by
  have hc := compare_eq_rank nan (mt isNaN_iff.mpr hx) (mt isNaN_iff.mpr hy)
  have he : x == y ↔ x.toModel.unpack.beq y.toModel.unpack := Iff.rfl
  rw [he, UnpackedFloat.beq, hc, beq_iff_eq, Option.some_inj, compare_eq_iff_eq]

theorem not_lt_of_isNaN (hx : x.isNaN) : ¬x < y := by
  rw [lt_iff, isNaN_iff.mp hx]
  exact nofun

theorem not_gt_of_isNaN (hx : x.isNaN) : ¬y < x := by
  rw [lt_iff, isNaN_iff.mp hx]
  cases y.toModel.unpack <;> exact nofun

theorem alike_of_rank {nan : ℤ} (h : nan < -2 ∨ 2 < nan)
    (he : rank nan x.toModel.unpack = rank nan y.toModel.unpack) : Alike x y := by
  by_cases hx : x.isNaN
  case pos =>
    have hy : y.isNaN := isNaN_iff.mpr (eq_notANumber_of_rank h (isNaN_iff.mp hx ▸ he.symm))
    rw [Float.isNaN_eq_decide_eq_nan, decide_eq_true_iff] at hx hy
    exact .inl (hx.trans hy.symm)
  case neg =>
    have hy : ¬y.isNaN := fun hy =>
      hx (isNaN_iff.mpr (eq_notANumber_of_rank h (isNaN_iff.mp hy ▸ he)))
    exact (Float.beq_iff_ne_nan_and_eq.mp ((beq_iff_rank nan hx hy).mpr he)).right.right

-- Where a double comes if the least one is looked for, and where if the greatest one is.
def low (x : Float) : Rank := rank 3 x.toModel.unpack

def high (x : Float) : Rankᵒᵈ := .toDual (rank (-3) x.toModel.unpack)

theorem alike_of_low (h : low x = low y) : Alike x y :=
  alike_of_rank (.inr (by decide)) h

theorem alike_of_high (h : high x = high y) : Alike x y :=
  alike_of_rank (.inl (by decide)) (OrderDual.toDual_inj.mp h)

-- What is kept of two doubles if one is kept that comes before the other or that is a number alone.
theorem key_kept {β : Type} [LinearOrder β] {key : Float → β} {r : Float → Float → Prop}
    [DecidableRel r] (hl : ∀ x y, y.isNaN → key x ≤ key y)
    (hn : ∀ x y, x.isNaN → ¬r x y)
    (hb : ∀ x y, ¬x.isNaN → ¬y.isNaN → (r x y ↔ key x < key y)) (x y : Float) :
    key (if y.isNaN || r x y then x else y) = min (key x) (key y) := by
  simp only [Bool.or_eq_true, decide_eq_true_eq]
  by_cases hy : y.isNaN
  case pos => rw [if_pos (.inl hy), min_eq_left (hl x y hy)]
  case neg =>
    by_cases hx : x.isNaN
    case pos => rw [if_neg (not_or_intro hy (hn x y hx)), min_eq_right (hl y x hx)]
    case neg =>
      by_cases h : r x y
      case pos => rw [if_pos (.inr h), min_eq_left ((hb x y hx hy).mp h).le]
      case neg =>
        have hl : key y ≤ key x := not_lt.mp (mt (hb x y hx hy).mpr h)
        rw [if_neg (not_or_intro hy h), min_eq_right hl]

end

theorem low_lesser (x y : Float) : low (lesser x y) = min (low x) (low y) := by
  refine key_kept (r := (· < ·)) ?_ (fun _ _ => not_lt_of_isNaN) (fun _ _ => lt_iff_rank 3) x y
  intro x y hy
  rw [isNaN_iff.mp hy]
  exact rank_le_notANumber (by decide) _

theorem high_greater (x y : Float) : high (greater x y) = min (high x) (high y) := by
  refine key_kept (r := (· > ·)) ?_ (fun _ _ => not_gt_of_isNaN)
    (fun _ _ hx hy => lt_iff_rank (-3) hy hx) x y
  intro x y hy
  unfold high
  rw [isNaN_iff.mp hy]
  exact notANumber_le_rank (by decide) _

-- The extremes of a list in two orders.
theorem alike_extreme? {β : Type} [LinearOrder β] {key : Float → β} {op : Float → Float → Float}
    (hk : ∀ x y, key (op x y) = min (key x) (key y)) (ha : ∀ {x y}, key x = key y → Alike x y)
    {xs ys : List Float} (h : xs.Perm ys) :
    Option.Rel Alike (extreme? op xs) (extreme? op ys) := by
  have he : (extreme? op xs).map key = (extreme? op ys).map key := by
    rw [map_extreme? hk, map_extreme? hk, extreme?_perm (h.map key)]
  cases hx : extreme? op xs <;> cases hy : extreme? op ys <;> simp only [hx, hy] at he
  case none.none => exact .none
  case none.some => cases he
  case some.none => cases he
  case some.some => exact .some (ha (Option.some_inj.mp he))

end Quantity
end AnomalyDetection

import AnomalyDetection.Detector.Form
import AnomalyDetection.Execution.Validation
import AnomalyDetection.Proofs.Text.Order
import Mathlib.Data.List.Count
import Mathlib.Data.List.Induction

namespace AnomalyDetection.Detector

namespace Census

variable {x y : String} {xs ys : List String} {c : Census}

theorem mem_insert : y ∈ insert x xs ↔ y = x ∨ y ∈ xs := by
  induction xs
  case nil => exact List.mem_cons
  case cons z zs hi =>
    unfold insert
    split
    case isTrue => exact List.mem_cons
    case isFalse =>
      split
      case isTrue h => simp [h]
      case isFalse => rw [List.mem_cons, hi, List.mem_cons, or_left_comm]

theorem sorted_insert (h : xs.Pairwise (· < ·)) : (insert x xs).Pairwise (· < ·) := by
  induction xs
  case nil => exact List.pairwise_singleton ..
  case cons z zs hi =>
    have ⟨hz, hs⟩ := List.pairwise_cons.mp h
    unfold insert
    split
    case isTrue hl =>
      refine List.pairwise_cons.mpr ⟨fun y hy => ?_, h⟩
      cases List.mem_cons.mp hy
      case inl hy => exact hy ▸ hl
      case inr hy => exact String.lt_trans hl (hz y hy)
    case isFalse hn =>
      split
      case isTrue => exact h
      case isFalse hne =>
        refine List.pairwise_cons.mpr ⟨fun y hy => ?_, hi hs⟩
        cases mem_insert.mp hy
        case inl hy => exact hy ▸ Std.lt_of_le_of_ne (String.not_lt.mp hn) (Ne.symm hne)
        case inr hy => exact hz y hy

-- What the census of names has to be.
structure Counts (c : Census) (xs : List String) : Prop where
  seen : ∀ y, y ∈ c.seen ↔ y ∈ xs
  again : ∀ y, y ∈ c.again ↔ 2 ≤ xs.count y
  sorted : c.again.Pairwise (· < ·)

theorem Counts.add (h : c.Counts xs) (x : String) : (c.add x).Counts (xs ++ [x]) := by
  have hm (y : String) : y ∈ xs ++ [x] ↔ y = x ∨ y ∈ xs := by
    rw [List.mem_append, List.mem_singleton, or_comm]
  have hc (y : String) : (xs ++ [x]).count y = xs.count y + if x = y then 1 else 0 := by
    rw [List.count_append, List.count_singleton]
    simp only [beq_iff_eq]
  have hp (y : String) : y ∈ xs ↔ 0 < xs.count y := List.count_pos_iff.symm
  unfold Census.add
  split
  case isTrue hx =>
    have hx := (h.seen x).mp hx
    refine ⟨fun y => ?seen, fun y => ?again, sorted_insert h.sorted⟩
    case seen =>
      rw [hm, h.seen, or_iff_right_of_imp]
      rintro rfl
      exact hx
    case again =>
      rw [mem_insert, h.again, hc]
      by_cases he : x = y
      case pos =>
        subst he
        have := (hp x).mp hx
        simp only [true_or, if_true, true_iff]
        omega
      case neg => simp [he, Ne.symm he]
  case isFalse hx =>
    have hx : ¬0 < xs.count x := mt (hp x).mpr (mt (h.seen x).mpr hx)
    refine ⟨fun y => ?seen, fun y => ?again, h.sorted⟩
    case seen => rw [mem_insert, hm, h.seen]
    case again =>
      rw [h.again, hc]
      by_cases he : x = y
      case pos =>
        subst he
        rw [if_pos rfl]
        omega
      case neg => rw [if_neg he, Nat.add_zero]

theorem counts_of (xs : List String) : (of xs).Counts xs := by
  induction xs using List.reverseRecOn
  case nil => exact ⟨fun y => .rfl, fun y => by simp [of], .nil⟩
  case append_singleton xs x hi =>
    rw [of, List.foldl_append]
    exact hi.add x

theorem mem_again : x ∈ (of xs).again ↔ 2 ≤ xs.count x :=
  (counts_of xs).again x

theorem again_eq_nil_iff : (of xs).again = [] ↔ xs.Nodup := by
  simp only [List.eq_nil_iff_forall_not_mem, mem_again, List.nodup_iff_count, Nat.not_le,
    Nat.lt_succ_iff]

-- Names in order, each of them once, are told by what is among them.
theorem again_of_perm (h : xs.Perm ys) : (of xs).again = (of ys).again := by
  have hs := (counts_of xs).sorted
  have ht := (counts_of ys).sorted
  have nodup {zs : List String} (h : zs.Pairwise (· < ·)) : zs.Nodup := by
    refine h.imp ?_
    rintro x _ hl rfl
    exact String.lt_irrefl x hl
  have hp : (of xs).again.Perm (of ys).again := by
    refine (List.perm_ext_iff_of_nodup (nodup hs) (nodup ht)).mpr fun x => ?_
    rw [mem_again, mem_again, h.count_eq]
  exact hp.eq_of_pairwise (fun _ _ _ _ hl hg => absurd hg (String.lt_asymm hl)) hs ht

end Census

-- A detector that nothing is wrong with.
structure Sound (d : Detector) (limit : UInt64) : Prop where
  nonempty : d.features ≠ []
  bounded : d.features.length ≤ limit.toNat
  names : (d.features.map (·.name)).Nodup
  aggregations : (d.features.filterMap (·.aggregationName?)).Nodup

-- The names that occur more than once, each listed once, in the order of their octets.
structure Repeats (xs again : List String) : Prop where
  mem : ∀ x, x ∈ again ↔ 2 ≤ xs.count x
  sorted : again.Pairwise fun x y => Text.octets x < Text.octets y

theorem repeats_again (xs : List String) : Repeats xs (Census.of xs).again where
  mem _ := Census.mem_again
  sorted := (Census.counts_of xs).sorted.imp Text.octets_lt

def nameReport (names : List String) : String :=
  "Detector has duplicate feature names: " ++ ", ".intercalate names

def aggregationReport (aggregations : List String) : String :=
  "Detector has duplicate feature aggregation query names: " ++ ", ".intercalate aggregations

theorem message_repeatedNames {names aggregations : List String}
    (h : ¬(names = [] ∧ aggregations = [])) :
    (Problem.repeatedNames names aggregations).message =
      if aggregations = [] then nameReport names
      else if names = [] then aggregationReport aggregations
      else nameReport names ++ ". " ++ aggregationReport aggregations := by
  unfold Problem.message
  dsimp only
  split
  case isTrue hn =>
    rw [if_neg fun ha => h ⟨hn, ha⟩, if_neg fun ha => h ⟨hn, ha⟩]
    rfl
  case isFalse hn => split <;> rfl

variable {d : Detector} {limit : UInt64}

theorem problem?_of_bounds (hf : d.features ≠ []) (hl : d.features.length ≤ limit.toNat) :
    d.problem? limit =
      let names := (Census.of (d.features.map (·.name))).again
      let aggregations := (Census.of (d.features.filterMap (·.aggregationName?))).again
      if names = [] ∧ aggregations = [] then none
      else some (.repeatedNames names aggregations) := by
  rw [problem?, if_neg hf, if_neg (Nat.not_lt.mpr hl)]

theorem problem?_eq_none : d.problem? limit = none ↔ d.Sound limit := by
  by_cases hf : d.features = []
  case pos =>
    rw [problem?, if_pos hf]
    exact ⟨nofun, fun h => absurd hf h.nonempty⟩
  by_cases hl : d.features.length ≤ limit.toNat
  case neg =>
    rw [problem?, if_neg hf, if_pos (Nat.not_le.mp hl)]
    exact ⟨nofun, fun h => absurd h.bounded hl⟩
  case pos =>
    simp only [problem?_of_bounds hf hl, Census.again_eq_nil_iff, ite_eq_left_iff, reduceCtorEq,
      imp_false, not_not]
    exact ⟨fun ⟨hn, ha⟩ => ⟨hf, hl, hn, ha⟩, fun h => ⟨h.names, h.aggregations⟩⟩

theorem problem?_of_perm {features : List Feature} (h : features.Perm d.features) :
    { d with features }.problem? limit = d.problem? limit := by
  simp only [problem?, ← List.length_eq_zero_iff, h.length_eq, Census.again_of_perm (h.map _),
    Census.again_of_perm (h.filterMap _)]

theorem aggregationName?_eq_some {f : Feature} {name : String} :
    f.aggregationName? = some name ↔ ∃ body, f.query = .object [(name, body)] := by
  unfold Feature.aggregationName?
  split
  case h_1 name' body hq => simp [hq]
  case h_2 hq => exact ⟨nofun, fun ⟨body, h⟩ => (hq name body h).elim⟩

-- There is nothing wrong with a detector just if it has features, not too many of them, and no two
-- of one name or of one aggregation name, where they have one at all. If it fails for the names
-- only, then it is told which ones. The order of its features never matters.
theorem problem?_exact (d : Detector) (limit : UInt64) :
    (d.problem? limit = none ↔ d.Sound limit) ∧
    (d.features ≠ [] → d.features.length ≤ limit.toNat → ¬d.Sound limit →
      ∃ names aggregations, d.problem? limit = some (.repeatedNames names aggregations) ∧
        Repeats (d.features.map (·.name)) names ∧
        Repeats (d.features.filterMap (·.aggregationName?)) aggregations ∧
        (Problem.repeatedNames names aggregations).message =
          if aggregations = [] then nameReport names
          else if names = [] then aggregationReport aggregations
          else nameReport names ++ ". " ++ aggregationReport aggregations) ∧
    (∀ features : List Feature, features.Perm d.features →
      { d with features }.problem? limit = d.problem? limit) ∧
    ∀ (f : Feature) (name : String),
      f.aggregationName? = some name ↔ ∃ body, f.query = .object [(name, body)] := by
  refine ⟨problem?_eq_none, fun hf hl hs => ?_, fun _ => problem?_of_perm,
    fun _ _ => aggregationName?_eq_some⟩
  have hp := problem?_of_bounds hf hl
  have hn := mt problem?_eq_none.mp hs
  rw [hp] at hn
  have hr := mt (if_pos (t := none)) hn
  exact ⟨_, _, hp.trans (if_neg hr), repeats_again _, repeats_again _, message_repeatedNames hr⟩

-- Two names and one aggregation name that are there twice, with features in between that have no
-- aggregation name.
theorem problem?_exact_repeated :
    let named (name : String) : Json :=
      .object [(name, .object [("avg", .object [("field", .string "cpu")])])]
    let features : List Feature := [⟨none, "é", true, named "x"⟩, ⟨none, "a", true, named "x"⟩,
      ⟨none, "b", true, .null⟩, ⟨none, "é", false, .null⟩, ⟨none, "a", true, named "y"⟩]
    let d := { blank with features }
    d.features ≠ [] ∧ d.features.length ≤ (5 : UInt64).toNat ∧ ¬d.Sound 5 ∧
    Repeats (d.features.map (·.name)) ["a", "é"] ∧
    Repeats (d.features.filterMap (·.aggregationName?)) ["x"] ∧
    (d.problem? 5).map (·.message) = some ("Detector has duplicate feature names: a, é. " ++
      "Detector has duplicate feature aggregation query names: x") ∧
    { d with features := features.reverse }.problem? 5 = d.problem? 5 := by
  intro named features d
  have hp : d.problem? 5 = some (.repeatedNames ["a", "é"] ["x"]) := by decide
  have hf : d.features ≠ [] := by decide
  have hl : d.features.length ≤ (5 : UInt64).toNat := by decide
  obtain ⟨hn, hr, ho, _⟩ := problem?_exact d 5
  have hs : ¬d.Sound 5 := fun hs => nomatch hp.symm.trans (hn.mpr hs)
  obtain ⟨names, aggregations, hx, hy, hz, hm⟩ := hr hf hl hs
  cases hx.symm.trans hp
  refine ⟨hf, hl, hs, hy, hz, ?_, ho _ features.reverse_perm⟩
  rw [hp, Option.map_some, hm]
  rfl

end AnomalyDetection.Detector

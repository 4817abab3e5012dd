import AnomalyDetection.Proofs.Engine.Exact
import AnomalyDetection.Proofs.Engine.Extremes
import AnomalyDetection.Proofs.Engine.Presence

namespace AnomalyDetection

namespace Operator

-- How alike doubles are that an operator makes of the same observations in two orders.
def AlikeDoubles : Operator → Float → Float → Prop
  | valueCount => Eq
  | min | max => Quantity.Alike
  | avg | sum => fun _ _ => True

-- How alike quantities are whose sums do not depend on the order.
def AlikeSums {α : Type} : Operator → α → α → Prop
  | valueCount | avg | sum => Eq
  | min | max => fun _ _ => True

end Operator

namespace Accumulator

theorem rel_of_isSome {α : Type} {r : α → α → Prop} (hr : ∀ x y, r x y) {x y : Option α}
    (h : x.isSome = y.isSome) : Option.Rel r x y := by
  cases x <;> cases y
  case none.none => exact .none
  case none.some => cases h
  case some.none => cases h
  case some.some => exact .some (hr _ _)

theorem rel_eq_iff {α : Type} {x y : Option α} : Option.Rel Eq x y ↔ x = y := by
  constructor
  case mp =>
    rintro (h | _)
    · exact congrArg some h
    · rfl
  case mpr =>
    rintro rfl
    cases x
    case none => exact .none
    case some => exact .some rfl

theorem eq_nil_iff_of_perm {α : Type} {xs ys : List α} (h : xs.Perm ys) : xs = [] ↔ ys = [] := by
  rw [← List.length_eq_zero_iff, h.length_eq, List.length_eq_zero_iff]

theorem numbers_perm {α : Type} {os os' : List (Observation α)} (h : os.Perm os') :
    (Observation.numbers os).Perm (Observation.numbers os') :=
  h.filterMap _

section

variable {α : Type} [Quantity α] {os os' : List (Observation α)} (h : os.Perm os')

include h

theorem isSome_finish_perm (operator : Operator) :
    ((ofList os).finish operator).isSome = ((ofList os').finish operator).isSome := by
  have ho := eq_nil_iff_of_perm h
  have hn := eq_nil_iff_of_perm (numbers_perm h)
  rw [Bool.eq_iff_iff, isSome_finish, isSome_finish]
  cases operator
  case valueCount => exact Iff.rfl
  case avg | sum => exact not_congr ho
  case min | max => exact not_congr hn

theorem finish_valueCount_perm :
    (ofList os).finish .valueCount = (ofList os').finish .valueCount := by
  rw [finish_valueCount, finish_valueCount, h.length_eq]

theorem finish_perm_sums [Std.Associative (α := α) (· + ·)] [Std.Commutative (α := α) (· + ·)]
    (operator : Operator) : Option.Rel operator.AlikeSums
      ((ofList os).finish operator) ((ofList os').finish operator) := by
  have ht := total_perm (numbers_perm h)
  cases operator
  case valueCount => exact rel_eq_iff.mpr (finish_valueCount_perm h)
  case sum =>
    refine rel_eq_iff.mpr ?_
    simp only [finish_sum, eq_nil_iff_of_perm h, ht]
  case avg =>
    refine rel_eq_iff.mpr ?_
    simp only [finish_avg, eq_nil_iff_of_perm h, ht, h.length_eq]
  case min | max => exact rel_of_isSome (fun _ _ => trivial) (isSome_finish_perm h _)

end

theorem finish_perm_doubles {os os' : List (Observation Float)} (h : os.Perm os')
    (operator : Operator) : Option.Rel operator.AlikeDoubles
      ((ofList os).finish operator) ((ofList os').finish operator) := by
  cases operator
  case valueCount => exact rel_eq_iff.mpr (finish_valueCount_perm h)
  case min =>
    rw [finish_min, finish_min]
    exact Quantity.alike_extreme? Quantity.low_lesser Quantity.alike_of_low (numbers_perm h)
  case max =>
    rw [finish_max, finish_max]
    exact Quantity.alike_extreme? Quantity.high_greater Quantity.alike_of_high (numbers_perm h)
  case avg | sum => exact rel_of_isSome (fun _ _ => trivial) (isSome_finish_perm h _)

end Accumulator

-- Series with values in the same buckets, and with values there that are related.
structure Series.Alike {α : Type} (r : α → α → Prop) (s s' : Series α) : Prop where
  id : s'.id = s.id
  name : s'.name = s.name
  size : s'.values.size = s.values.size
  values : ∀ i : Nat, Option.Rel r s.values[i]?.join s'.values[i]?.join

namespace Extract

variable {α : Type} [Quantity α] {fs fs' : FileSystem} {dir dir' : String} {d : Detector}
  {indices : List String} {b : Buckets}

-- The rows that a detector reads.
def rowsRead (fs : FileSystem) (dir : String) (d : Detector) : List Json :=
  (allLines fs dir d).filterMap fun line => Json.read? (line.map some)

-- Only the row of a line and the time field of a detector matter to what the line shows.
theorem observation?_eq_bind (d : Detector) (b : Buckets) (filter : Filter) (field : String)
    (i : Nat) : ∃ seen : Json → Option (Observation α), ∀ line,
      observation? d b filter field i line = (Json.read? (line.map some)).bind seen :=
  ⟨_, fun _ => rfl⟩

theorem observations_perm
    (h : (rowsRead fs dir d).Perm (rowsRead fs' dir' { d with indices })) (filter : Filter)
    (a : Aggregation) (i : Nat) :
    (observations α fs dir d b filter a i).Perm
      (observations α fs' dir' { d with indices } b filter a i) := by
  have ⟨seen, hs⟩ := observation?_eq_bind (α := α) d b filter a.field i
  have ho : observations α fs dir d b filter a i = (rowsRead fs dir d).filterMap seen := by
    rw [rowsRead, List.filterMap_filterMap]
    exact List.filterMap_congr fun line _ => hs line
  have ho' : observations α fs' dir' { d with indices } b filter a i =
      (rowsRead fs' dir' { d with indices }).filterMap seen := by
    rw [rowsRead, List.filterMap_filterMap]
    exact List.filterMap_congr fun line _ => hs line
  rw [ho, ho']
  exact h.filterMap _

theorem IsGroupBy.alike {filter : Filter} {f : Feature} {a : Aggregation} {s s' : Series α}
    {r : α → α → Prop} (hs : IsGroupBy fs dir d b filter f a s)
    (hs' : IsGroupBy fs' dir' { d with indices } b filter f a s')
    (hr : ∀ {os os' : List (Observation α)}, os.Perm os' →
      Option.Rel r ((Accumulator.ofList os).finish a.operator)
        ((Accumulator.ofList os').finish a.operator))
    (h : (rowsRead fs dir d).Perm (rowsRead fs' dir' { d with indices })) : s.Alike r s' where
  id := hs'.id.trans hs.id.symm
  name := hs'.name.trans hs.name.symm
  size := hs'.size.trans hs.size.symm
  values i := by
    rcases lt_or_ge i b.count with hi | hi
    · rw [hs.value_eq hi, hs'.value_eq hi]
      exact hr (observations_perm h filter a i)
    · rw [Array.getElem?_eq_none (hs.size.trans_le hi),
        Array.getElem?_eq_none (hs'.size.trans_le hi)]
      exact .none

-- What is extracted of some files is extracted of others, too, feature by feature.
def Kept (r : Operator → α → α → Prop) (fs : FileSystem) (dir : String) (d : Detector)
    (fs' : FileSystem) (dir' : String) (indices : List String) (b : Buckets) : Prop :=
  ∀ all : List (Series α), extract fs dir d b = .ok all →
    ∃ all', extract fs' dir' { d with indices } b = .ok all' ∧ all'.length = all.length ∧
      List.Forall₂
        (fun f p => ∃ a, Aggregation.ofFeature f = .ok a ∧ p.1.Alike (r a.operator) p.2)
        d.enabledFeatures (all.zip all')

-- What stays the same if rows are rearranged.
structure Unmoved (fs : FileSystem) (dir : String) (d : Detector) (fs' : FileSystem)
    (dir' : String) (indices : List String) (b : Buckets) : Prop where
  doubles : Kept Operator.AlikeDoubles fs dir d fs' dir' indices b
  sums : ∀ {α : Type} [Quantity α] [Std.Associative (α := α) (· + ·)]
    [Std.Commutative (α := α) (· + ·)], Kept (α := α) Operator.AlikeSums fs dir d fs' dir' indices b

theorem forall₂_zip {β γ δ : Type} {p : β → γ → Prop} {q : β → δ → Prop} {xs : List β}
    {ys : List γ} {zs : List δ} (hy : List.Forall₂ p xs ys) (hz : List.Forall₂ q xs zs) :
    List.Forall₂ (fun x yz => p x yz.1 ∧ q x yz.2) xs (ys.zip zs) := by
  induction hy generalizing zs
  case nil => cases hz; exact .nil
  case cons hp _ hi =>
    cases hz
    case cons hq hz => exact .cons ⟨hp, hq⟩ (hi hz)

theorem kept_of_rows {r : Operator → α → α → Prop}
    (hr : ∀ {os os' : List (Observation α)}, os.Perm os' → ∀ operator,
      Option.Rel (r operator) ((Accumulator.ofList os).finish operator)
        ((Accumulator.ofList os').finish operator))
    (h : (rowsRead fs dir d).Perm (rowsRead fs' dir' { d with indices }))
    (hx : ∀ index ∈ indices, Readable fs' dir' index) : Kept r fs dir d fs' dir' indices b := by
  intro all he
  have ⟨filter, hf, hg⟩ := extract_eq_ok he
  have ha := (parts_of_extract he).right.left
  have ⟨all', he', hg'⟩ :=
    extract_of_readable (α := α) (b := b) (d := { d with indices }) hf ha hx
  refine ⟨all', he', hg'.length_eq.symm.trans hg.length_eq, (forall₂_zip hg hg').imp ?_⟩
  rintro f ⟨s, s'⟩ ⟨⟨a, ho, hs⟩, a', ho', hs'⟩
  cases ho.symm.trans ho'
  exact ⟨a, ho, hs.alike hs' (fun h => hr h a.operator) h⟩

theorem unmoved_of_rows (h : (rowsRead fs dir d).Perm (rowsRead fs' dir' { d with indices }))
    (hx : ∀ index ∈ indices, Readable fs' dir' index) : Unmoved fs dir d fs' dir' indices b where
  doubles := kept_of_rows Accumulator.finish_perm_doubles h hx
  sums := kept_of_rows (fun h => Accumulator.finish_perm_sums h) h hx

theorem rowsRead_perm (fs : FileSystem) (dir : String) (h : d.indices.Perm indices) :
    (rowsRead fs dir d).Perm (rowsRead fs dir { d with indices }) :=
  (h.flatMap_right _).filterMap _

-- The extraction of the rows of a detector whose indices have changed their places needs nothing
-- that the one before did not need.
theorem unmoved_of_indices (h : d.indices.Perm indices) : Unmoved fs dir d fs dir indices b where
  doubles all he := kept_of_rows Accumulator.finish_perm_doubles (rowsRead_perm fs dir h)
    (fun index hi => (parts_of_extract he).right.right index (h.mem_iff.mpr hi)) all he
  sums all he := kept_of_rows (fun h => Accumulator.finish_perm_sums h) (rowsRead_perm fs dir h)
    (fun index hi => (parts_of_extract he).right.right index (h.mem_iff.mpr hi)) all he

-- The rows of the indices may stand in any order and in any of the files, and the indices may be
-- named in any order.
theorem extract_rearranged (fs : FileSystem) (dir : String) (d : Detector) (b : Buckets) :
    (∀ (fs' : FileSystem) (dir' : String) (indices : List String),
      (rowsRead fs dir d).Perm (rowsRead fs' dir' { d with indices }) →
      (∀ index ∈ indices, Readable fs' dir' index) → Unmoved fs dir d fs' dir' indices b) ∧
    ∀ indices : List String, d.indices.Perm indices → Unmoved fs dir d fs dir indices b :=
  ⟨fun _ _ _ => unmoved_of_rows, fun _ => unmoved_of_indices⟩

-- Three rows that change their order and their files, and two indices that change their places. In
-- exact arithmetic the sum is the same.
theorem extract_rearranged_three_rows :
    let query : Json := .object [("a", .object [("sum", .object [("field", .string "x")])])]
    let d := { Detector.blank with
      timeField := "t", indices := ["m", "n"], features := [⟨none, "f", true, query⟩] }
    let fs : FileSystem := ⟨[
      (["m.jsonl"], .file (Text.octets "\x7b\"t\":0,\"x\":1\x7d\n\x7b\"t\":0,\"x\":0\x7d\n")),
      (["n.jsonl"], .file (Text.octets "\x7b\"t\":0,\"x\":-0\x7d\n"))], []⟩
    let fs' : FileSystem := ⟨[
      (["m.jsonl"], .file (Text.octets "\x7b\"t\":0,\"x\":-0\x7d\n")),
      (["n.jsonl"], .file (Text.octets "\x7b\"t\":0,\"x\":0\x7d\n\x7b\"t\":0,\"x\":1\x7d"))], []⟩
    let b : Buckets := ⟨.ofParts 0 0 0, .ofMillis 60000, 1⟩
    (rowsRead fs "/" d).Perm (rowsRead fs' "/" { d with indices := ["m", "n"] }) ∧
    (∀ index ∈ ["m", "n"], Readable fs' "/" index) ∧
    d.indices.Perm ["n", "m"] ∧ Unmoved fs "/" d fs "/" ["n", "m"] b ∧
    (∃ s : Series Float, extract fs "/" d b = .ok [s] ∧ s.values = #[some 1]) ∧
    ∃ s s' : Series ℝ, extract fs "/" d b = .ok [s] ∧ extract fs' "/" d b = .ok [s'] ∧
      s'.values[0]?.join = s.values[0]?.join := by
  intro query d fs fs' b
  have hr : (rowsRead fs "/" d).Perm (rowsRead fs' "/" { d with indices := ["m", "n"] }) := by
    have hl : (allLines fs "/" d).Perm (allLines fs' "/" d) := by decide +kernel
    exact hl.filterMap _
  have hx : ∀ index ∈ ["m", "n"], Readable fs' "/" index := by
    have ht : ∀ index ∈ ["m", "n"], (fs'.readText (indexPath "/" index)).toOption.isSome := by
      decide +kernel
    intro index hm e he
    have ht := ht index hm
    rw [he] at ht
    cases ht
  have hv : (extract (α := Float) fs "/" d b).toOption.map (·.map (·.values)) =
      some [#[some 1]] := by
    decide +kernel
  have ⟨all, he, hv⟩ := Option.map_eq_some_iff.mp hv
  obtain ⟨s, rfl, hs⟩ := List.map_eq_singleton_iff.mp hv
  have he := Outcome.eq_ok_of_toOption he
  have hp : d.indices.Perm ["n", "m"] := .swap "n" "m" []
  have ⟨hu, hi⟩ := extract_rearranged fs "/" d b
  refine ⟨hr, hx, hp, hi _ hp, ⟨s, he, hs⟩, ?_⟩
  have ⟨⟨filter, hf⟩, ha, hy⟩ := parts_of_extract he
  have ⟨all, he, hg⟩ := extract_of_readable (α := ℝ) (b := b) hf ha hy
  have ⟨all', he', hn, hk⟩ := (hu fs' "/" _ hr hx).sums all he
  obtain ⟨s, rfl⟩ := List.length_eq_one_iff.mp hg.length_eq.symm
  obtain ⟨s', rfl⟩ := List.length_eq_one_iff.mp hn
  refine ⟨s, s', he, he', ?_⟩
  have ⟨⟨a, ho, hs⟩, _⟩ := List.forall₂_cons.mp hk
  cases ho
  exact (Accumulator.rel_eq_iff.mp (hs.values 0)).symm

end Extract
end AnomalyDetection

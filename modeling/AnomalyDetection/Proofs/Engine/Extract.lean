import AnomalyDetection.Detector.Form
import AnomalyDetection.Engine.Extract
import AnomalyDetection.Proofs.Files
import AnomalyDetection.Proofs.Json.Blank
import AnomalyDetection.Proofs.Outcome
import AnomalyDetection.Proofs.Traversal

namespace AnomalyDetection.Extract

variable {α : Type} [Quantity α]

-- The lines of an index; one without a file has none.
def linesOf (fs : FileSystem) (dir index : String) : List (List Char) :=
  match fs.readText (indexPath dir index) with
  | .ok s => Text.lines s
  | .error _ => []

-- All lines that a detector reads, as often as it names their index.
def allLines (fs : FileSystem) (dir : String) (d : Detector) : List (List Char) :=
  d.indices.flatMap (linesOf fs dir)

-- What a line shows of a field in one bucket. It has to be JSON, with a time that lies in the
-- bucket; the filter has to take the row, and the field has to have a value.
def observation? (d : Detector) (b : Buckets) (filter : Filter) (field : String) (i : Nat)
    (line : List Char) : Option (Observation α) := do
  let row ← Json.read? (line.map some)
  let time ← row.field? d.timeField
  let t ← (Instant.ofTimestamp time).toOption
  if b.indexOf? t = some i ∧ filter.accepts row then
    (row.field? field).map fun value =>
      match value.numeric? with
      | some x => .number (Quantity.ofFloat x)
      | none => .present
  else none

-- What the grouping says that a series should be.
structure IsGroupBy (fs : FileSystem) (dir : String) (d : Detector) (b : Buckets) (filter : Filter)
    (f : Feature) (a : Aggregation) (s : Series α) : Prop where
  id : s.id = f.key
  name : s.name = f.name
  size : s.values.size = b.count
  values : ∀ i < b.count, s.values[i]? = some
    ((Accumulator.ofList ((allLines fs dir d).filterMap (observation? d b filter a.field i))).finish
      a.operator)

-- What a row that has been placed shows in one bucket.
def shown? (a : Aggregation) (i : Nat) (row : Nat × Json) : Option (Observation α) :=
  if row.1 = i then a.observation? row.2 else none

theorem getElem?_note (a : Aggregation) (totals : Array (Accumulator α)) (row : Nat × Json)
    (i : Nat) :
    (note a totals row)[i]? =
      totals[i]?.map fun t => (shown? a i row).toList.foldl Accumulator.observe t := by
  simp only [note, shown?]
  cases (a.observation? row.2 : Option (Observation α))
  case none => simp
  case some o => by_cases h : row.1 = i <;> simp [Array.getElem?_modify, h]

theorem getElem?_foldl_note (a : Aggregation) (rows : List (Nat × Json))
    (totals : Array (Accumulator α)) (i : Nat) :
    (rows.foldl (note a) totals)[i]? =
      totals[i]?.map fun t => (rows.filterMap (shown? a i)).foldl Accumulator.observe t := by
  induction rows generalizing totals
  case nil => simp
  case cons row rows hi =>
    rw [List.foldl_cons, hi, getElem?_note, Option.map_map]
    congr
    funext t
    cases h : (shown? a i row : Option (Observation α)) <;> simp [h]

theorem getElem?_tally (count : Nat) (a : Aggregation) (rows : List (Nat × Json)) {i : Nat}
    (h : i < count) :
    (tally count a rows : Array (Accumulator α))[i]? =
      some (.ofList (rows.filterMap (shown? a i))) := by
  simp [tally, getElem?_foldl_note, h, Accumulator.ofList]

theorem size_note (a : Aggregation) (totals : Array (Accumulator α)) (row : Nat × Json) :
    (note a totals row).size = totals.size := by
  unfold note
  split <;> simp

theorem size_tally (count : Nat) (a : Aggregation) (rows : List (Nat × Json)) :
    (tally count a rows : Array (Accumulator α)).size = count := by
  have step (totals : Array (Accumulator α)) : (rows.foldl (note a) totals).size = totals.size := by
    induction rows generalizing totals
    case nil => rfl
    case cons hi => rw [List.foldl_cons, hi, size_note]
  rw [tally, step, Array.size_replicate]

-- A line is placed in a bucket and then looked at; blank lines, which are never placed, would not
-- have been JSON either.
theorem place?_bind_shown? (d : Detector) (b : Buckets) (filter : Filter) (a : Aggregation)
    (i : Nat) (line : List Char) :
    (place? d b filter line).bind (shown? a i) =
      (observation? d b filter a.field i line : Option (Observation α)) := by
  unfold place? observation?
  by_cases hb : Text.allBlank line
  case pos => simp [hb, Json.read?_of_allBlank]
  case neg =>
    simp only [hb, Bool.false_eq_true, if_false, bind, Option.bind_assoc]
    congr; funext row
    congr; funext time
    congr; funext t
    cases b.indexOf? t
    case none => simp
    case some j =>
      by_cases hj : j = i <;> by_cases hf : filter.accepts row
      case pos =>
        simp only [hj, hf, shown?, and_self, if_true, Option.bind_some]
        rfl
      all_goals simp [hj, hf, shown?]

theorem series_isGroupBy {fs : FileSystem} {dir : String} {d : Detector} {b : Buckets}
    {filter : Filter} (f : Feature) (a : Aggregation) :
    IsGroupBy fs dir d b filter f a
      (series b.count ((allLines fs dir d).filterMap (place? d b filter)) f a : Series α) where
  id := rfl
  name := rfl
  size := by simp [series, size_tally]
  values i h := by
    simp only [series, Array.getElem?_map, getElem?_tally _ _ _ h, Option.map_some,
      List.filterMap_filterMap, place?_bind_shown?]

theorem indexLines_eq_linesOf {fs : FileSystem} {dir index : String}
    (h : ∀ e, fs.readText (indexPath dir index) = .error e → e = .notFound) :
    indexLines fs dir index = .ok (linesOf fs dir index) := by
  unfold indexLines linesOf
  cases ht : fs.readText (indexPath dir index)
  case ok => rfl
  case error e => rw [h e ht]

theorem indexLines_error {fs : FileSystem} {dir index : String} {e : FileFault}
    (h : fs.readText (indexPath dir index) = .error e) (hn : e ≠ .notFound) :
    indexLines fs dir index = .error e := by
  unfold indexLines
  rw [h]
  cases e <;> first | rfl | contradiction

-- Reading an index either gives a text or says that there is no such file.
def Readable (fs : FileSystem) (dir index : String) : Prop :=
  ∀ e, fs.readText (indexPath dir index) = .error e → e = .notFound

variable {fs : FileSystem} {dir : String} {d : Detector} {b : Buckets} {filter : Filter}

variable (fs dir b) in
-- Once query and aggregations are understood, all that is left to go wrong is the reading.
theorem exists_extract_eq (hf : Filter.ofQuery d.filter = .ok filter)
    (ha : ∀ f ∈ d.enabledFeatures, ∃ a, Aggregation.ofFeature f = .ok a) :
    ∃ features : List (Feature × Aggregation),
      List.Forall₂ (fun f p => p.1 = f ∧ Aggregation.ofFeature f = .ok p.2)
        d.enabledFeatures features ∧
      (extract fs dir d b : Except Engine.Fault (List (Series α))) =
        match d.indices.mapM (indexLines fs dir) with
        | .error e => .error (.file e)
        | .ok lines => .ok <| features.map fun (f, a) =>
          series b.count (lines.flatten.filterMap (place? d b filter)) f a := by
  have hp : ∀ f ∈ d.enabledFeatures, ∃ p, (Aggregation.ofFeature f).map (f, ·) = .ok p := by
    intro f hm
    have ⟨a, h⟩ := ha f hm
    exact ⟨(f, a), by rw [h]; rfl⟩
  have ⟨features, hm, hr⟩ := Traversal.exists_mapM_ok hp
  refine ⟨features, hr.imp ?features, ?lines⟩
  case features =>
    intro f p h
    cases ho : Aggregation.ofFeature f <;> rw [ho] at h <;> cases h
    exact ⟨rfl, rfl⟩
  case lines =>
    unfold extract
    simp only [hf, hm]
    cases d.indices.mapM (indexLines fs dir) <;> rfl

theorem extract_of_readable (hf : Filter.ofQuery d.filter = .ok filter)
    (ha : ∀ f ∈ d.enabledFeatures, ∃ a, Aggregation.ofFeature f = .ok a)
    (h : ∀ index ∈ d.indices, Readable fs dir index) :
    ∃ all : List (Series α), extract fs dir d b = .ok all ∧
      List.Forall₂
        (fun f s => ∃ a, Aggregation.ofFeature f = .ok a ∧ IsGroupBy fs dir d b filter f a s)
        d.enabledFeatures all := by
  have ⟨features, hr, he⟩ := exists_extract_eq (α := α) fs dir b hf ha
  have hl : d.indices.mapM (indexLines fs dir) = .ok (d.indices.map (linesOf fs dir)) :=
    Traversal.mapM_eq_map fun index hi => indexLines_eq_linesOf (h index hi)
  rw [hl] at he
  refine ⟨_, he, List.forall₂_map_right_iff.mpr (hr.imp ?_)⟩
  rintro _ ⟨f, a⟩ ⟨rfl, ho⟩
  exact ⟨a, ho, series_isGroupBy f a⟩

theorem extract_of_unreadable (hf : Filter.ofQuery d.filter = .ok filter)
    (ha : ∀ f ∈ d.enabledFeatures, ∃ a, Aggregation.ofFeature f = .ok a)
    {front back : List String} {index : String} {e : FileFault}
    (hd : d.indices = front ++ index :: back) (h : ∀ index ∈ front, Readable fs dir index)
    (hx : fs.readText (indexPath dir index) = .error e) (hn : e ≠ .notFound) :
    (extract fs dir d b : Except Engine.Fault (List (Series α))) = .error (.file e) := by
  have ⟨_, _, he⟩ := exists_extract_eq (α := α) fs dir b hf ha
  have hl : d.indices.mapM (indexLines fs dir) = .error e := by
    rw [hd]
    exact Traversal.mapM_first_error (fun i hi => ⟨_, indexLines_eq_linesOf (h i hi)⟩)
      (indexLines_error hx hn)
  rw [he, hl]

-- What an extraction that has come out has found in order.
theorem parts_of_extract {all : List (Series α)} (h : extract fs dir d b = .ok all) :
    (∃ filter, Filter.ofQuery d.filter = .ok filter) ∧
    (∀ f ∈ d.enabledFeatures, ∃ a, Aggregation.ofFeature f = .ok a) ∧
    ∀ index ∈ d.indices, Readable fs dir index := by
  have ⟨filter, hf, hr⟩ := Outcome.bind_eq_ok h
  have ⟨features, hm, hr⟩ := Outcome.bind_eq_ok hr
  have ⟨lines, hl, _⟩ := Outcome.bind_eq_ok hr
  refine ⟨⟨filter, hf⟩, fun f hd => ?aggregations, fun index hd e he => ?readable⟩
  case aggregations =>
    have ⟨_, h⟩ := Traversal.exists_of_mapM_ok hm f hd
    have ⟨a, ha, _⟩ := Outcome.map_eq_ok h
    exact ⟨a, ha⟩
  case readable =>
    have ⟨_, h⟩ := Traversal.exists_of_mapM_ok (Outcome.mapError_eq_ok hl) index hd
    by_contra hn
    cases h.symm.trans (indexLines_error he hn)

theorem extract_eq_ok {all : List (Series α)} (h : extract fs dir d b = .ok all) :
    ∃ filter, Filter.ofQuery d.filter = .ok filter ∧
      List.Forall₂
        (fun f s => ∃ a, Aggregation.ofFeature f = .ok a ∧ IsGroupBy fs dir d b filter f a s)
        d.enabledFeatures all := by
  have ⟨⟨filter, hf⟩, ha, hx⟩ := parts_of_extract h
  have ⟨all', he, hg⟩ := extract_of_readable (α := α) (b := b) hf ha hx
  cases h.symm.trans he
  exact ⟨filter, hf, hg⟩

-- A value of a series is what is left of the lines of all indices, in order, once they are narrowed
-- down to its feature and its bucket.
theorem extract_eq_groupBy (hf : Filter.ofQuery d.filter = .ok filter)
    (ha : ∀ f ∈ d.enabledFeatures, ∃ a, Aggregation.ofFeature f = .ok a) :
    ((∀ index ∈ d.indices, Readable fs dir index) →
      ∃ all : List (Series α), extract fs dir d b = .ok all ∧
        List.Forall₂
          (fun f s => ∃ a, Aggregation.ofFeature f = .ok a ∧ IsGroupBy fs dir d b filter f a s)
          d.enabledFeatures all) ∧
    (∀ front index back e, d.indices = front ++ index :: back →
      (∀ index ∈ front, Readable fs dir index) →
      fs.readText (indexPath dir index) = .error e → e ≠ .notFound →
      (extract fs dir d b : Except Engine.Fault (List (Series α))) = .error (.file e)) :=
  ⟨extract_of_readable hf ha, fun _ _ _ _ => extract_of_unreadable hf ha⟩

-- An index that is named twice, around one without a file.
theorem extract_groupBy_named_twice :
    let query : Json := .object [("a", .object [("sum", .object [("field", .string "x")])])]
    let d := { Detector.blank with
      timeField := "t", indices := ["m", "n", "m"], features := [⟨none, "f", true, query⟩] }
    let fs : FileSystem :=
      ⟨[(["m.jsonl"], .file (Text.octets "\x7b\"t\":0,\"x\":2\x7d"))], []⟩
    let b : Buckets := ⟨.ofParts 0 0 0, .ofMillis 60000, 2⟩
    Filter.ofQuery d.filter = .ok .all ∧
    (∀ f ∈ d.enabledFeatures, ∃ a, Aggregation.ofFeature f = .ok a) ∧
    (∀ index ∈ d.indices, Readable fs "/" index) ∧
    ∃ all : List (Series Float), extract fs "/" d b = .ok all ∧
      List.Forall₂
        (fun f s => ∃ a, Aggregation.ofFeature f = .ok a ∧ IsGroupBy fs "/" d b .all f a s)
        d.enabledFeatures all := by
  intro query d fs b
  have hf : Filter.ofQuery d.filter = .ok .all := rfl
  have ha : ∀ f ∈ d.enabledFeatures, ∃ a, Aggregation.ofFeature f = .ok a := by
    intro f hm
    cases List.mem_singleton.mp hm
    exact ⟨⟨"a", .sum, "x"⟩, rfl⟩
  have hm : fs.readText (indexPath "/" "m") = .ok "\x7b\"t\":0,\"x\":2\x7d".toList := by
    decide +kernel
  have hn : fs.readText (indexPath "/" "n") = .error .notFound := by decide +kernel
  have hr : ∀ index ∈ d.indices, Readable fs "/" index := by
    simp [d, Readable, hm, hn]
  exact ⟨hf, ha, hr, (extract_eq_groupBy hf ha).left hr⟩

theorem utf8ByteSize_replicate (n : Nat) :
    (String.ofList (List.replicate n 'a')).utf8ByteSize = n :=
  (Files.utf8ByteSize_replicate 'a' n).trans (Nat.mul_one n)

-- A path has at most 4095 octets. An index with a longer name has no file, and yet it is not passed
-- over: the empty directory has no series for it.
theorem not_extract_long_index :
    let query : Json :=
      .object [("a", .object [("value_count", .object [("field", .string "x")])])]
    let d := { Detector.blank with
      indices := [String.ofList (List.replicate 4096 'a')],
      features := [⟨none, "f", true, query⟩] }
    let fs : FileSystem := ⟨[], []⟩
    let b : Buckets := ⟨.ofParts 0 0 0, .ofMillis 60000, 1⟩
    Buckets.split (.ofParts 0 0 0) (.ofParts 0 60 0) (.ofMillis 60000) 1 = .ok b ∧
    Filter.ofQuery d.filter = .ok .all ∧
    (∀ f ∈ d.enabledFeatures, ∃ a, Aggregation.ofFeature f = .ok a) ∧
    ¬∃ all : List (Series Float), extract fs "/" d b = .ok all := by
  intro query d fs b
  have ha : Aggregation.ofFeature ⟨none, "f", true, query⟩ = .ok ⟨"a", .valueCount, "x"⟩ := rfl
  have hd : ∀ f ∈ d.enabledFeatures, ∃ a, Aggregation.ofFeature f = .ok a := by
    intro f hm
    cases List.mem_singleton.mp hm
    exact ⟨_, ha⟩
  have hl (n : Nat) (hn : Files.pathLimit < n) :
      fs.readText (indexPath "/" (String.ofList (List.replicate n 'a'))) =
        .error .nameTooLong := by
    refine FileSystem.readText_of_long (Files.zero_notMem_join (by simp) (by simp)) ?_
    refine Nat.lt_of_lt_of_le ?_ (Files.size_join ..)
    rw [String.utf8ByteSize_append, utf8ByteSize_replicate]
    omega
  refine ⟨by decide +kernel, rfl, hd, ?_⟩
  rintro ⟨all, h⟩
  have he : (extract fs "/" d b : Except Engine.Fault (List (Series Float))) =
      .error (.file .nameTooLong) :=
    extract_of_unreadable (show Filter.ofQuery d.filter = .ok .all from rfl) hd rfl
      (List.forall_mem_nil _) (hl 4096 (by decide)) nofun
  rw [he] at h
  cases h

end AnomalyDetection.Extract

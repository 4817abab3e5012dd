import AnomalyDetection.Proofs.Detector.Interval
import AnomalyDetection.Proofs.Engine.Execution
import AnomalyDetection.Proofs.Engine.Extract

namespace AnomalyDetection

section

variable {α : Type}

-- Results of one length. The first one starts at an instant, each other one where the one before
-- ends, and the last one ends at another instant.
def Tiles (length : Span) : Instant → List (AnomalyResult α) → Instant → Prop
  | first, [], last => first = last
  | first, r :: rs, last =>
    r.start = first ∧ r.stop - r.start = length ∧ Tiles length r.stop rs last

-- Whether a row of a time is one of a result. Time counts from the start of the window, and the
-- first result also takes what is less than a millisecond early.
def AnomalyResult.Covers (r : AnomalyResult α) (start t : Instant) : Prop :=
  (r.start - start).nanoseconds ≤ (t - start).nanoseconds ∧
    (t - start).nanoseconds < (r.stop - start).nanoseconds ∨
  r.start = start ∧ -1000000 < (t - start).nanoseconds ∧ (t - start).nanoseconds < 0

variable {b : Buckets} {start stop : Instant} {limit : Nat} {ms : Int}
  (hs : start.InRange) (he : stop.InRange) (hl : start.inLeapSecond = false)
  (hb : Buckets.split start stop (.ofMillis ms) limit = .ok b)

include hs he hl hb

-- The induction is on the number of buckets behind the first one.
theorem tiles_range' {f : Nat → AnomalyResult α} (hf : ∀ i, ((f i).start, (f i).stop) = b.bounds i)
    {k n : Nat} (h : k + n < b.count) :
    Tiles (.ofMillis ms) (b.bounds k).1 ((List.range' k (n + 1)).map f) (b.bounds (k + n)).2 := by
  have hf₁ (i : Nat) : (f i).start = (b.bounds i).1 := congrArg Prod.fst (hf i)
  have hf₂ (i : Nat) : (f i).stop = (b.bounds i).2 := congrArg Prod.snd (hf i)
  have hd {i : Nat} (hi : i < b.count) : (f i).stop - (f i).start = Span.ofMillis ms := by
    rw [hf₁, hf₂, Buckets.bounds_sub hs he hl hb hi]
  induction n generalizing k
  case zero => exact ⟨hf₁ k, hd h, hf₂ k⟩
  case succ n hi =>
    have hk : k + (n + 1) = k + 1 + n := by omega
    refine ⟨hf₁ k, hd (by omega), ?_⟩
    rw [hf₂, ← Buckets.bounds_succ hs he hl hb (by omega), hk]
    exact hi (hk ▸ h)

theorem covers_iff {r : AnomalyResult α} {i : Nat} (hi : i < b.count)
    (hr : (r.start, r.stop) = b.bounds i) {t : Instant} :
    b.indexOf? t = some i ↔ r.Covers start t := by
  have ⟨hm, _, hb'⟩ := Buckets.split_eq_ok hb
  rw [Span.millis_ofMillis] at hm
  have hbi : b.interval = .ofMillis ms := by rw [hb']
  have hbs : b.start = start := by rw [hb']
  have ⟨h₁, h₂, hc₁, hc₂⟩ := Buckets.bounds_of_split hs he hl hb (Nat.le_of_lt hi)
  rw [← hr] at h₁ h₂ hc₁ hc₂
  have hz : r.start = start ↔ i = 0 := by
    constructor
    case mp =>
      intro h
      have hn : ms * i = 0 := by
        rw [h] at hc₁
        dsimp only at hc₁
        omega
      exact Int.natCast_eq_zero.mp ((Int.mul_eq_zero.mp hn).resolve_left (Int.ne_of_gt hm))
    case mpr =>
      rintro rfl
      exact Instant.eq_of_clock h₁ hl (by simpa using hc₁)
  rw [Buckets.indexOf?_iff_elapsed hbi hm, hbs, AnomalyResult.Covers, hz,
    Instant.nanoseconds_sub h₁ hl, Instant.nanoseconds_sub h₂ hl, hc₁, hc₂]
  simp only [hi, true_and, Int.add_comm start.clock, Int.add_sub_cancel]

end

namespace Score

variable {α : Type} [Quantity α] {d : Detector} {b : Buckets} {all : List (Series α)}
  {threshold : α}

theorem tiles_buckets {start stop : Instant} {limit : Nat} {ms : Int} (hs : start.InRange)
    (he : stop.InRange) (hl : start.inLeapSecond = false)
    (hb : Buckets.split start stop (.ofMillis ms) limit = .ok b) :
    Tiles (.ofMillis ms) start (buckets d b all threshold) (b.bounds (b.count - 1)).2 := by
  have hc := Buckets.count_pos hb
  let f := bucket d b (all.map fun s => (s, statistics? s.values.toList)) threshold
  have hf (i : Nat) : ((f i).start, (f i).stop) = b.bounds i := rfl
  have ht := tiles_range' hs he hl hb hf (k := 0) (n := b.count - 1) (by omega)
  rw [Buckets.bounds_zero hs he hl hb, Nat.sub_add_cancel hc, ← List.range_eq_range',
    Nat.zero_add] at ht
  exact ht

end Score

variable {α : Type} [Quantity α] {fs : FileSystem} {dir : String} {d : Detector}
  {start stop : Instant} {limit : Nat} {threshold : α} {results : List (AnomalyResult α)}

variable (fs dir d start stop limit) in
-- Results in line with the window, with the features of the detector, and with the series that were
-- extracted for them.
structure Aligned (b : Buckets) (series : List (Series α)) (results : List (AnomalyResult α)) :
    Prop where
  nonempty : results ≠ []
  bounded : results.length ≤ limit
  tiled : ∃ last, Tiles d.interval.length start results last ∧
    last ≤ stop ∧ stop < last + d.interval.length
  ids : ∀ r ∈ results, r.detectorId = d.id
  features : ∀ r ∈ results, List.Forall₂
    (fun (f : Feature) (x : FeatureData α) => x.id = f.key ∧ x.name = f.name)
    d.enabledFeatures r.features
  data : ∀ (i : Nat) (r : AnomalyResult α), results[i]? = some r → List.Forall₂
    (fun (s : Series α) (x : FeatureData α) => s.values[i]? = some x.data) series r.features
  sizes : ∀ s ∈ series, s.values.size = results.length
  split : Buckets.split start stop d.interval.length limit = .ok b
  extracted : extract fs dir d b = .ok series
  -- The rows of a bucket are those of the result's own time.
  covered : ∀ (i : Nat) (r : AnomalyResult α), results[i]? = some r →
    ∀ t, b.indexOf? t = some i ↔ r.Covers start t
  grouped : ∃ filter, Filter.ofQuery d.filter = .ok filter ∧
    List.Forall₂
      (fun f s => ∃ a, Aggregation.ofFeature f = .ok a ∧
        Extract.IsGroupBy fs dir d b filter f a s)
      d.enabledFeatures series

-- The results of an execution lie one behind the other in the window, and each shows what was
-- extracted for its own time.
theorem aligned_of_execute (hs : start.InRange) (he : stop.InRange)
    (hl : start.inLeapSecond = false) (hx : stop.inLeapSecond = false)
    (h : execute (extract fs dir) threshold limit d start stop = .ok results) :
    ∃ b series, Aligned fs dir d start stop limit b series results := by
  have ⟨_, interval, b, series, hi, hb, hr, hres⟩ := execute_eq_ok.mp h
  have ⟨_, hl'⟩ := Interval.span_eq_ok hi
  subst hl'
  have ⟨filter, hf, hg⟩ := Extract.extract_eq_ok hr
  have hc := Buckets.count_pos hb
  have hn : results.length = b.count := hres ▸ Score.length_buckets
  have hz : ∀ s ∈ series, s.values.size = results.length :=
    Traversal.forall_mem_right hg fun _ s ⟨_, _, hs⟩ => hs.size.trans hn.symm
  have hat {i : Nat} {r : AnomalyResult α} (h : results[i]? = some r) :=
    Score.getElem?_buckets (hres ▸ h)
  have hall {P : AnomalyResult α → Prop}
      (hp : ∀ (i : Nat) (r : AnomalyResult α), results[i]? = some r → P r) : ∀ r ∈ results, P r :=
    fun r hm => have ⟨i, h⟩ := List.getElem?_of_mem hm; hp i r h
  refine ⟨b, series, {
    nonempty := execute_ne_nil h
    bounded := hn ▸ Buckets.count_le hb
    tiled := ⟨_, hres ▸ Score.tiles_buckets hs he hl hb,
      Buckets.bounds_last hs he hl hb hx (Nat.sub_add_cancel hc)⟩
    ids := hall fun i r h => (hat h).right.right.left
    features := hall fun i r h => ?features
    data := fun i r h => ?data
    sizes := hz
    split := hb
    extracted := hr
    covered := fun i r h t => covers_iff hs he hl hb (hat h).left (hat h).right.left
    grouped := ⟨filter, hf, hg⟩ }⟩
  case features =>
    rw [(hat h).right.right.right, List.forall₂_map_right_iff]
    exact hg.imp fun f s ⟨_, _, hs⟩ => ⟨hs.id, hs.name⟩
  case data =>
    rw [(hat h).right.right.right, List.forall₂_map_right_iff, List.forall₂_same]
    intro s hm
    have hv : i < s.values.size := by rw [hz s hm, hn]; exact (hat h).left
    rw [Array.getElem?_eq_getElem hv, Option.join_some]

-- Two and a half minutes of 1970, with a feature that is switched off between two others.
theorem aligned_of_execute_two_minutes :
    let query (operator : String) : Json :=
      .object [("a", .object [(operator, .object [("field", .string "x")])])]
    let d := { Detector.blank with
      timeField := "t", indices := ["m", "n"], interval := ⟨1, .minutes⟩,
      features := [⟨none, "f", true, query "sum"⟩, ⟨none, "g", false, .null⟩,
        ⟨some "k", "h", true, query "max"⟩] }
    let fs : FileSystem := ⟨[(["m.jsonl"],
      .file (Text.octets "\x7b\"t\":0,\"x\":2\x7d\n\x7b\"t\":61000,\"x\":3\x7d\n"))], []⟩
    let start : Instant := .ofParts 0 0 0
    let stop : Instant := .ofParts 0 150 0
    start.InRange ∧ stop.InRange ∧ start.inLeapSecond = false ∧ stop.inLeapSecond = false ∧
    ∃ results : List (AnomalyResult Float),
      execute (extract fs "/") 3 2 d start stop = .ok results ∧
      results.map (fun r => (r.start, r.stop)) =
        [(start, .ofParts 0 60 0), (.ofParts 0 60 0, .ofParts 0 120 0)] ∧
      ∃ b series, Aligned fs "/" d start stop 2 b series results := by
  intro query d fs start stop
  let b : Buckets := ⟨start, .ofMillis 60000, 2⟩
  have hi : d.interval.span = .ok (.ofMillis 60000) := by decide
  have hb : Buckets.split start stop (.ofMillis 60000) 2 = .ok b := by decide
  have ha : ∀ f ∈ d.enabledFeatures, ∃ a, Aggregation.ofFeature f = .ok a :=
    List.forall_mem_cons.mpr ⟨⟨⟨"a", .sum, "x"⟩, rfl⟩,
      List.forall_mem_singleton.mpr ⟨⟨"a", .max, "x"⟩, rfl⟩⟩
  have hm : fs.readText (Extract.indexPath "/" "m") =
    .ok "\x7b\"t\":0,\"x\":2\x7d\n\x7b\"t\":61000,\"x\":3\x7d\n".toList := by decide +kernel
  have hn : fs.readText (Extract.indexPath "/" "n") = .error .notFound := by decide +kernel
  have hr : ∀ index ∈ d.indices, Extract.Readable fs "/" index := by
    simp [d, Extract.Readable, hm, hn]
  obtain ⟨all, h⟩ := execute_of_readable (by decide) hi hb rfl ha hr (3 : Float)
  have ht : (Score.buckets d b all 3).map (fun r => (r.start, r.stop)) = [b.bounds 0, b.bounds 1] :=
    rfl
  have hs : start.InRange := by decide
  have he : stop.InRange := by decide
  exact ⟨hs, he, rfl, rfl, _, h, ht.trans (by decide), aligned_of_execute hs he rfl rfl h⟩

end AnomalyDetection

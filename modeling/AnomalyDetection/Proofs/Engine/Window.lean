import AnomalyDetection.Detector.Form
import AnomalyDetection.Engine.Score
import AnomalyDetection.Proofs.Engine.Buckets
import AnomalyDetection.Proofs.Outcome
import AnomalyDetection.Proofs.Traversal

namespace AnomalyDetection

namespace Extract

variable {d : Detector} {b : Buckets} {filter : Filter} {line : List Char} {t : Instant}
  {P : List Char → Prop} {fs fs' : FileSystem} {dir : String}

-- The time of a row, if the line holds a row that has one.
def time? (d : Detector) (line : List Char) : Option Instant := do
  let row ← Json.read? (line.map some)
  (Instant.ofTimestamp (← row.field? d.timeField)).toOption

theorem place?_eq_none (ht : time? d line = some t) (h : b.indexOf? t = none) :
    place? d b filter line = none := by
  have ⟨row, hr, ht⟩ := Option.bind_eq_some_iff.mp ht
  have ⟨time, hf, ht⟩ := Option.bind_eq_some_iff.mp ht
  unfold place?
  split
  case isTrue => rfl
  case isFalse => simp only [bind, hr, hf, ht, h, Option.bind_some, Option.bind_none]

-- Lines with more lines anywhere between them, all of one kind.
inductive Padded (P : List Char → Prop) : List (List Char) → List (List Char) → Prop
  | nil : Padded P [] []
  | same {xs ys : List (List Char)} (line : List Char) : Padded P xs ys →
    Padded P (line :: xs) (line :: ys)
  | added {xs ys : List (List Char)} (line : List Char) : P line → Padded P xs ys →
    Padded P xs (line :: ys)

theorem Padded.filterMap_eq {xs ys : List (List Char)} (h : Padded P xs ys)
    {f : List Char → Option α} (hf : ∀ line, P line → f line = none) :
    ys.filterMap f = xs.filterMap f := by
  induction h
  case nil => rfl
  case same line _ hi => simp only [List.filterMap_cons, hi]
  case added line hp _ hi => rw [List.filterMap_cons_none (hf line hp), hi]

-- An index that is read as before, but for lines of one kind. It may have had no file before.
inductive AddsLines (P : List Char → Prop) :
    Except FileFault (List (List Char)) → Except FileFault (List (List Char)) → Prop
  | lines {xs ys : List (List Char)} : Padded P xs ys → AddsLines P (.ok xs) (.ok ys)
  | fault (e : FileFault) : AddsLines P (.error e) (.error e)

theorem Padded.imp {Q : List Char → Prop} (hq : ∀ line, P line → Q line) {xs ys : List (List Char)}
    (h : Padded P xs ys) : Padded Q xs ys := by
  induction h
  case nil => exact .nil
  case same line _ hi => exact .same line hi
  case added line hp _ hi => exact .added line (hq line hp) hi

theorem AddsLines.refl (lines : Except FileFault (List (List Char))) : AddsLines P lines lines := by
  have padded (xs : List (List Char)) : Padded P xs xs := by
    induction xs
    case nil => exact .nil
    case cons line _ hi => exact .same line hi
  cases lines
  case error e => exact .fault e
  case ok xs => exact .lines (padded xs)

theorem AddsLines.imp {Q : List Char → Prop} (hq : ∀ line, P line → Q line)
    {before after : Except FileFault (List (List Char))} (h : AddsLines P before after) :
    AddsLines Q before after := by
  cases h
  case lines h => exact .lines (h.imp hq)
  case fault e => exact .fault e

-- The rows of indices, in order.
def rows (fs : FileSystem) (dir : String) (place : List Char → Option β) (indices : List String) :
    Except FileFault (List β) :=
  (indices.mapM (indexLines fs dir)).map fun lines => lines.flatten.filterMap place

theorem rows_cons {place : List Char → Option β} {index : String} {indices : List String}
    {lines : List (List Char)} (h : indexLines fs dir index = .ok lines) :
    rows fs dir place (index :: indices) =
      (rows fs dir place indices).map (lines.filterMap place ++ ·) := by
  simp only [rows, Traversal.mapM_cons_ok h]
  cases indices.mapM (indexLines fs dir)
  case error => rfl
  case ok rest => simp only [Except.map, List.flatten_cons, List.filterMap_append]

theorem rows_congr {place : List Char → Option β} {indices : List String}
    (h : ∀ index ∈ indices, (indexLines fs' dir index).map (·.filterMap place) =
      (indexLines fs dir index).map (·.filterMap place)) :
    rows fs' dir place indices = rows fs dir place indices := by
  induction indices
  case nil => rfl
  case cons index indices hi =>
    have ⟨hx, h⟩ := List.forall_mem_cons.mp h
    cases hb : indexLines fs dir index
    case error e =>
      rw [hb] at hx
      simp only [rows, Traversal.mapM_cons_error hb,
        Traversal.mapM_cons_error (Outcome.map_eq_error.mp hx)]
    case ok lines =>
      rw [hb] at hx
      have ⟨lines', ha, hl⟩ := Outcome.map_eq_ok hx
      rw [rows_cons hb, rows_cons ha, hl, hi h]

theorem rows_eq {place : List Char → Option β} (hp : ∀ line, P line → place line = none)
    {indices : List String}
    (h : ∀ index ∈ indices, AddsLines P (indexLines fs dir index) (indexLines fs' dir index)) :
    rows fs' dir place indices = rows fs dir place indices := by
  refine rows_congr fun index hm => ?_
  have hx := h index hm
  generalize indexLines fs dir index = before at hx ⊢
  generalize indexLines fs' dir index = after at hx ⊢
  cases hx
  case lines hl => exact congrArg Except.ok (hl.filterMap_eq hp)
  case fault e => rfl

variable [Quantity α]

theorem extract_eq_rows : (extract fs dir d b : Except Engine.Fault (List (Series α))) = do
    let filter ← Filter.ofQuery d.filter
    let features ← d.enabledFeatures.mapM fun f => (Aggregation.ofFeature f).map (f, ·)
    let rows ← (rows fs dir (place? d b filter) d.indices).mapError .file
    return features.map fun (f, a) => series b.count rows f a := by
  unfold extract rows
  cases Filter.ofQuery d.filter
  case error => rfl
  case ok filter =>
  cases d.enabledFeatures.mapM fun f => (Aggregation.ofFeature f).map (f, ·)
  case error => rfl
  case ok features =>
  cases d.indices.mapM (indexLines fs dir) <;> rfl

theorem extract_congr (h : ∀ filter, ∀ index ∈ d.indices,
      (indexLines fs' dir index).map (·.filterMap (place? d b filter)) =
        (indexLines fs dir index).map (·.filterMap (place? d b filter))) :
    (extract fs' dir d b : Except Engine.Fault (List (Series α))) = extract fs dir d b := by
  simp only [extract_eq_rows, rows_congr (h _)]

-- Rows that fall into no bucket are rows that might as well not be there.
theorem extract_eq (h : ∀ index ∈ d.indices,
      AddsLines (fun line => ∃ t, time? d line = some t ∧ b.indexOf? t = none)
        (indexLines fs dir index) (indexLines fs' dir index)) :
    (extract fs' dir d b : Except Engine.Fault (List (Series α))) = extract fs dir d b := by
  have hr (filter : Filter) : rows fs' dir (place? d b filter) d.indices =
      rows fs dir (place? d b filter) d.indices :=
    rows_eq (fun line ⟨t, ht, hi⟩ => place?_eq_none ht hi) h
  simp only [extract_eq_rows, hr]

end Extract

-- An execution asks its source about one detector, and about the buckets of its window.
theorem execute_eq [Quantity α] {source source' : SeriesSource α} {threshold : α} {limit : Nat}
    {d : Detector} {start stop : Instant}
    (h : ∀ interval b, d.interval.span = .ok interval →
      Buckets.split start stop interval limit = .ok b → source' d b = source d b) :
    execute source' threshold limit d start stop = execute source threshold limit d start stop := by
  unfold execute
  cases hi : d.interval.span
  case error => rfl
  case ok interval =>
    simp only [bind, Except.bind, Except.mapError]
    cases hb : Buckets.split start stop interval limit
    case error => rfl
    case ok b => simp only [h interval b hi hb]

-- A row that is a whole millisecond early for the window, or not before the end of its last bucket.
def Extract.Outside (d : Detector) (b : Buckets) (line : List Char) : Prop :=
  ∃ t, time? d line = some t ∧ t.inLeapSecond = false ∧
    (t + Span.ofMillis 1 ≤ b.start ∨ (b.bounds (b.count - 1)).2 ≤ t)

-- What a bucket takes, by the time since the start of the window: its own, and the first one also
-- what is less than a millisecond early. Outside of leap seconds that is what lies between its
-- bounds, and all that is further outside of the window makes no difference.
theorem outside_rows_make_no_difference [Quantity α] {start stop : Instant} {ms : Int}
    {limit : Nat} {b : Buckets} (hs : start.InRange) (he : stop.InRange)
    (hb : Buckets.split start stop (.ofMillis ms) limit = .ok b) :
    (∀ t i, b.indexOf? t = some i ↔ i < b.count ∧
      (ms * i * 1000000 ≤ (t - start).nanoseconds ∧
        (t - start).nanoseconds < ms * (i + 1) * 1000000 ∨
      i = 0 ∧ -1000000 < (t - start).nanoseconds ∧ (t - start).nanoseconds < 0)) ∧
    (start.inLeapSecond = false →
      (∀ t i, t.inLeapSecond = false → (b.indexOf? t = some i ↔ i < b.count ∧
        ((b.bounds i).1 ≤ t ∧ t < (b.bounds i).2 ∨
          i = 0 ∧ t < start ∧ start < t + Span.ofMillis 1))) ∧
      ∀ (fs fs' : FileSystem) (dir : String) (d : Detector),
        (∀ index ∈ d.indices, Extract.AddsLines (Extract.Outside d b)
          (Extract.indexLines fs dir index) (Extract.indexLines fs' dir index)) →
        (extract fs' dir d b : Except Engine.Fault (List (Series α))) = extract fs dir d b ∧
        (d.interval.span = .ok (.ofMillis ms) → ∀ threshold : α,
          execute (extract fs' dir) threshold limit d start stop =
            execute (extract fs dir) threshold limit d start stop)) := by
  have ⟨hm, _, hc⟩ := Buckets.split_eq_ok hb
  rw [Span.millis_ofMillis] at hm
  have hi : b.interval = .ofMillis ms := by rw [hc]
  have hs' : b.start = start := by rw [hc]
  refine ⟨fun t i => hs' ▸ Buckets.indexOf?_iff_elapsed hi hm, fun hl => ⟨?index, ?extract⟩⟩
  case index => exact fun t i ht => Buckets.indexOf?_iff_bounds hs he hl hb ht
  case extract =>
    intro fs fs' dir d h
    have hx : (extract fs' dir d b : Except Engine.Fault (List (Series α))) =
        extract fs dir d b := by
      refine Extract.extract_eq fun index hd => (h index hd).imp ?_
      rintro line ⟨t, ht, hn, ho⟩
      exact ⟨t, ht, Buckets.indexOf?_eq_none hs he hl hb hn (hs' ▸ ho)⟩
    refine ⟨hx, fun hd threshold => execute_eq fun interval b' hi' hb' => ?_⟩
    cases hd.symm.trans hi'
    cases hb.symm.trans hb'
    exact hx

-- Two minutes of 1970, with a row right before them and one right behind. A row that is early by
-- half a millisecond, however, is one of the first minute.
theorem outside_rows_make_no_difference_two_minutes :
    let start : Instant := .ofParts 0 0 0
    let stop : Instant := .ofParts 0 120 0
    let b : Buckets := ⟨start, .ofMillis 60000, 2⟩
    let query : Json := .object [("a", .object [("sum", .object [("field", .string "x")])])]
    let d := { Detector.blank with
      timeField := "t", indices := ["m", "n"], features := [⟨none, "f", true, query⟩],
      interval := ⟨1, .minutes⟩ }
    let inside := "\x7b\"t\":0,\"x\":2\x7d"
    let early := "\x7b\"t\":-1,\"x\":8\x7d"
    let late := "\x7b\"t\":120000,\"x\":8\x7d"
    let holding (text : String) : FileSystem := ⟨[(["m.jsonl"], .file (Text.octets text))], []⟩
    let before := holding inside
    let after := holding (early ++ "\n" ++ inside ++ "\n" ++ late)
    start.InRange ∧ stop.InRange ∧ start.inLeapSecond = false ∧
    Buckets.split start stop (.ofMillis 60000) 2 = .ok b ∧
    (∀ index ∈ d.indices, Extract.AddsLines (Extract.Outside d b)
      (Extract.indexLines before "/" index) (Extract.indexLines after "/" index)) ∧
    d.interval.span = .ok (.ofMillis 60000) ∧
    (∀ threshold : Float, execute (extract after "/") threshold 2 d start stop =
      execute (extract before "/") threshold 2 d start stop) ∧
    Instant.ofParts 0 0 (-500000) < start ∧ b.indexOf? (.ofParts 0 0 (-500000)) = some 0 := by
  intro start stop b query d inside early late holding before after
  have hs : start.InRange := by decide
  have he : stop.InRange := by decide
  have hl : start.inLeapSecond = false := rfl
  have hb : Buckets.split start stop (.ofMillis 60000) 2 = .ok b := by decide
  have hd : d.interval.span = .ok (.ofMillis 60000) := by decide
  have ⟨hi, hn⟩ := outside_rows_make_no_difference (α := Float) hs he hb
  have hx : ∀ index ∈ d.indices, Extract.AddsLines (Extract.Outside d b)
      (Extract.indexLines before "/" index) (Extract.indexLines after "/" index) := by
    have hb₁ : Extract.indexLines before "/" "m" = .ok [inside.toList] := by decide +kernel
    have ha₁ : Extract.indexLines after "/" "m" =
      .ok [early.toList, inside.toList, late.toList] := by decide +kernel
    have hb₂ : Extract.indexLines before "/" "n" = .ok [] := by decide +kernel
    have ha₂ : Extract.indexLines after "/" "n" = .ok [] := by decide +kernel
    have ho₁ : Extract.Outside d b early.toList :=
      ⟨.ofParts 0 0 (-1000000), by decide +kernel, rfl, .inl (by decide)⟩
    have ho₂ : Extract.Outside d b late.toList := ⟨stop, by decide +kernel, rfl, .inr (by decide)⟩
    refine List.forall_mem_cons.mpr ⟨?first, List.forall_mem_singleton.mpr ?second⟩
    case first =>
      rw [hb₁, ha₁]
      exact .lines (.added _ ho₁ (.same _ (.added _ ho₂ .nil)))
    case second =>
      rw [hb₂, ha₂]
      exact .lines .nil
  refine ⟨hs, he, hl, hb, hx, hd, ((hn hl).right before after "/" d hx).right hd, by decide, ?_⟩
  exact (hi _ 0).mpr ⟨by decide, .inr (by decide)⟩

end AnomalyDetection

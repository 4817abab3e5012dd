import AnomalyDetection.Proofs.Engine.Filter
import AnomalyDetection.Proofs.Engine.Window
import AnomalyDetection.Proofs.Paths

namespace AnomalyDetection

namespace Json

variable {row j k : Json} {path p q : String} {keys : List String}

-- Where some keys lead to, each to the member of an object.
inductive Reaches : Json → List String → Json → Prop
  | here (j : Json) : Reaches j [] j
  | member {ms : List (String × Json)} {key : String} {j k : Json} {keys : List String} :
    ms.lookup key = some j → Reaches j keys k → Reaches (.object ms) (key :: keys) k

theorem pathKeys_append (p q : String) :
    pathKeys (p ++ "." ++ q) = pathKeys p ++ pathKeys q := by
  simp [pathKeys, Text.split_append]

theorem pathKeys_ne_nil (path : String) : pathKeys path ≠ [] :=
  mt List.map_eq_nil_iff.mp (Text.split_ne_nil '.' path.toList)

theorem descend?_append (j : Json) (keys more : List String) :
    j.descend? (keys ++ more) = (j.descend? keys).bind (·.descend? more) := by
  induction keys generalizing j
  case nil => rfl
  case cons key keys hi =>
    simp only [List.cons_append, descend?, Option.bind_assoc, hi]

theorem descend?_eq_some : j.descend? keys = some k ↔ Reaches j keys k := by
  constructor
  case mp =>
    intro h
    induction keys generalizing j
    case nil => cases h; exact .here _
    case cons key keys hi =>
      have ⟨i, hm, hd⟩ := Option.bind_eq_some_iff.mp h
      cases j
      case object ms => exact .member hm (hi hd)
      all_goals cases hm
  case mpr =>
    intro h
    induction h
    case here => rfl
    case member hm _ hi => exact Option.bind_eq_some_iff.mpr ⟨_, hm, hi⟩

-- Nothing but an object has members to go on to.
theorem descend?_of_not_object (hk : keys ≠ []) (h : ∀ ms, j ≠ .object ms) :
    j.descend? keys = none := by
  refine Option.eq_none_iff_forall_ne_some.mpr fun k hd => ?_
  cases descend?_eq_some.mp hd
  case here => exact hk rfl
  case member => exact h _ rfl

theorem field?_of_not_object (h : ∀ ms, row ≠ .object ms) : row.field? path = none := by
  rw [field?, descend?_of_not_object (pathKeys_ne_nil path) h]
  rfl

-- A null in between is no object either, so it does not matter that it counts as nothing.
theorem field?_append (row : Json) (p q : String) :
    row.field? (p ++ "." ++ q) = (row.field? p).bind (·.field? q) := by
  have hn : null.field? q = none := field?_of_not_object nofun
  rw [field?, pathKeys_append, descend?_append, field?]
  cases row.descend? (pathKeys p)
  case none => rfl
  case some j =>
    cases j
    case null => exact hn
    all_goals rfl

theorem field?_below (h : row.field? p = some j) (q : String) :
    row.field? (p ++ "." ++ q) = j.field? q := by
  rw [field?_append, h, Option.bind_some]

theorem exists_object_of_field?_append (h : row.field? (p ++ "." ++ q) = some j) :
    ∃ ms, row.field? p = some (.object ms) := by
  rw [field?_append] at h
  have ⟨i, hp, hq⟩ := Option.bind_eq_some_iff.mp h
  by_contra hn
  have hi : ∀ ms, i ≠ .object ms := by
    rintro ms rfl
    exact hn ⟨ms, hp⟩
  rw [field?_of_not_object hi] at hq
  cases hq

end Json

namespace Filter

variable {filter : Filter} {row row' : Json} {move : String → String}

-- The paths that a filter looks up.
inductive Asks : Filter → String → Prop
  | term {ts : List (String × Json)} {t : String × Json} : t ∈ ts → Asks (terms ts) t.1

-- The filter that looks up all of them somewhere else.
def moved (move : String → String) : Filter → Filter
  | all => all
  | terms ts => terms (ts.map fun t => (move t.1, t.2))

theorem moved_id (filter : Filter) : filter.moved id = filter := by
  cases filter
  case all => rfl
  case terms ts => exact congrArg terms (List.map_id ts)

theorem accepts_moved
    (h : ∀ path, filter.Asks path → row'.field? (move path) = row.field? path) :
    (filter.moved move).accepts row' = filter.accepts row := by
  cases filter
  case all => rfl
  case terms ts =>
    rw [Bool.eq_iff_iff]
    simp only [moved, accepts, List.all_map, List.all_eq_true]
    refine forall₂_congr fun t ht => ?_
    simp only [Function.comp, h t.1 (.term ht)]

end Filter

-- Rows with the same values at some paths.
def Json.SameAt (paths : String → Prop) (row row' : Json) : Prop :=
  ∀ path, paths path → row'.field? path = row.field? path

-- The same aggregation of a field somewhere else.
def Aggregation.moved (move : String → String) (a : Aggregation) : Aggregation :=
  { a with field := move a.field }

namespace Extract

variable {α : Type} [Quantity α] {fs fs' : FileSystem} {dir : String} {d d' : Detector}
  {b : Buckets} {filter filter' : Filter} {row row' : Json} {line line' : List Char}
  {lines lines' : List (List Char)} {field : String} {i : Nat} {R : Json → Json → Prop}
  {move : String → String}

-- The paths that a detector looks up in the rows of its indices.
inductive Asks (d : Detector) : String → Prop
  | time : Asks d d.timeField
  | filter {filter : Filter} {path : String} : Filter.ofQuery d.filter = .ok filter →
    filter.Asks path → Asks d path
  | feature {f : Feature} {a : Aggregation} : f ∈ d.enabledFeatures →
    Aggregation.ofFeature f = .ok a → Asks d a.field

-- A detector that extracts the same from the same indices, but looks all of it up somewhere else.
structure Moved (move : String → String) (d d' : Detector) : Prop where
  indices : d'.indices = d.indices
  time : d'.timeField = move d.timeField
  filter : Filter.ofQuery d'.filter = (Filter.ofQuery d.filter).map (·.moved move)
  features : List.Forall₂ (fun f f' => f'.key = f.key ∧ f'.name = f.name ∧
      Aggregation.ofFeature f' = (Aggregation.ofFeature f).map (·.moved move))
    d.enabledFeatures d'.enabledFeatures

theorem Moved.refl (d : Detector) : Moved id d d where
  indices := rfl
  time := rfl
  filter := by
    cases Filter.ofQuery d.filter
    case error => rfl
    case ok filter => exact congrArg Except.ok filter.moved_id.symm
  features := List.forall₂_same.mpr fun f _ => by
    refine ⟨rfl, rfl, ?_⟩
    cases Aggregation.ofFeature f <;> rfl

-- Lines that have no rows both of them, or rows that go together.
def SameLine (R : Json → Json → Prop) (line line' : List Char) : Prop :=
  Option.Rel R (Json.read? (line.map some)) (Json.read? (line'.map some))

-- Indices whose lines are the same in this way, or that cannot be read both of them.
def SameLines (R : Json → Json → Prop) :
    Except FileFault (List (List Char)) → Except FileFault (List (List Char)) → Prop :=
  Outcome.Rel (List.Forall₂ (SameLine R))

-- Where everything that is asked for is to be found somewhere else, a row shows the same.
theorem observation?_moved (hd : d'.timeField = move d.timeField)
    (hr : Json.read? (line.map some) = some row) (hr' : Json.read? (line'.map some) = some row')
    (ht : row'.field? (move d.timeField) = row.field? d.timeField)
    (hf : ∀ path, filter.Asks path → row'.field? (move path) = row.field? path)
    (ha : row'.field? (move field) = row.field? field) :
    (observation? d' b (filter.moved move) (move field) i line' : Option (Observation α)) =
      observation? d b filter field i line := by
  simp only [observation?, hr, hr', bind, Option.bind_some, hd, ht, ha, Filter.accepts_moved hf]

theorem observation?_congr (hd : d'.timeField = move d.timeField) (hs : SameLine R line line')
    (ht : ∀ row row', R row row' → row'.field? (move d.timeField) = row.field? d.timeField)
    (hf : ∀ row row', R row row' → ∀ path, filter.Asks path →
      row'.field? (move path) = row.field? path)
    (ha : ∀ row row', R row row' → row'.field? (move field) = row.field? field) :
    (observation? d' b (filter.moved move) (move field) i line' : Option (Observation α)) =
      observation? d b filter field i line := by
  unfold SameLine at hs
  cases hr : Json.read? (line.map some) <;> cases hr' : Json.read? (line'.map some)
  all_goals
    rw [hr, hr'] at hs
    cases hs
  case none.none => simp only [observation?, hr, hr', bind, Option.bind_none]
  case some.some row row' h =>
    exact observation?_moved hd hr hr' (ht row row' h) (hf row row' h) (ha row row' h)

theorem series_congr {f f' : Feature} {a a' : Aggregation} (hk : f'.key = f.key)
    (hn : f'.name = f.name) (ho : a'.operator = a.operator)
    (h : ∀ i, lines'.filterMap (observation? d' b filter' a'.field i) =
      (lines.filterMap (observation? d b filter a.field i) : List (Observation α))) :
    (series b.count (lines'.filterMap (place? d' b filter')) f' a' : Series α) =
      series b.count (lines.filterMap (place? d b filter)) f a := by
  have ht : (tally b.count a' (lines'.filterMap (place? d' b filter')) : Array (Accumulator α)) =
      tally b.count a (lines.filterMap (place? d b filter)) := by
    refine Array.ext (by rw [size_tally, size_tally]) fun i hi _ => ?_
    rw [size_tally] at hi
    refine Option.some_inj.mp ?_
    rw [← Array.getElem?_eq_getElem, ← Array.getElem?_eq_getElem, getElem?_tally _ _ _ hi,
      getElem?_tally _ _ _ hi]
    simp only [List.filterMap_filterMap, place?_bind_shown?, h]
  unfold series
  rw [ht, hk, hn, ho]

theorem filterMap_congr {γ : Type} {g g' : List Char → Option γ}
    (h : List.Forall₂ (SameLine R) lines lines')
    (hg : ∀ {line line'}, SameLine R line line' → g' line' = g line) :
    lines'.filterMap g' = lines.filterMap g := by
  induction h
  case nil => rfl
  case cons hl _ hi => simp only [List.filterMap_cons, hg hl, hi]

theorem sameLines_mapM {indices : List String} (h : ∀ index ∈ indices,
      SameLines R (indexLines fs dir index) (indexLines fs' dir index)) :
    SameLines R ((indices.mapM (indexLines fs dir)).map List.flatten)
      ((indices.mapM (indexLines fs' dir)).map List.flatten) :=
  (Traversal.rel_mapM (List.forall₂_same.mpr h)).map fun _ _ hl => List.rel_flatten hl

-- The aggregations of the features are moved one by one, and all of their fields are asked for.
theorem Moved.aggregations (hm : Moved move d d') :
    Outcome.Rel (List.Forall₂ fun p p' : Feature × Aggregation => p'.1.key = p.1.key ∧
        p'.1.name = p.1.name ∧ p'.2 = p.2.moved move ∧ Asks d p.2.field)
      (d.enabledFeatures.mapM fun f => (Aggregation.ofFeature f).map (f, ·))
      (d'.enabledFeatures.mapM fun f => (Aggregation.ofFeature f).map (f, ·)) := by
  have hr := (List.forall₂_and_left _ _).mpr ⟨fun f hf => hf, hm.features⟩
  refine Traversal.rel_mapM (hr.imp ?_)
  rintro f f' ⟨hf, hk, hn, ha⟩
  rw [ha]
  cases ho : Aggregation.ofFeature f
  case error e => exact .error e
  case ok a => exact .ok ⟨hk, hn, rfl, .feature hf ho⟩

-- An extraction sees no more of rows than the values at the paths that the detector asks for.
theorem extract_moved (hm : Moved move d d')
    (hR : ∀ row row', R row row' → ∀ path, Asks d path → row'.field? (move path) = row.field? path)
    (h : ∀ index ∈ d.indices, SameLines R (indexLines fs dir index) (indexLines fs' dir index)) :
    (extract fs' dir d' b : Except Engine.Fault (List (Series α))) = extract fs dir d b := by
  have hp := hm.aggregations
  have hl := sameLines_mapM h
  cases hf : Filter.ofQuery d.filter
  case error e =>
    have hf' : Filter.ofQuery d'.filter = .error e := by rw [hm.filter, hf]; rfl
    simp only [extract, hf, hf', bind, Except.bind]
  case ok filter =>
  have hf' : Filter.ofQuery d'.filter = .ok (filter.moved move) := by rw [hm.filter, hf]; rfl
  simp only [extract, hf, hf', hm.indices, bind, Except.bind]
  generalize (d.enabledFeatures.mapM fun f => (Aggregation.ofFeature f).map (f, ·)) = features
    at hp ⊢
  generalize (d'.enabledFeatures.mapM fun f => (Aggregation.ofFeature f).map (f, ·)) = features'
    at hp ⊢
  cases hp
  case error => rfl
  case ok features features' hp =>
  generalize d.indices.mapM (indexLines fs dir) = lines at hl ⊢
  generalize d.indices.mapM (indexLines fs' dir) = lines' at hl ⊢
  cases lines <;> cases lines' <;> cases hl
  case error.error.error => rfl
  case ok.ok.ok hl =>
    refine congrArg Except.ok ?_
    induction hp
    case nil => rfl
    case cons p p' _ _ hp _ hi =>
      have ⟨hk, hn, ha, hq⟩ := hp
      rw [List.map_cons, List.map_cons, hi]
      congr 1
      refine series_congr hk hn (by rw [ha]; rfl) fun i => filterMap_congr hl fun hs => ?_
      rw [ha]
      exact observation?_congr hm.time hs (fun row row' hr => hR row row' hr _ .time)
        (fun row row' hr path hx => hR row row' hr path (.filter hf hx))
        fun row row' hr => hR row row' hr _ hq

end Extract

open Extract in
variable (α : Type) [Quantity α] in
-- Two paths with a dot between them are one lookup behind the other. Lookups go through members of
-- objects only, and what they find is never null. The time of a row, the fields of a filter and
-- those of aggregations are found by them: where all of them lie below a path, a row shows what the
-- row at that path shows, and an extraction has the series that group the rows at that path; and
-- extractions do not tell rows apart in which the same is found.
theorem dotted_lookup_composes (row : Json) :
    (∀ p q, row.field? (p ++ "." ++ q) = (row.field? p).bind (·.field? q)) ∧
    (∀ path j, row.field? path = some j ↔ Json.Reaches row (Json.pathKeys path) j ∧ j ≠ .null) ∧
    (∀ p q j, row.field? (p ++ "." ++ q) = some j → ∃ ms, row.field? p = some (.object ms)) ∧
    (∀ path, (∀ ms, row ≠ .object ms) → row.field? path = none) ∧
    (∀ p inner line line', row.field? p = some inner → Json.read? (line.map some) = some inner →
      Json.read? (line'.map some) = some row → ∀ d b filter field i,
        (observation? { d with timeField := p ++ "." ++ d.timeField } b
          (filter.moved (p ++ "." ++ ·)) (p ++ "." ++ field) i line' : Option (Observation α)) =
            observation? d b filter field i line) ∧
    (∀ p (fs fs' : FileSystem) dir d d', Moved (p ++ "." ++ ·) d d' →
      (∀ index ∈ d.indices, SameLines (fun inner row => row.field? p = some inner)
        (indexLines fs dir index) (indexLines fs' dir index)) → ∀ b,
        (extract fs' dir d' b : Except Engine.Fault (List (Series α))) = extract fs dir d b ∧
        ∀ filter, Filter.ofQuery d.filter = .ok filter →
          (∀ f ∈ d.enabledFeatures, ∃ a, Aggregation.ofFeature f = .ok a) →
          (∀ index ∈ d.indices, Readable fs dir index) →
          ∃ all : List (Series α), extract fs' dir d' b = .ok all ∧
            List.Forall₂
              (fun f s => ∃ a, Aggregation.ofFeature f = .ok a ∧ IsGroupBy fs dir d b filter f a s)
              d.enabledFeatures all) ∧
    ∀ (fs fs' : FileSystem) dir d, (∀ index ∈ d.indices, SameLines (Json.SameAt (Asks d))
      (indexLines fs dir index) (indexLines fs' dir index)) → ∀ b,
        (extract fs' dir d b : Except Engine.Fault (List (Series α))) = extract fs dir d b := by
  refine ⟨row.field?_append, fun path j => ?reaches,
    fun p q j => Json.exists_object_of_field?_append, fun path => Json.field?_of_not_object, ?row,
    ?below, ?sameAt⟩
  case reaches => rw [Json.field?_eq_some, Json.descend?_eq_some]
  case row =>
    intro p inner line line' hp hl hl' d b filter field i
    have hb := Json.field?_below hp
    exact observation?_moved rfl hl hl' (hb _) (fun path _ => hb path) (hb _)
  case below =>
    intro p fs fs' dir d d' hm h b
    have he : (extract fs' dir d' b : Except Engine.Fault (List (Series α))) = extract fs dir d b :=
      extract_moved hm (fun inner row hp path _ => Json.field?_below hp path) h
    exact ⟨he, fun filter hf ha hr => he ▸ extract_of_readable hf ha hr⟩
  case sameAt =>
    intro fs fs' dir d h b
    exact extract_moved (Moved.refl d) (fun row row' hs => hs) h

open Extract in
-- A row below the path `.a`, whose first key is empty, and a row with a field that is not asked
-- for.
theorem dotted_lookup_composes_nested :
    let detector (time x : String) (terms : List (String × Json)) : Detector :=
      { Detector.blank with
        timeField := time, indices := ["m"], filter := some (.object [("term", .object terms)]),
        features := [⟨none, "f", true,
          .object [("a", .object [("sum", .object [("field", .string x)])])]⟩] }
    let d := detector "t" "x" [("x", .natural 2)]
    let d' := detector ".a.t" ".a.x" [(".a.x", .natural 2)]
    let filter : Filter := .terms [("x", .natural 2)]
    let b : Buckets := ⟨.ofParts 0 0 0, .ofMillis 60000, 1⟩
    let inner (y : Json) : Json := .object [("t", .natural 0), ("x", .natural 2), ("y", y)]
    let row : Json := .object [("", .object [("a", inner (.natural 1))])]
    let line := "\x7b\"t\":0,\"x\":2,\"y\":1\x7d"
    let line' := "\x7b\"\":\x7b\"a\":\x7b\"t\":0,\"x\":2,\"y\":1\x7d\x7d\x7d"
    let other := "\x7b\"t\":0,\"x\":2,\"y\":[]\x7d"
    let file (s : String) : FileSystem := ⟨[(["m.jsonl"], .file (Text.octets s))], []⟩
    row.field? ".a" = some (inner (.natural 1)) ∧ row.field? ".a.x" = some (.natural 2) ∧
    (∃ ms, row.field? ".a" = some (.object ms)) ∧ (Json.natural 2).field? "x" = none ∧
    Json.read? (line.toList.map some) = some (inner (.natural 1)) ∧
    Json.read? (line'.toList.map some) = some row ∧
    (observation? { d with timeField := ".a.t" } b (.terms [(".a.x", .natural 2)]) ".a.x" 0
      line'.toList : Option (Observation Float)) = observation? d b filter "x" 0 line.toList ∧
    Moved (".a" ++ "." ++ ·) d d' ∧
    (∀ index ∈ d.indices, SameLines (fun inner row => row.field? ".a" = some inner)
      (indexLines (file line) "/" index) (indexLines (file line') "/" index)) ∧
    (∃ all : List (Series Float), extract (file line') "/" d' b = .ok all ∧
      List.Forall₂ (fun f s => ∃ a, Aggregation.ofFeature f = .ok a ∧
          IsGroupBy (file line) "/" d b filter f a s)
        d.enabledFeatures all) ∧
    (∀ index ∈ d.indices, SameLines (Json.SameAt (Asks d))
      (indexLines (file line) "/" index) (indexLines (file other) "/" index)) ∧
    (extract (file other) "/" d b : Except Engine.Fault (List (Series Float))) =
      extract (file line) "/" d b := by
  intro detector d d' filter b inner row line line' other file
  have hp : row.field? ".a" = some (inner (.natural 1)) := by decide +kernel
  have hl : Json.read? (line.toList.map some) = some (inner (.natural 1)) := by decide +kernel
  have hl' : Json.read? (line'.toList.map some) = some row := by decide +kernel
  have ho : Json.read? (other.toList.map some) = some (inner (.array [])) := by decide +kernel
  have hi : indexLines (file line) "/" "m" = .ok [line.toList] := by decide +kernel
  have hi' : indexLines (file line') "/" "m" = .ok [line'.toList] := by decide +kernel
  have hx : indexLines (file other) "/" "m" = .ok [other.toList] := by decide +kernel
  have hm : Moved (".a" ++ "." ++ ·) d d' :=
    ⟨rfl, rfl, rfl, .cons ⟨rfl, rfl, rfl⟩ .nil⟩
  have hb : ∀ index ∈ d.indices, SameLines (fun inner row => row.field? ".a" = some inner)
      (indexLines (file line) "/" index) (indexLines (file line') "/" index) := by
    refine List.forall_mem_singleton.mpr ?_
    rw [hi, hi']
    refine .ok (.cons ?_ .nil)
    rw [SameLine, hl, hl']
    exact .some hp
  have hs : ∀ index ∈ d.indices, SameLines (Json.SameAt (Asks d))
      (indexLines (file line) "/" index) (indexLines (file other) "/" index) := by
    refine List.forall_mem_singleton.mpr ?_
    rw [hi, hx]
    refine .ok (.cons ?_ .nil)
    rw [SameLine, hl, ho]
    refine .some ?_
    rintro _ (_ | ⟨h, hq⟩ | ⟨h, ha⟩)
    case time => decide +kernel
    case filter =>
      cases h
      cases hq with
      | term ht => cases List.mem_singleton.mp ht; decide +kernel
    case feature => cases List.mem_singleton.mp h; cases ha; decide +kernel
  have ha : ∀ f ∈ d.enabledFeatures, ∃ a, Aggregation.ofFeature f = .ok a := by
    intro f hf
    cases List.mem_singleton.mp hf
    exact ⟨⟨"a", .sum, "x"⟩, rfl⟩
  have hr : ∀ index ∈ d.indices, Readable (file line) "/" index := by
    intro index hd e he
    cases List.mem_singleton.mp hd
    have hk : (file line).readText (indexPath "/" "m") = .ok line.toList := by decide +kernel
    cases hk.symm.trans he
  have ⟨hc, _, hq, _, hv, hg, he⟩ := dotted_lookup_composes Float row
  have ⟨_, _, _, hn, _, _, _⟩ := dotted_lookup_composes Float (.natural 2)
  have hr' : row.field? ".a.x" = some (.natural 2) := (hc ".a" "x").trans (by decide +kernel)
  have ⟨_, hg⟩ := hg ".a" (file line) (file line') "/" d d' hm hb b
  exact ⟨hp, hr', hq ".a" "x" _ hr', hn "x" nofun, hl, hl',
    hv ".a" (inner (.natural 1)) line.toList line'.toList hp hl hl' d b filter "x" 0, hm, hb,
    hg filter rfl ha hr, hs, he (file line) (file other) "/" d hs b⟩

end AnomalyDetection

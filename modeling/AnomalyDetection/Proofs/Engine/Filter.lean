import AnomalyDetection.Proofs.Engine.Failures

namespace AnomalyDetection

namespace Json

theorem field?_eq_some {row j : Json} {path : String} :
    row.field? path = some j ↔ row.descend? (pathKeys path) = some j ∧ j ≠ .null := by
  have hn : (!j.isNull) = true ↔ j ≠ .null := by cases j <;> simp [isNull]
  rw [field?, Option.filter_eq_some_iff, hn]

theorem mem_of_member? {k j : Json} {key : String} (h : k.member? key = some j) :
    ∃ ms, k = .object ms ∧ (key, j) ∈ ms := by
  unfold member? at h
  split at h
  case h_2 => cases h
  case h_1 ms =>
    have ⟨_, _, hm, _⟩ := List.lookup_eq_some_iff.mp h
    exact ⟨ms, rfl, hm ▸ List.mem_append_right _ List.mem_cons_self⟩

end Json

namespace Filter

-- The clause of a query that decides about rows, and the filter it makes.
inductive Chosen (query : Json) : String × Json → Filter → Prop
  | matchAll {j : Json} : query.member? "match_all" = some j → Chosen query ("match_all", j) all
  | term {ts : List (String × Json)} : query.member? "match_all" = none →
    query.member? "term" = some (.object ts) → Chosen query ("term", .object ts) (terms ts)

-- Queries that consist of one clause, and of one that is understood.
inductive Sole : Json → Prop
  | matchAll (j : Json) : Sole (.object [("match_all", j)])
  | term (ts : List (String × Json)) : Sole (.object [("term", .object ts)])

-- What a row has to have for a filter: each field, and in it the value that is asked for.
inductive Meets (row : Json) : Filter → Prop
  | all : Meets row all
  | terms {ts : List (String × Json)} :
    (∀ t ∈ ts, ∃ j, row.descend? (Json.pathKeys t.1) = some j ∧ j ≠ .null ∧ j.same t.2) →
    Meets row (terms ts)

variable {query row : Json} {clause : String × Json} {f : Filter}

theorem understood_iff_chosen : Understood query ↔ ∃ clause f, Chosen query clause f := by
  constructor
  case mp =>
    rintro (⟨j, h⟩ | ⟨ts, h⟩)
    · exact ⟨_, _, .matchAll h⟩
    · cases hm : query.member? "match_all" with
      | none => exact ⟨_, _, .term hm h⟩
      | some j => exact ⟨_, _, .matchAll hm⟩
  case mpr =>
    rintro ⟨_, _, h | ⟨_, h⟩⟩
    · exact .inl ⟨_, h⟩
    · exact .inr ⟨_, h⟩

theorem Chosen.ofQuery (h : Chosen query clause f) : ofQuery (some query) = .ok f := by
  cases h <;> simp [Filter.ofQuery, *]

theorem Chosen.mem (h : Chosen query clause f) : ∃ ms, query = .object ms ∧ clause ∈ ms := by
  cases h
  case matchAll h => exact Json.mem_of_member? h
  case term h => exact Json.mem_of_member? h

-- A clause is chosen from the query that it makes up by itself.
theorem Chosen.alone (h : Chosen query clause f) : Chosen (.object [clause]) clause f := by
  cases h
  case matchAll => exact .matchAll rfl
  case term => exact .term rfl rfl

theorem ofQuery_eq_ok : ofQuery (some query) = .ok f ↔ ∃ clause, Chosen query clause f := by
  refine ⟨fun h => ?_, fun ⟨_, h⟩ => h.ofQuery⟩
  by_cases hu : Understood query
  case pos =>
    have ⟨clause, f', hc⟩ := understood_iff_chosen.mp hu
    cases h.symm.trans hc.ofQuery
    exact ⟨clause, hc⟩
  case neg => cases h.symm.trans (ofQuery_eq_error.mpr ⟨query, rfl, hu, rfl⟩)

-- Where a query consists of one clause, that is the one to choose.
theorem exists_chosen_iff_sole :
    (∃ chosen f, Chosen (.object [clause]) chosen f) ↔ Sole (.object [clause]) := by
  constructor
  case mp =>
    rintro ⟨chosen, f, h⟩
    have ⟨_, hq, hm⟩ := h.mem
    cases hq
    cases List.mem_singleton.mp hm
    cases h
    case matchAll j _ => exact .matchAll j
    case term ts _ _ => exact .term ts
  case mpr =>
    rintro (j | ts)
    · exact ⟨_, _, .matchAll rfl⟩
    · exact ⟨_, _, .term rfl rfl⟩

theorem accepts_iff : f.accepts row ↔ Meets row f := by
  cases f
  case all => exact ⟨fun _ => .all, fun _ => rfl⟩
  case terms ts =>
    rw [accepts, List.all_eq_true]
    constructor
    case mp =>
      refine fun h => .terms fun t hm => ?_
      have ht := h t hm
      dsimp only at ht
      split at ht
      case h_1 j hj =>
        obtain ⟨hd, hn⟩ := Json.field?_eq_some.mp hj
        exact ⟨j, hd, hn, ht⟩
      case h_2 => cases ht
    case mpr =>
      intro h t hm
      cases h
      case terms h =>
        obtain ⟨j, hd, hn, hs⟩ := h t hm
        dsimp only
        rw [Json.field?_eq_some.mpr ⟨hd, hn⟩]
        exact hs

end Filter

variable {α : Type} [Quantity α]

-- Executions see no more of a query than the filter.
theorem execute_filter {fs : FileSystem} {dir : String} {d : Detector} {query query' : Option Json}
    {threshold : α} {limit : Nat} {start stop : Instant}
    (h : Filter.ofQuery query = Filter.ofQuery query') :
    execute (extract fs dir) threshold limit { d with filter := query } start stop =
      execute (extract fs dir) threshold limit { d with filter := query' } start stop := by
  have hx (b : Buckets) :
      (extract fs dir { d with filter := query } b : Except Engine.Fault (List (Series α))) =
        extract fs dir { d with filter := query' } b := by
    unfold extract
    dsimp only
    rw [h]
    rfl
  unfold execute
  simp only [hx]
  rfl

namespace Filter

variable (α) in
-- A query is accepted for one clause and refused for the lack of one. The rows that are looked at
-- are those which meet that clause, and executions are those for the clause alone. So the query is
-- enforced in full if it consists of its clause, but not if there is another one beside it.
theorem clauses_beside_are_dropped (query : Json) :
    (∀ f, ofQuery (some query) = .ok f ↔ ∃ clause, Chosen query clause f) ∧
    (∀ e, ofQuery (some query) = .error e ↔
      (∀ clause f, ¬Chosen query clause f) ∧ e = .unsupportedFilter query) ∧
    (∀ clause, query = .object [clause] → ((∃ f, ofQuery (some query) = .ok f) ↔ Sole query)) ∧
    (∀ f row, f.accepts row ↔ Meets row f) ∧
    ∀ clause f, Chosen query clause f →
      ofQuery (some (.object [clause])) = .ok f ∧
      ∀ (fs : FileSystem) (dir : String) (d : Detector) (threshold : α) (limit : Nat)
        (start stop : Instant),
        execute (extract fs dir) threshold limit { d with filter := some query } start stop =
          execute (extract fs dir) threshold limit { d with filter := some (.object [clause]) }
            start stop := by
  refine ⟨fun f => ofQuery_eq_ok, fun e => ?error, ?sole, fun f row => accepts_iff, ?dropped⟩
  case error =>
    simp only [ofQuery_eq_error, Option.some.injEq, exists_eq_left', understood_iff_chosen,
      not_exists]
  case sole =>
    rintro clause rfl
    rw [← exists_chosen_iff_sole, exists_comm]
    exact exists_congr fun f => ofQuery_eq_ok
  case dropped =>
    intro clause f h
    have ha := h.alone.ofQuery
    exact ⟨ha, fun fs dir d threshold limit start stop => execute_filter (h.ofQuery.trans ha.symm)⟩

-- A range beside a term is dropped, though it is refused where it stands alone. So a row is looked
-- at that is out of the range.
theorem clauses_beside_are_dropped_range :
    let range : String × Json := ("range", .object [("cpu", .object [("gt", .natural 1)])])
    let term : String × Json := ("term", .object [("host", .string "a")])
    let query : Json := .object [range, term]
    let row : Json := .object [("cpu", .natural 0), ("host", .string "a")]
    ofQuery (some query) = .ok (.terms [("host", .string "a")]) ∧ ¬Sole query ∧
    ofQuery (some (.object [range])) = .error (.unsupportedFilter (.object [range])) ∧
    ofQuery (some (.object [term])) = .ok (.terms [("host", .string "a")]) ∧
    Meets row (.terms [("host", .string "a")]) := by
  intro range term query row
  have hc : Chosen query term (.terms [("host", .string "a")]) := .term rfl rfl
  obtain ⟨ho, _, _, ha, hx⟩ := clauses_beside_are_dropped Float query
  obtain ⟨_, he, _⟩ := clauses_beside_are_dropped Float (.object [range])
  have hs (m n : String × Json) : ¬Sole (.object [m, n]) := by rintro ⟨⟩
  have hr : ∀ clause f, ¬Chosen (.object [range]) clause f := by rintro _ _ (h | ⟨_, h⟩) <;> cases h
  exact ⟨(ho _).mpr ⟨term, hc⟩, hs _ _, (he _).mpr ⟨hr, rfl⟩, (hx term _ hc).1,
    (ha _ row).mp (by decide)⟩

end Filter

end AnomalyDetection

import AnomalyDetection.Proofs.Detector.Interval
import AnomalyDetection.Proofs.Engine.Execution
import AnomalyDetection.Proofs.Engine.Extract
import AnomalyDetection.Proofs.Reasons
import AnomalyDetection.Proofs.Time.Wall

namespace AnomalyDetection

namespace Operator

theorem ofName?_eq_some {s : String} {o : Operator} : ofName? s = some o ↔ o.name = s := by
  constructor
  case mp =>
    intro h
    have hs := List.find?_some h
    exact eq_of_beq hs
  case mpr => rintro rfl; cases o <;> rfl

theorem ofName?_eq_none {s : String} : ofName? s = none ↔ ∀ o : Operator, o.name ≠ s := by
  rw [Option.eq_none_iff_forall_ne_some]
  exact forall_congr' fun o => not_congr ofName?_eq_some

end Operator

namespace Aggregation

-- A query for one operator on one field.
def Asks (query : Json) (operator : Operator) (field : String) : Prop :=
  ∃ name parameters, query = .object [(name, .object [(operator.name, parameters)])] ∧
    parameters.member? "field" = some (.string field)

-- What a query lacks, looked at from the outside in.
inductive Lacks : Json → Feature.Fault → Prop
  | notOneAggregation {query : Json} : (∀ name body, query ≠ .object [(name, body)]) →
    Lacks query .notOneAggregation
  | notOneOperator {name : String} {body : Json} :
    (∀ operator parameters, body ≠ .object [(operator, parameters)]) →
    Lacks (.object [(name, body)]) .notOneOperator
  | unknownOperator {name operator : String} {parameters : Json} :
    (∀ o : Operator, o.name ≠ operator) →
    Lacks (.object [(name, .object [(operator, parameters)])]) (.unknownOperator operator)
  | noField {name : String} {operator : Operator} {parameters : Json} :
    (∀ field, parameters.member? "field" ≠ some (.string field)) →
    Lacks (.object [(name, .object [(operator.name, parameters)])]) .noField

-- A query asks for something, or it lacks something.
theorem ofQuery_cases (query : Json) :
    (∃ a, ofQuery query = .ok a ∧ Asks query a.operator a.field) ∨
      ∃ e, ofQuery query = .error e ∧ Lacks query e := by
  unfold ofQuery
  split
  case h_2 hq => exact .inr ⟨_, rfl, .notOneAggregation hq⟩
  case h_1 name body =>
  split
  case h_2 hb => exact .inr ⟨_, rfl, .notOneOperator hb⟩
  case h_1 operator parameters =>
  split
  case h_1 hn => exact .inr ⟨_, rfl, .unknownOperator (Operator.ofName?_eq_none.mp hn)⟩
  case h_2 o ho =>
  cases Operator.ofName?_eq_some.mp ho
  split
  case h_1 field hf => exact .inl ⟨_, rfl, name, parameters, rfl, hf⟩
  case h_2 hf => exact .inr ⟨_, rfl, .noField hf⟩

theorem ofQuery_of_asks {query : Json} {operator : Operator} {field : String}
    (h : Asks query operator field) : ∃ a, ofQuery query = .ok a := by
  obtain ⟨name, parameters, rfl, hf⟩ := h
  refine ⟨⟨name, operator, field⟩, ?_⟩
  unfold ofQuery
  dsimp only
  rw [Operator.ofName?_eq_some.mpr rfl]
  dsimp only
  rw [hf]

theorem ofQuery_of_lacks {query : Json} {e : Feature.Fault} (h : Lacks query e) :
    ofQuery query = .error e := by
  cases h
  case notOneAggregation hq =>
    unfold ofQuery
    split
    case h_1 name body => exact absurd rfl (hq name body)
    case h_2 => rfl
  case notOneOperator name body hb =>
    unfold ofQuery
    dsimp only
    split
    case h_1 operator parameters => exact absurd rfl (hb operator parameters)
    case h_2 => rfl
  case unknownOperator hn =>
    unfold ofQuery
    dsimp only
    rw [Operator.ofName?_eq_none.mpr hn]
  case noField hf =>
    unfold ofQuery
    dsimp only
    rw [Operator.ofName?_eq_some.mpr rfl]
    dsimp only
    split
    case h_1 field h => exact absurd h (hf field)
    case h_2 => rfl

theorem ofQuery_eq_error {query : Json} {e : Feature.Fault} :
    ofQuery query = .error e ↔ Lacks query e := by
  refine ⟨fun h => ?_, ofQuery_of_lacks⟩
  obtain ⟨a, ha, _⟩ | ⟨e', he, hl⟩ := ofQuery_cases query
  · cases h.symm.trans ha
  · cases h.symm.trans he
    exact hl

-- Something is lacking of just those queries that ask for nothing.
theorem exists_lacks_iff {query : Json} :
    (∃ e, Lacks query e) ↔ ¬∃ operator field, Asks query operator field := by
  constructor
  case mp =>
    rintro ⟨e, hl⟩ ⟨operator, field, ha⟩
    have ⟨a, ha⟩ := ofQuery_of_asks ha
    cases ha.symm.trans (ofQuery_of_lacks hl)
  case mpr =>
    intro hn
    obtain ⟨a, _, ha⟩ | ⟨e, _, hl⟩ := ofQuery_cases query
    · exact absurd ⟨_, _, ha⟩ hn
    · exact ⟨e, hl⟩

theorem ofFeature_eq_error {f : Feature} {e : Engine.Fault} :
    ofFeature f = .error e ↔
      ∃ fault, Lacks f.query fault ∧ e = .invalidDetector (.feature f.name fault) := by
  simp only [ofFeature, Outcome.mapError_eq_error, ofQuery_eq_error]

end Aggregation

namespace Filter

def Understood (query : Json) : Prop :=
  (∃ j, query.member? "match_all" = some j) ∨
    ∃ terms, query.member? "term" = some (.object terms)

theorem ofQuery_eq_error {query : Option Json} {e : Engine.Fault} :
    ofQuery query = .error e ↔
      ∃ q, query = some q ∧ ¬Understood q ∧ e = .unsupportedFilter q := by
  unfold ofQuery
  split
  case h_1 => simp only [reduceCtorEq, false_and, exists_false]
  case h_2 q =>
    simp only [Option.some.injEq, exists_eq_left']
    split
    case isTrue ha =>
      have hu : Understood q := .inl (Option.isSome_iff_exists.mp ha)
      simp only [hu, reduceCtorEq, not_true_eq_false, false_and]
    case isFalse ha =>
    split
    case h_1 terms ht =>
      have hu : Understood q := .inr ⟨terms, ht⟩
      simp only [hu, reduceCtorEq, not_true_eq_false, false_and]
    case h_2 ht =>
      have hu : ¬Understood q := by
        rintro (h | ⟨terms, h⟩)
        · exact ha (Option.isSome_iff_exists.mpr h)
        · exact ht terms h
      simp only [hu, not_false_eq_true, true_and, Except.error.injEq, eq_comm]

end Filter

namespace Extract

variable {fs : FileSystem} {dir : String}

-- An index that cannot be read for another reason than that it has no file.
def Unreadable (fs : FileSystem) (dir index : String) (fault : FileFault) : Prop :=
  fs.readText (indexPath dir index) = .error fault ∧ fault ≠ .notFound

theorem indexLines_eq_error {index : String} {fault : FileFault} :
    indexLines fs dir index = .error fault ↔ Unreadable fs dir index fault := by
  constructor
  case mp =>
    intro h
    unfold indexLines at h
    split at h
    case h_1 => cases h
    case h_2 => cases h
    case h_3 hn hr =>
      cases h
      exact ⟨hr, hn⟩
  case mpr => exact fun ⟨hr, hn⟩ => indexLines_error hr hn

end Extract

variable {fs : FileSystem} {dir : String} {d : Detector} {start stop : Instant} {limit : Nat}
  {b : Buckets} {interval : Span}

variable (fs dir d) in
def extractReasons : List (Engine.Fault → Prop) := [
  fun e => ∃ query, d.filter = some query ∧ ¬Filter.Understood query ∧
    e = .unsupportedFilter query,
  FirstIn (fun f e => ∃ fault, Aggregation.Lacks f.query fault ∧
    e = .invalidDetector (.feature f.name fault)) d.enabledFeatures,
  fun e => ∃ fault, FirstIn (Extract.Unreadable fs dir) d.indices fault ∧ e = .file fault]

variable {α : Type} [Quantity α]

theorem extract_failsBy : FailsBy (extractReasons fs dir d)
    (extract fs dir d b : Except Engine.Fault (List (Series α))) := by
  refine .cons (fun e => Filter.ofQuery_eq_error) fun filter _ => ?_
  refine .cons (fun e => Traversal.mapM_eq_error fun f e => ?features) fun features _ => ?lines
  case features => rw [Outcome.map_eq_error, Aggregation.ofFeature_eq_error]
  case lines =>
    refine .cons (fun e => ?_) fun lines _ => .ok _
    simp only [Outcome.mapError_eq_error, Traversal.mapM_eq_error fun _ _ =>
      Extract.indexLines_eq_error]

theorem Buckets.split_failsBy (h : 0 < interval.millis) :
    FailsBy [
        fun e => (stop - start).millis < interval.millis ∧ e = .windowTooShort,
        fun e => limit < ((stop - start).millis / interval.millis).toNat ∧
          e = .tooManyBuckets ((stop - start).millis / interval.millis).toNat limit]
      ((split start stop interval limit).mapError Engine.Fault.ofBuckets) := by
  have hs : (split start stop interval limit).mapError Engine.Fault.ofBuckets =
      if (stop - start).millis < interval.millis then .error .windowTooShort
      else if limit < ((stop - start).millis / interval.millis).toNat then
        .error (.tooManyBuckets ((stop - start).millis / interval.millis).toNat limit)
      else .ok ⟨start, interval, ((stop - start).millis / interval.millis).toNat⟩ := by
    unfold split
    dsimp only
    rw [if_neg (Int.not_le.mpr h)]
    split
    case isTrue => rfl
    case isFalse => split <;> rfl
  rw [hs]
  exact .guard fun _ => .guard fun _ => .ok _

variable (fs dir d start stop limit) in
-- Why an execution fails, in the order in which it finds out.
def executeReasons : List (Engine.Fault → Prop) := [
  fun e => d.enabledFeatures = [] ∧ e = .noEnabledFeatures,
  fun e => ∃ fault, d.interval.Lacks fault ∧ e = .invalidDetector (.interval fault),
  fun e => (stop - start).millis < d.interval.length.millis ∧ e = .windowTooShort,
  fun e => limit < ((stop - start).millis / d.interval.length.millis).toNat ∧
    e = .tooManyBuckets ((stop - start).millis / d.interval.length.millis).toNat limit] ++
  extractReasons fs dir d

theorem execute_failsBy {threshold : α} : FailsBy (executeReasons fs dir d start stop limit)
    (execute (extract fs dir) threshold limit d start stop) := by
  unfold execute
  refine .guard fun _ => .cons (fun e => ?interval) fun interval hi => ?split
  case interval => simp only [Outcome.mapError_eq_error, Interval.span_eq_error]
  case split =>
    have ⟨hp, hl⟩ := Interval.span_eq_ok (Outcome.mapError_eq_ok hi)
    subst hl
    refine (Buckets.split_failsBy hp).bind fun b _ => ?_
    rw [← List.append_nil (extractReasons fs dir d)]
    exact extract_failsBy.bind fun series _ => .ok _

variable (fs dir d start stop limit) in
-- The reasons are all there is to it. Of the files they only ask which ones of the detector's
-- indices cannot be read. Where an execution succeeds, every result lies in the range of the
-- calendar, unless the window ends in a leap second behind the very last second.
theorem execute_fails_for_reasons (threshold : α) :
    FailsBy (executeReasons fs dir d start stop limit)
      (execute (extract fs dir) threshold limit d start stop) ∧
    (∀ query, (∃ fault, Aggregation.Lacks query fault) ↔
      ¬∃ operator field, Aggregation.Asks query operator field) ∧
    (∀ (fs' : FileSystem) (dir' : String) (threshold' : α),
      (∀ index ∈ d.indices, ∀ fault,
        Extract.Unreadable fs' dir' index fault ↔ Extract.Unreadable fs dir index fault) →
      failure (execute (extract fs' dir') threshold' limit d start stop) =
        failure (execute (extract fs dir) threshold limit d start stop)) ∧
    (start.InRange → stop.InRange →
      ¬(stop.day = Instant.lastDay ∧ stop.second = 86399 ∧ stop.inLeapSecond) →
      ∀ results, execute (extract fs dir) threshold limit d start stop = .ok results →
        ∀ r ∈ results, r.start.InRange ∧ r.stop.InRange) := by
  refine ⟨execute_failsBy, fun query => Aggregation.exists_lacks_iff, ?directory, ?results⟩
  case directory =>
    intro fs' dir' threshold' h
    have hr : executeReasons fs' dir' d start stop limit =
        executeReasons fs dir d start stop limit := by
      simp only [executeReasons, extractReasons, firstIn_congr h]
    exact (hr ▸ execute_failsBy).failure_eq execute_failsBy
  case results =>
    intro hs he hl results h r hm
    have ⟨_, interval, b, series, hi, hb, _, hres⟩ := execute_eq_ok.mp h
    have ⟨_, hi⟩ := Interval.span_eq_ok hi
    subst hi
    have ⟨i, hm⟩ := List.getElem?_of_mem hm
    have ⟨hc, hr, _⟩ := Score.getElem?_buckets (hres ▸ hm)
    have hx := Buckets.inRange_bounds hs he hl hb hc
    rw [← hr] at hx
    exact hx

-- An index with a row and one without a file, and another directory where there is no row.
theorem execute_fails_for_reasons_no_row :
    let query : Json := .object [("a", .object [("sum", .object [("field", .string "x")])])]
    let d := { Detector.blank with
      timeField := "t", indices := ["m", "n"], features := [⟨none, "f", true, query⟩],
      interval := ⟨1, .minutes⟩ }
    let row := "\x7b\"t\":0,\"x\":2\x7d"
    let fs : FileSystem := ⟨[(["m.jsonl"], .file (Text.octets row))], []⟩
    let fs' : FileSystem :=
      ⟨[(["s"], .directory), (["s", "m.jsonl"], .file (Text.octets "no row\n"))], []⟩
    let start : Instant := .ofParts 0 0 0
    let stop : Instant := .ofParts 0 120 0
    (∀ index ∈ d.indices, ∀ fault,
      Extract.Unreadable fs' "/s" index fault ↔ Extract.Unreadable fs "/" index fault) ∧
    failure (execute (extract fs' "/s") (2 : Float) 2 d start stop) =
      failure (execute (extract fs "/") (3 : Float) 2 d start stop) ∧
    start.InRange ∧ stop.InRange ∧
    ¬(stop.day = Instant.lastDay ∧ stop.second = 86399 ∧ stop.inLeapSecond) ∧
    ∃ results : List (AnomalyResult Float),
      execute (extract fs "/") 3 2 d start stop = .ok results ∧
      ∀ r ∈ results, r.start.InRange ∧ r.stop.InRange := by
  intro query d row fs fs' start stop
  have hm : fs.readText (Extract.indexPath "/" "m") = .ok row.toList := by decide +kernel
  have hn : fs.readText (Extract.indexPath "/" "n") = .error .notFound := by decide +kernel
  have hm' : fs'.readText (Extract.indexPath "/s" "m") = .ok "no row\n".toList := by decide +kernel
  have hn' : fs'.readText (Extract.indexPath "/s" "n") = .error .notFound := by decide +kernel
  have hx : ∀ index ∈ d.indices, ∀ fault,
      Extract.Unreadable fs' "/s" index fault ↔ Extract.Unreadable fs "/" index fault := by
    simp [d, Extract.Unreadable, hm, hn, hm', hn']
  have hr : ∀ index ∈ d.indices, Extract.Readable fs "/" index := by
    simp [d, Extract.Readable, hm, hn]
  have hd : d.interval.span = .ok (.ofMillis 60000) := by decide
  have hb : Buckets.split start stop (.ofMillis 60000) 2 = .ok ⟨start, .ofMillis 60000, 2⟩ := by
    decide
  have ha : ∀ f ∈ d.enabledFeatures, ∃ a, Aggregation.ofFeature f = .ok a :=
    List.forall_mem_singleton.mpr ⟨⟨"a", .sum, "x"⟩, rfl⟩
  have hs : start.InRange := by decide
  have he : stop.InRange := by decide
  have hl : ¬(stop.day = Instant.lastDay ∧ stop.second = 86399 ∧ stop.inLeapSecond) := by decide
  obtain ⟨all, h⟩ := execute_of_readable (by decide) hd hb rfl ha hr (3 : Float)
  obtain ⟨_, _, hc, hi⟩ := execute_fails_for_reasons fs "/" d start stop 2 (3 : Float)
  exact ⟨hx, hc fs' "/s" 2 hx, hs, he, hl, _, h, hi hs he hl _ h⟩

-- An index below what is a file has no file, and it has none either where there is nothing at all.
-- There it is passed over, but not here. And for a window that ends in the leap second behind the
-- very last second, there is a result that would have to end later than any instant.
theorem not_execute_below_file :
    let query : Json := .object [("a", .object [("sum", .object [("field", .string "x")])])]
    let d := { Detector.blank with
      timeField := "t", indices := ["m.jsonl/x"], features := [⟨none, "f", true, query⟩],
      interval := ⟨1, .minutes⟩ }
    let row := "\x7b\"t\":1000,\"x\":2\x7d\n"
    let fs : FileSystem := ⟨[(["m.jsonl"], .file (Text.octets row))], []⟩
    let empty : FileSystem := ⟨[], []⟩
    let start : Instant := .ofParts 0 0 0
    let stop : Instant := .ofParts 0 60 0
    let lastMinute : Instant := .ofParts Instant.lastDay 86340 0
    let lastLeapSecond : Instant :=
      ⟨Instant.lastDay, 86399, giga + 500000000, by decide, by decide⟩
    fs.entry? ["m.jsonl", "x.jsonl"] = none ∧
    (∀ index ∈ d.indices, ∀ text, fs.readText (Extract.indexPath "/" index) ≠ .ok text ∧
      empty.readText (Extract.indexPath "/" index) ≠ .ok text) ∧
    execute (extract fs "/") (3 : Float) 1 d start stop = .error (.file .notADirectory) ∧
    (∃ results, execute (extract empty "/") (3 : Float) 1 d start stop = .ok results) ∧
    lastMinute.InRange ∧ lastLeapSecond.InRange ∧
    ∃ results, execute (extract empty "/") (3 : Float) 1 d lastMinute lastLeapSecond = .ok results ∧
      ∃ r ∈ results, ¬r.stop.InRange := by
  intro query d row fs empty start stop lastMinute lastLeapSecond
  have hd : d.interval.span = .ok (.ofMillis 60000) := by decide
  have hb : Buckets.split start stop (.ofMillis 60000) 1 = .ok ⟨start, .ofMillis 60000, 1⟩ := by
    decide
  have hb' : Buckets.split lastMinute lastLeapSecond (.ofMillis 60000) 1 =
    .ok ⟨lastMinute, .ofMillis 60000, 1⟩ := by decide
  have ha : ∀ f ∈ d.enabledFeatures, ∃ a, Aggregation.ofFeature f = .ok a :=
    List.forall_mem_singleton.mpr ⟨⟨"a", .sum, "x"⟩, rfl⟩
  have hm : fs.readText (Extract.indexPath "/" "m.jsonl/x") = .error .notADirectory := by
    decide +kernel
  have hn : empty.readText (Extract.indexPath "/" "m.jsonl/x") = .error .notFound := by
    decide +kernel
  have hr : ∀ index ∈ d.indices, Extract.Readable empty "/" index := by
    simp [d, Extract.Readable, hn]
  have ht : ∀ index ∈ d.indices, ∀ text, fs.readText (Extract.indexPath "/" index) ≠ .ok text ∧
      empty.readText (Extract.indexPath "/" index) ≠ .ok text := by
    simp [d, hm, hn]
  obtain ⟨_, h₁⟩ := execute_of_readable (by decide) hd hb rfl ha hr (3 : Float)
  obtain ⟨_, h₂⟩ := execute_of_readable (by decide) hd hb' rfl ha hr (3 : Float)
  have hx : (extract fs "/" d ⟨start, .ofMillis 60000, 1⟩ :
      Except Engine.Fault (List (Series Float))) = .error (.file .notADirectory) :=
    Extract.extract_of_unreadable rfl ha (show d.indices = [] ++ "m.jsonl/x" :: [] from rfl)
      (List.forall_mem_nil _) hm (by decide)
  have h : execute (extract fs "/") (3 : Float) 1 d start stop = .error (.file .notADirectory) := by
    unfold execute
    rw [if_neg (by decide), hd]
    simp only [bind, Except.bind, Except.mapError, hb, hx]
  have hl : ¬(Buckets.bounds ⟨lastMinute, .ofMillis 60000, 1⟩ 0).2.InRange := by decide
  exact ⟨rfl, ht, h, ⟨_, h₁⟩, by decide, by decide, _, h₂, _, List.mem_cons_self, hl⟩

end AnomalyDetection

import AnomalyDetection.Proofs.Engine.Execution
import AnomalyDetection.Proofs.Execution.Input
import AnomalyDetection.Proofs.Text.Blank
import AnomalyDetection.Service.Server

namespace AnomalyDetection.Service

open Execution.Input (plan_run plan_preview)

-- What an execution of a stored detector comes to.
inductive Finding
  | unreadable (fault : Store.Fault)
  | unknown
  | corrupt (fault : DocumentFault)
  | failed (d : Detector) (fault : Engine.Fault)
  | found (d : Detector) (results : List (AnomalyResult Float))

namespace Finding

def ofServer (config : Config) (files : FileSystem) (id : String) (start stop : Instant) :
    Finding :=
  match Store.File.get files config.detectorsDir id with
  | .error e => unreadable e
  | .ok answer =>
    match answer.document? with
    | none => unknown
    | some source =>
      match Detector.ofDocument source id answer.version with
      | .error e => corrupt e
      | .ok d =>
        match Server.detect config files d start stop with
        | .error e => failed d e
        | .ok results => found d results

-- The answer of the result action.
def run (id : String) : Finding → Except Action.Fault Action.Response
  | unreadable e => .error (.store e)
  | unknown => .error (.unknownDetector id)
  | corrupt e => .error (.corruptDetector e)
  | failed _ e => .error (.engine e)
  | found _ results => .ok ((results.getLast?.map Action.Response.ofResult).getD .noData)

-- The response to a preview.
def preview (id : String) : Finding → Http.Response
  | unreadable e => (Refusal.store e).response
  | unknown => (Refusal.unknownDetector id).response
  | corrupt e => (Refusal.corruptDetector e).response
  | failed d _ => previewResponse (some d.toJson) none
  | found d results =>
    previewResponse (some d.toJson) (some (.array (results.map AnomalyResult.toJson)))

end Finding

variable {config : Config} {settings : Settings} {files : FileSystem} {path : List Char}
  {body : Octets} {id : String} {input : Execution.Input} {start stop : Instant}

theorem check_eq_ok (hi : id ≠ "") (ht : Text.trim id.toList = id.toList)
    (hs : Instant.ofMillis start.epochMillis = .ok start)
    (he : Instant.ofMillis stop.epochMillis = .ok stop) (hl : start < stop) :
    (⟨id, start.epochMillis, stop.epochMillis⟩ : Action.Request).check = .ok (id, start, stop) := by
  have hn : id.toList ≠ [] := fun h => hi (String.toList_eq_nil_iff.mp h)
  simp only [Action.Request.check, ht, hn, hs, he, if_false, String.ofList_toList]
  exact if_pos hl

-- Both routes ask the store and the engine by themselves, each in its own words.

theorem act_eq_finding {r : Action.Request} (hc : r.check = .ok (id, start, stop)) :
    ((Server.collaborators config).act r).run files =
      ((Finding.ofServer config files id start stop).run id, files) := by
  simp only [Server.collaborators, Collaborators.around, Action.run, hc, Finding.ofServer,
    StateT.run, bind, StateT.bind]
  cases Store.File.get files config.detectorsDir id
  case error => rfl
  case ok answer =>
  dsimp only
  cases answer.document?
  case none => rfl
  case some source =>
  dsimp only
  cases Detector.ofDocument source id answer.version
  case error => rfl
  case ok d =>
  dsimp only [StateT.bind]
  cases Server.detect config files d start stop <;> rfl

theorem resolve_eq_finding :
    (do
      match ← resolve (Server.collaborators config).lookup id with
      | .error e => return e.response
      | .ok d => preview (Server.collaborators config) d start stop :
        StateM FileSystem _).run files =
      ((Finding.ofServer config files id start stop).preview id, files) := by
  simp only [Server.collaborators, Collaborators.around, resolve, preview, Finding.ofServer,
    StateT.run, bind, StateT.bind]
  cases Store.File.get files config.detectorsDir id
  case error => rfl
  case ok answer =>
  dsimp only
  cases answer.document?
  case none => rfl
  case some source =>
  dsimp only [StateT.bind]
  cases Detector.ofDocument source id answer.version
  case error => rfl
  case ok d =>
  dsimp only [pure, StateT.pure, StateT.bind, Except.mapError]
  cases Server.detect config files d start stop <;> rfl

section

variable {pathId : Option String} (hb : Execution.Input.ofBody body pathId = .ok input)
  (hw : input.window? = some (start, stop)) (hl : start < stop) (hg : input.givenId? = some id)

include hb hw hl hg

theorem dispatch_run (hr : Execution.Route.ofPath? path = some .run)
    (hc : (⟨id, start.epochMillis, stop.epochMillis⟩ : Action.Request).check =
      .ok (id, start, stop)) :
    (dispatch (Server.collaborators config) settings pathId path body).run files =
      (actionResponse ((Finding.ofServer config files id start stop).run id), files) := by
  simp only [dispatch, hr, hb, plan_run hg hw hl, StateT.run_bind, act_eq_finding hc]
  rfl

theorem dispatch_preview (hr : Execution.Route.ofPath? path = some .preview)
    (hd : input.detector = none) :
    (dispatch (Server.collaborators config) settings pathId path body).run files =
      ((Finding.ofServer config files id start stop).preview id, files) := by
  simp only [dispatch, hr, hb, plan_preview hw hl, hg, Execution.Input.takeDetector, hd]
  exact resolve_eq_finding

end

-- What the latest bucket looks like in both answers.
def sharedKeys : List String :=
  ["anomaly_grade", "confidence", "anomaly_score", "data_start_time", "data_end_time",
    "feature_data"]

structure Agrees (id : String) (run preview : Http.Response) : Prop where
  status : run.status = preview.status
  latest : preview.status = 200 → ∃ shown results last d,
    run = .json 200 shown ∧
    preview = .json 200 (.object [("anomaly_result", .array results), ("anomaly_detector", d)]) ∧
    results.getLast? = some last ∧
    ∀ key ∈ sharedKeys, (shown.member? key).isSome ∧ shown.member? key = last.member? key
  unknown : preview.status = 404 →
    preview = .error 404 (Store.unknownMessage id) ∧ run = .error 404 (Store.unknownMessage id)

theorem member?_ofResult (r : AnomalyResult Float) :
    ∀ key ∈ sharedKeys, ((Action.Response.ofResult r).toJson.member? key).isSome ∧
      (Action.Response.ofResult r).toJson.member? key = r.toJson.member? key := by
  cases h : r.detectorId <;>
    simp [sharedKeys, Action.Response.ofResult, Action.Response.toJson, AnomalyResult.toJson,
      Json.member?, h, List.lookup_cons]

theorem Finding.agrees (f : Finding) (hn : ∀ d results, f = found d results → results ≠ []) :
    Agrees id (actionResponse (f.run id)) (f.preview id) := by
  cases f
  case unreadable => exact ⟨rfl, nofun, nofun⟩
  case unknown => exact ⟨rfl, nofun, fun _ => ⟨rfl, rfl⟩⟩
  case corrupt => exact ⟨rfl, nofun, nofun⟩
  case failed => exact ⟨rfl, nofun, nofun⟩
  case found d results =>
    have hr := List.getLast?_eq_some_getLast (hn d results rfl)
    refine ⟨rfl, fun _ => ?_, nofun⟩
    refine ⟨(Action.Response.ofResult (results.getLast (hn d results rfl))).toJson, _, _, _,
      ?run, rfl, ?last, member?_ofResult _⟩
    case run => simp only [Finding.run, hr]; rfl
    case last => rw [List.getLast?_map, hr]; rfl

theorem Finding.results_ne_nil {d : Detector} {results : List (AnomalyResult Float)}
    (h : ofServer config files id start stop = found d results) : results ≠ [] := by
  unfold ofServer at h
  repeat' split at h
  all_goals cases h
  exact execute_ne_nil (by assumption)

-- A stored detector is known by its id, which has neither blanks around it nor no character at all,
-- and both ends of the window are instants that a count of milliseconds can stand for.
theorem run_agrees_preview {runPath previewPath : List Char}
    (hr : Execution.Route.ofPath? runPath = some .run)
    (hp : Execution.Route.ofPath? previewPath = some .preview)
    (hi : id ≠ "") (ht : Text.trim id.toList = id.toList)
    (hb : Execution.Input.ofBody body (some id) = .ok input) (hd : input.detector = none)
    (hw : input.window? = some (start, stop)) (hl : start < stop)
    (hs : start.IsWholeMillis) (he : stop.IsWholeMillis) :
    let answer (path : List Char) : Http.Response × FileSystem :=
      (dispatch (Server.collaborators config) settings (some id) path body).run files
    Agrees id (answer runPath).1 (answer previewPath).1 ∧
      (answer runPath).2 = files ∧ (answer previewPath).2 = files := by
  intro answer
  have hn : id.toList ≠ [] := fun h => hi (String.toList_eq_nil_iff.mp h)
  have hg := Execution.Input.givenId?_eq_of_path hb (Text.allBlank_eq_false_of_trim hn ht)
  have ⟨hrs, hre⟩ := (Execution.Input.timely_of_ofBody hb).window? hw
  have hc := check_eq_ok hi ht (Instant.ofMillis_epochMillis hs hrs)
    (Instant.ofMillis_epochMillis he hre) hl
  have h₁ : answer runPath = _ := dispatch_run hb hw hl hg hr hc
  have h₂ : answer previewPath = _ := dispatch_preview hb hw hl hg hp hd
  rw [h₁, h₂]
  exact ⟨Finding.agrees _ fun d results => Finding.results_ne_nil, rfl, rfl⟩

-- The sums of a field, minute by minute.
def sums (indices : List String) : Detector :=
  { Detector.blank with
    name := "n", timeField := "t", indices, interval := ⟨1, .minutes⟩
    features := [⟨none, "f", true,
      .object [("a", .object [("sum", .object [("field", .string "x")])])]⟩] }

-- An index with one row, and no detector.
def oneRow : FileSystem :=
  ⟨[(["data"], .directory), (["data", "detectors"], .directory), (["data", "series"], .directory),
    (["data", "series", "m.jsonl"], .file (Text.octets "\x7b\"t\":1000,\"x\":2\x7d"))], []⟩

-- The first minute of 1970, for a detector that has been stored and for another id.
theorem run_agrees_preview_one_row :
    let config : Config := .ofProfile [] ""
    let files : FileSystem := (Store.File.put oneRow config.detectorsDir "a" (sums ["m"])).2
    let start : Instant := .ofParts 0 0 0
    let stop : Instant := .ofParts 0 60 0
    let body := Text.octets "\x7b\"period_start\":0,\"period_end\":60000\x7d"
    let answer (id path : String) : Http.Response :=
      ((dispatch (Server.collaborators config) ⟨true, 5, 0⟩ (some id) path.toList body).run files).1
    start < stop ∧ start.IsWholeMillis ∧ stop.IsWholeMillis ∧
    (∀ id ∈ ["a", "x"], Text.trim id.toList = id.toList ∧
      Execution.Input.ofBody body (some id) = .ok ⟨some id, none, some start, some stop⟩) ∧
    (answer "a" "/d/a/run").status = 200 ∧ (answer "a" "/d/a/preview").status = 200 ∧
    Agrees "a" (answer "a" "/d/a/run") (answer "a" "/d/a/preview") ∧
    (answer "x" "/d/x/run").status = 404 ∧ (answer "x" "/d/x/preview").status = 404 ∧
    Agrees "x" (answer "x" "/d/x/run") (answer "x" "/d/x/preview") := by
  intro config files start stop body answer
  have hl : start < stop := by decide
  have hs : start.IsWholeMillis := ⟨rfl, rfl⟩
  have he : stop.IsWholeMillis := ⟨rfl, rfl⟩
  have hd : Execution.Input.shape.ofDocument body = .ok ⟨none, none, some start, some stop⟩ :=
    Outcome.eq_ok_of_toOption (by decide +kernel)
  have hb (id : String) :
      Execution.Input.ofBody body (some id) = .ok ⟨some id, none, some start, some stop⟩ := by
    rw [Execution.Input.ofBody, hd]
    rfl
  have ht : ∀ id ∈ ["a", "x"], Text.trim id.toList = id.toList := by decide +kernel
  have agree {id runPath previewPath : String}
      (hr : Execution.Route.ofPath? runPath.toList = some .run)
      (hp : Execution.Route.ofPath? previewPath.toList = some .preview) (hi : id ≠ "")
      (ht : Text.trim id.toList = id.toList) :
      Agrees id (answer id runPath) (answer id previewPath) :=
    (run_agrees_preview hr hp hi ht (hb id) rfl rfl hl hs he).left
  have ha : Agrees "a" (answer "a" "/d/a/run") (answer "a" "/d/a/preview") :=
    agree (by decide +kernel) (by decide +kernel) (by decide) (ht _ (by decide))
  have hx : Agrees "x" (answer "x" "/d/x/run") (answer "x" "/d/x/preview") :=
    agree (by decide +kernel) (by decide +kernel) (by decide) (ht _ (by decide))
  have hsa : (answer "a" "/d/a/preview").status = 200 := by decide +kernel
  have hsx : (answer "x" "/d/x/preview").status = 404 := by decide +kernel
  exact ⟨hl, hs, he, fun id hi => ⟨ht id hi, hb id⟩, ha.status.trans hsa, hsa, ha,
    hx.status.trans hsx, hsx, hx⟩

-- An id without any character is refused on one route and not found on the other. So is a window
-- that starts in a leap second: counted in milliseconds it may be empty.
theorem run_disagrees_preview :
    let day : Int := Date.toDay ⟨2017, 1, 1⟩
    let leap : Instant := ⟨day - 1, 86399, giga, by decide, by decide⟩
    let midnight : Instant := .ofParts day 0 0
    let start : Instant := .ofParts 0 0 0
    let stop : Instant := .ofParts 0 60 0
    let window := Text.octets "\x7b\"period_start\":0,\"period_end\":60000\x7d"
    let leapWindow := Text.octets
      "\x7b\"period_start\":\"2016-12-31T23:59:60Z\",\"period_end\":\"2017-01-01T00:00:00Z\"\x7d"
    let status (id path : String) (body : Octets) : Nat :=
      ((dispatch (Server.collaborators (.ofProfile [] "")) ⟨true, 5, 0⟩ (some id) path.toList
        body).run ⟨[], []⟩).1.status
    (Text.trim "".toList = "".toList ∧
      Execution.Input.ofBody window (some "") = .ok ⟨some "", none, some start, some stop⟩ ∧
      start < stop ∧
      status "" "/d//run" window = 400 ∧ status "" "/d//preview" window = 404) ∧
    (Text.trim "x".toList = "x".toList ∧
      Execution.Input.ofBody leapWindow (some "x") =
        .ok ⟨some "x", none, some leap, some midnight⟩ ∧
      leap < midnight ∧ leap.nanosecond % 1000000 = 0 ∧ midnight.nanosecond % 1000000 = 0 ∧
      status "x" "/d/x/run" leapWindow = 400 ∧ status "x" "/d/x/preview" leapWindow = 404) := by
  intro day leap midnight start stop window leapWindow status
  exact ⟨⟨rfl, Outcome.eq_ok_of_toOption (by decide +kernel), by decide, by decide +kernel,
    by decide +kernel⟩, by decide +kernel, Outcome.eq_ok_of_toOption (by decide +kernel),
    by decide +kernel, by decide, rfl, by decide +kernel, by decide +kernel⟩

end AnomalyDetection.Service

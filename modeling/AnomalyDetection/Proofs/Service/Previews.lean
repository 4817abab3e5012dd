import AnomalyDetection.Proofs.Service.Agreement
import AnomalyDetection.Proofs.Store.Frame

namespace AnomalyDetection.Service

open Store (Envelope IsFileId Steady)
open Store.Envelope (documentOf)

-- Documents of a detector that differ in nothing but id and version.
def SameDetector (d d' : Json) : Prop :=
  (d.without "detector_id").without "version" = (d'.without "detector_id").without "version"

-- Responses to previews that show the same of detectors that differ in nothing but id and version.
inductive SamePreview : Http.Response → Http.Response → Prop
  | shown {results results' : List Json} {d d' : Json} :
    results.map (Json.without "detector_id") = results'.map (Json.without "detector_id") →
    SameDetector d d' →
    SamePreview (previewResponse (some d) (some (.array results)))
      (previewResponse (some d') (some (.array results')))
  | failed {d d' : Json} : SameDetector d d' →
    SamePreview (previewResponse (some d) none) (previewResponse (some d') none)

theorem SamePreview.status {inline stored : Http.Response} (h : SamePreview inline stored) :
    inline.status = stored.status := by
  cases h <;> rfl

namespace Finding

-- What an execution of a detector that is at hand comes to.
def ofDetector (config : Config) (files : FileSystem) (d : Detector) (start stop : Instant) :
    Finding :=
  match Server.detect config files d start stop with
  | .error e => failed d e
  | .ok results => found d results

end Finding

variable {config : Config} {settings : Settings} {files files' : FileSystem} {path : List Char}
  {body : Octets} {pathId : Option String} {id : String} {input : Execution.Input} {d : Detector}
  {start stop : Instant}

theorem dispatch_inline (hr : Execution.Route.ofPath? path = some .preview)
    (hb : Execution.Input.ofBody body pathId = .ok input) (hd : input.detector = some d)
    (hp : d.problem? settings.maxFeatures = none) (hw : input.window? = some (start, stop))
    (hl : start < stop) (id : String) :
    (dispatch (Server.collaborators config) settings pathId path body).run files =
      ((Finding.ofDetector config files d start stop).preview id, files) := by
  simp only [dispatch, hr, hb, Execution.Input.plan_preview hw hl, Execution.Input.takeDetector, hd,
    hp, preview, Server.collaborators, Collaborators.around, Finding.ofDetector, StateT.run, bind,
    StateT.bind]
  cases Server.detect config files d start stop <;> rfl

theorem Finding.ofServer_of_get {source : Octets} {version : UInt64}
    (hg : Store.File.get files config.detectorsDir id = .ok (.holding ⟨source, version⟩))
    (hd : Detector.ofDocument source id (some version) = .ok d) :
    ofServer config files id start stop = ofDetector config files d start stop := by
  simp only [ofServer, hg, Store.Answer.holding, Store.Answer.document?, if_true, hd]
  rfl

theorem detect_congr (h : ∀ index ∈ d.indices,
      Extract.indexLines files' config.seriesDir index =
        Extract.indexLines files config.seriesDir index) :
    Server.detect config files' d start stop = Server.detect config files d start stop :=
  execute_eq fun _ _ _ _ => Extract.extract_eq fun index hi => h index hi ▸ .refl _

theorem detect_stamp {id : Option String} {version : Option UInt64} :
    Server.detect config files { d with id, version } start stop =
      (Server.detect config files d start stop).map
        (List.map fun r => { r with detectorId := id }) :=
  execute_stamp fun _ => rfl

theorem sameDetector_stamp (d : Detector) (id : Option String) (version : Option UInt64) :
    SameDetector d.toJson ({ d with id, version }).toJson := by
  simp only [SameDetector, Detector.toJson, Json.without, Detector.members, List.filter_append,
    List.filter_cons, List.filter_nil, Json.Members.filter_maybe, bne_iff_ne, ne_eq,
    String.reduceEq, not_false_eq_true, if_true, if_false]

theorem without_stamp (r : AnomalyResult Float) (id : Option String) :
    ({ r with detectorId := id }).toJson.without "detector_id" =
      r.toJson.without "detector_id" := by
  simp only [AnomalyResult.toJson, Json.without, List.filter_append, Json.Members.filter_maybe,
    if_true]

theorem Finding.samePreview_stamp (id other : String) (stamp : Option String)
    (version : Option UInt64) :
    SamePreview ((ofDetector config files d start stop).preview id)
      ((ofDetector config files { d with id := stamp, version } start stop).preview other) := by
  have hs : Server.detect config files { d with id := stamp, version } start stop = _ :=
    detect_stamp
  simp only [ofDetector, hs]
  cases Server.detect config files d start stop
  case error => exact .failed (sameDetector_stamp ..)
  case ok results =>
    refine .shown ?_ (sameDetector_stamp ..)
    simp only [List.map_map, Function.comp_def, without_stamp]

-- The store hands out the detector that was put, and it still nests less than a reader takes.
theorem Finding.ofServer_of_put {version : UInt64} (hd : d.Fits 123)
    (hf : ∀ x, d.Mentions (.float x) → (Json.Number.float x).ReadsBack)
    (h : Store.File.put files config.detectorsDir id d = (.ok version, files')) :
    ofServer config files' id start stop =
      ofDetector config files' { d with id := some id, version := some version } start stop := by
  have ⟨p, q, hw⟩ := Store.File.wrote_of_put h
  have hl : (documentOf d).depth < Json.nestingLimit :=
    Nat.lt_succ_of_le (Detector.depth_documentOf hd)
  have hn := Envelope.readsBack_documentOf hf version
  have hg := hw.get hn
  rw [if_pos hl] at hg
  exact ofServer_of_get hg (Envelope.ofDocument_documentOf (hd.mono (Nat.le_succ 123))
    (Nat.le_of_lt hl) hn id (some version))

-- Both previews are made of the same files, those after the put, or the inline one of those before.
-- An index is a path, and may lead out of the directory of the series, to the files of the store.
theorem inline_agrees_stored {settings' : Settings} {path' : List Char} {body' : Octets}
    {pathId' : Option String} {input' : Execution.Input}
    (hr : Execution.Route.ofPath? path = some .preview)
    (hb : Execution.Input.ofBody body pathId = .ok input) (hd : input.detector = some d)
    (hp : d.problem? settings.maxFeatures = none) (hw : input.window? = some (start, stop))
    (hl : start < stop)
    (hr' : Execution.Route.ofPath? path' = some .preview)
    (hb' : Execution.Input.ofBody body' pathId' = .ok input') (hd' : input'.detector = none)
    (hg' : input'.givenId? = some id) (hw' : input'.window? = some (start, stop))
    (hf : ∀ x, d.Mentions (.float x) → (Json.Number.float x).ReadsBack) :
    let inline (files : FileSystem) : Http.Response :=
      ((dispatch (Server.collaborators config) settings pathId path body).run files).1
    let stored (files : FileSystem) : Http.Response :=
      ((dispatch (Server.collaborators config) settings' pathId' path' body').run files).1
    (∀ version files', Store.File.put files config.detectorsDir id d = (.ok version, files') →
      SamePreview (inline files') (stored files') ∧
      ((∀ index ∈ d.indices,
          Steady files config.detectorsDir id (Extract.indexPath config.seriesDir index)) →
        SamePreview (inline files) (stored files'))) ∧
    ∀ p before version, IsFileId id → files.Houses config.detectorsDir p →
      files.entry? (Store.File.targetPlace p id) ≠ some .directory →
      files.entry? (Store.File.draftPlace p id) ≠ some .directory →
      Store.File.envelope? files config.detectorsDir id = .ok before →
      Store.File.nextVersion before = .ok version →
      (Store.File.put files config.detectorsDir id d).1 = .ok version := by
  intro inline stored
  have ht : d.Fits 123 := Execution.Input.fits_of_ofBody hb hd
  have hx (files : FileSystem) :
      inline files = (Finding.ofDetector config files d start stop).preview id :=
    congrArg Prod.fst (dispatch_inline hr hb hd hp hw hl id)
  refine ⟨fun version files' h => ?same, fun p before version hi hh htf hdf he hn => ?puts⟩
  case same =>
    have hs : stored files' = (Finding.ofDetector config files'
        { d with id := some id, version := some version } start stop).preview id := by
      rw [← Finding.ofServer_of_put ht hf h]
      exact congrArg Prod.fst (dispatch_preview hb' hw' hl hg' hr' hd')
    rw [hs, hx, hx]
    refine ⟨Finding.samePreview_stamp .., fun hi => ?_⟩
    have ⟨_, _, hw⟩ := Store.File.wrote_of_put h
    have hc : Server.detect config files' d start stop = Server.detect config files d start stop :=
      detect_congr fun index hm => hw.indexLines (hi index hm)
    have he : Finding.ofDetector config files d start stop =
        Finding.ofDetector config files' d start stop := by
      simp only [Finding.ofDetector, hc]
    rw [he]
    exact Finding.samePreview_stamp ..
  case puts =>
    exact congrArg Prod.fst (Store.File.put_of_takes hi.valid he hn
      (hh.takes hi.plain_draft hdf) (hh.takes hi.plain_target htf))

theorem not_mentions_sums {indices : List String} (n : Json.Number) :
    ¬(sums indices).Mentions n := by
  rintro (⟨_, hj, _⟩ | ⟨f, hf, hq⟩)
  case inl => cases hj
  case inr =>
    -- There is nothing but objects around a string.
    cases List.mem_singleton.mp hf
    cases hq with | member hm hq =>
    cases List.mem_singleton.mp hm
    cases hq with | member hm hq =>
    cases List.mem_singleton.mp hm
    cases hq with | member hm hq =>
    cases List.mem_singleton.mp hm
    cases hq

-- Two minutes of 1970, with or without a detector.
def twoMinutes (d : Option Detector) : Octets :=
  Text.encode (Json.object <| (d.map fun d => ("detector", d.toJson)).toList ++
    [("period_start", .natural 0), ("period_end", .natural 120000)]).compact

-- The same two minutes with and without an id.
theorem routes_twoMinutes :
    let byId : Execution.Input := ⟨some "a", none, some (.ofParts 0 0 0), some (.ofParts 0 120 0)⟩
    Execution.Route.ofPath? "/d/preview".toList = some .preview ∧
    Execution.Route.ofPath? "/d/a/preview".toList = some .preview ∧
    Execution.Input.ofBody (twoMinutes none) (some "a") = .ok byId ∧
    byId.givenId? = some "a" := by
  intro byId
  exact ⟨by decide +kernel, by decide +kernel, Outcome.eq_ok_of_toOption (by decide +kernel),
    by decide +kernel⟩

theorem inline_agrees_stored_one_row :
    let config : Config := .ofProfile [] ""
    let settings : Settings := ⟨true, 5, 0⟩
    let d : Detector := sums ["m"]
    let put := Store.File.put oneRow config.detectorsDir "a" d
    let start : Instant := .ofParts 0 0 0
    let stop : Instant := .ofParts 0 120 0
    let answer (pathId : Option String) (path : String) (body : Octets) (files : FileSystem) :
        Http.Response :=
      ((dispatch (Server.collaborators config) settings pathId path.toList body).run files).1
    Execution.Input.ofBody (twoMinutes (some d)) none =
      .ok ⟨none, some d, some start, some stop⟩ ∧ d.problem? settings.maxFeatures = none ∧
    Execution.Input.ofBody (twoMinutes none) (some "a") =
      .ok ⟨some "a", none, some start, some stop⟩ ∧
    put.1 = .ok 1 ∧
    (∀ index ∈ d.indices,
      Steady oneRow config.detectorsDir "a" (Extract.indexPath config.seriesDir index)) ∧
    SamePreview (answer none "/d/preview" (twoMinutes (some d)) oneRow)
      (answer (some "a") "/d/a/preview" (twoMinutes none) put.2) := by
  intro config settings d put start stop answer
  have hb : Execution.Input.ofBody (twoMinutes (some d)) none =
      .ok ⟨none, some d, some start, some stop⟩ := Outcome.eq_ok_of_toOption (by decide +kernel)
  have ⟨hr, hr', hb', hg⟩ := routes_twoMinutes
  have hp : d.problem? settings.maxFeatures = none := by decide +kernel
  have hv : put.1 = .ok 1 := Outcome.eq_ok_of_toOption (by decide +kernel)
  have hs : ∀ index ∈ d.indices,
      Steady oneRow config.detectorsDir "a" (Extract.indexPath config.seriesDir index) := by
    decide +kernel
  have hf (x : Float) (h : d.Mentions (.float x)) : (Json.Number.float x).ReadsBack :=
    absurd h (not_mentions_sums _)
  exact ⟨hb, hp, hb', hv, hs, ((inline_agrees_stored hr hb rfl hp rfl (by decide)
    hr' hb' rfl hg rfl hf).left 1 put.2 (Prod.ext hv rfl)).right hs⟩

-- The root may be written with so many slashes that the path leaves room for the directory of the
-- store, but not for its files.
theorem full_below_slashes {n : Nat} (files : FileSystem) (d : Detector) (h : n ≠ 0)
    (hl : n + 10 ≤ Files.pathLimit) (hs : Files.pathLimit < n + 15) :
    let dir := Files.join (String.ofList (List.replicate n '/')) "detectors"
    files.locate dir = .ok ["detectors"] ∧
    Store.File.put files dir "a" d = (.error (.file .nameTooLong), files) ∧
    Store.File.get files dir "a" = .error (.file .nameTooLong) := by
  intro dir
  have ha : IsFileId "a" := ⟨by decide +kernel, by decide⟩
  have hn : Files.Plain "detectors" :=
    ⟨by decide, by decide, by decide, by decide, by decide, by decide⟩
  have hb : n + 9 ≤ dir.utf8ByteSize := by
    have hd : String.ofList (List.replicate n '/') ≠ "" := by simp [h]
    have hb := Files.le_size_join hd hn
    rw [Files.utf8ByteSize_replicate] at hb
    exact (Nat.mul_one n) ▸ hb
  have hd : dir ≠ "" := by
    intro hd
    rw [hd] at hb
    cases hb
  have hz : '\x00' ∉ dir.toList := Files.zero_notMem_join (by simp) hn.zero
  have hl' : Files.pathLimit < dir.utf8ByteSize + ("a" ++ ".json").utf8ByteSize :=
    Nat.lt_of_lt_of_le hs (Nat.add_le_add_right hb 6)
  refine ⟨FileSystem.locate_join_slashes files h hn hl, Store.File.put_of_long hd hz ha hl', ?_⟩
  rw [Store.File.get, if_pos ha.valid, Store.File.envelope?_of_long hd hz ha hl']
  rfl

-- A detector can be previewed inline there, and neither be stored nor be previewed by its id.
theorem inline_disagrees_stored_without_room :
    let dir : String := String.ofList (List.replicate 4081 '/')
    let config : Config := { Config.ofProfile [] "" with dataDir := dir }
    let settings : Settings := ⟨true, 5, 0⟩
    let d : Detector := sums []
    let files : FileSystem := ⟨[(["detectors"], .directory)], []⟩
    let start : Instant := .ofParts 0 0 0
    let stop : Instant := .ofParts 0 120 0
    let answer (pathId : Option String) (path : String) (body : Octets) : Http.Response :=
      ((dispatch (Server.collaborators config) settings pathId path.toList body).run files).1
    let inline := answer none "/d/preview" (twoMinutes (some d))
    let stored := answer (some "a") "/d/a/preview" (twoMinutes none)
    files.locate config.detectorsDir = .ok ["detectors"] ∧
    Execution.Input.ofBody (twoMinutes (some d)) none =
      .ok ⟨none, some d, some start, some stop⟩ ∧ d.problem? settings.maxFeatures = none ∧
    Execution.Input.ofBody (twoMinutes none) (some "a") =
      .ok ⟨some "a", none, some start, some stop⟩ ∧ IsFileId "a" ∧
    Store.File.put files config.detectorsDir "a" d = (.error (.file .nameTooLong), files) ∧
    inline.status = 200 ∧ stored.status = 500 ∧ ¬SamePreview inline stored := by
  intro dir
  have full (files : FileSystem) (d : Detector) :
      files.locate (Files.join dir "detectors") = .ok ["detectors"] ∧
      Store.File.put files (Files.join dir "detectors") "a" d =
        (.error (.file .nameTooLong), files) ∧
      Store.File.get files (Files.join dir "detectors") "a" = .error (.file .nameTooLong) :=
    full_below_slashes files d (by decide) (by decide) (by decide)
  -- That is all that matters of the directory.
  clear_value dir
  intro config settings d files start stop answer inline stored
  have ⟨hl, hw, hf⟩ := full files d
  have hb : Execution.Input.ofBody (twoMinutes (some d)) none =
      .ok ⟨none, some d, some start, some stop⟩ := Outcome.eq_ok_of_toOption (by decide +kernel)
  have ⟨hr, hr', hb', hg⟩ := routes_twoMinutes
  have hp : d.problem? settings.maxFeatures = none := by decide +kernel
  have hi : inline.status = 200 := by
    -- Without an index it is all the same where the series are.
    have hd : Server.detect config files d start stop =
        Server.detect (.ofProfile [] "") files d start stop := by
      refine execute_eq fun _ b _ _ => ?_
      have hn : d.indices = [] := rfl
      simp only [extract, hn, List.mapM_nil]
    have ho : Finding.ofDetector config files d start stop =
        Finding.ofDetector (.ofProfile [] "") files d start stop := by
      simp only [Finding.ofDetector, hd]
    have hx : (dispatch (Server.collaborators config) settings none "/d/preview".toList
        (twoMinutes (some d))).run files =
          ((Finding.ofDetector config files d start stop).preview "a", files) :=
      dispatch_inline hr hb rfl hp rfl (by decide) "a"
    simp only [inline, answer, hx, ho]
    decide +kernel
  have hs : stored.status = 500 := by
    have ho : Finding.ofServer config files "a" start stop = .unreadable (.file .nameTooLong) := by
      have hc : Store.File.get files config.detectorsDir "a" = _ := hf
      rw [Finding.ofServer, hc]
    have hx : (dispatch (Server.collaborators config) settings (some "a") "/d/a/preview".toList
        (twoMinutes none)).run files =
          ((Finding.ofServer config files "a" start stop).preview "a", files) :=
      dispatch_preview hb' rfl (by decide) hg hr' rfl
    simp only [stored, answer, hx, ho]
    rfl
  refine ⟨hl, hb, hp, hb', ⟨by decide +kernel, by decide⟩, hw, hi, hs, fun h => ?_⟩
  have he := h.status
  rw [hi, hs] at he
  cases he

end AnomalyDetection.Service

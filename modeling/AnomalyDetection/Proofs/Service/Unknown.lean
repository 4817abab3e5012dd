import AnomalyDetection.Proofs.Execution.Input
import AnomalyDetection.Proofs.Store.Absent
import AnomalyDetection.Service.Server

namespace AnomalyDetection.Service

open Files (Place TooLong)
open Store (Visit isValidId)
open Store.File (Handle idsPut)

variable {config : Config} {files : FileSystem} {handle : Handle} {p : Place} {id : String}
  {past : List Visit}

-- An id that would do but for its length: there can be no file for it.
def Oversized (config : Config) (id : String) : Prop :=
  isValidId id ∧ TooLong config.detectorsDir (id ++ ".json")

-- What comes back about an id from the store, from the look for its detector, and from any preview
-- that needs that detector. Nothing is written meanwhile.
structure Answered (config : Config) (files : FileSystem) (id : String)
    (answer : Except Store.Fault Store.Answer) (refusal : Refusal) (response : Http.Response) :
    Prop where
  get : Store.File.get files config.detectorsDir id = answer
  resolve : (Service.resolve (Server.collaborators config).lookup id).run files =
    (.error refusal, files)
  preview : ∀ (settings : Settings) (pathId : Option String) (path : List Char) (body : Octets)
    (input : Execution.Input) (start stop : Instant),
    Execution.Route.ofPath? path = some .preview →
    Execution.Input.ofBody body pathId = .ok input → input.detector = none →
    input.givenId? = some id → input.window? = some (start, stop) → start < stop →
    (dispatch (Server.collaborators config) settings pathId path body).run files =
      (response, files)

-- The look for a detector comes to what is made of the answer of the store.
theorem run_resolve {answer : Except Store.Fault Store.Answer}
    (h : Store.File.get files config.detectorsDir id = answer) :
    (resolve (Server.collaborators config).lookup id).run files =
      (Id.run (resolve (fun _ _ => answer) id), files) := by
  simp only [resolve, Server.collaborators, Collaborators.around, StateT.run, bind, StateT.bind, h]
  cases answer
  case error => rfl
  case ok answer =>
    dsimp only
    cases answer.document? <;> rfl

-- A preview that needs a detector passes on why there is none.
theorem answered_of_refused {answer : Except Store.Fault Store.Answer} {refusal : Refusal}
    (hg : Store.File.get files config.detectorsDir id = answer)
    (hr : Id.run (resolve (fun _ _ => answer) id) = .error refusal) :
    Answered config files id answer refusal refusal.response where
  get := hg
  resolve := hr ▸ run_resolve hg
  preview settings pathId path body input start stop hp hb hd hi hw hl := by
    simp only [dispatch, hp, hb, Execution.Input.plan_preview hw hl, hi,
      Execution.Input.takeDetector, hd, StateT.run_bind, run_resolve hg, hr]
    rfl

-- A directory without a file for an id, and an id under which nothing is put into it. Whatever
-- characters the id has, it is not found, unless it is valid and too long.
theorem unknown_ids_are_not_found (ha : handle.files.Admits config.detectorsDir p)
    (he : handle.files.entry? (p ++ [id ++ ".json"]) = none)
    (hn : id ∉ idsPut config.detectorsDir handle past) :
    let now := (Store.after (Store.File.visit config.detectorsDir) handle past).files
    (¬Oversized config id → Answered config now id (.ok .missing) (.unknownDetector id)
      (.error 404 ("Can't find anomaly detector with id:" ++ id))) ∧
    (Oversized config id →
      Answered config now id (.error (.file .nameTooLong)) (.store (.file .nameTooLong))
        (.error 500 "I/O error: File name too long (os error 36)")) := by
  intro now
  have hg : Store.File.get now config.detectorsDir id = _ :=
    (Store.File.Lacks.after ⟨ha, he⟩ hn).get
  exact ⟨fun ho => answered_of_refused (hg.trans (if_neg ho)) rfl,
    fun ho => answered_of_refused (hg.trans (if_pos ho)) rfl⟩

-- The first minute of 1970, for a detector that has never been stored, and for another one whose id
-- has one character more than there may be in the name of a file.
theorem unknown_ids_are_not_found_too_long :
    let config : Config := .ofProfile [] ""
    let files : FileSystem :=
      ⟨[(["data"], .directory), (["data", "detectors"], .directory)], []⟩
    let long := String.ofList (List.replicate 251 'a')
    let past : List Visit := [⟨true, .put "a" .blank⟩, ⟨false, .get "x"⟩]
    let handle : Handle := ⟨files, false⟩
    let now := (Store.after (Store.File.visit config.detectorsDir) handle past).files
    let body := Text.octets "\x7b\"period_start\":0,\"period_end\":60000\x7d"
    let answer (id : String) : Http.Response × FileSystem :=
      (dispatch (Server.collaborators config) ⟨true, 5, 0⟩ (some id) "/preview".toList body).run now
    files.Admits config.detectorsDir ["data", "detectors"] ∧
    (∀ id ∈ ["x", long], files.entry? (["data", "detectors"] ++ [id ++ ".json"]) = none ∧
      id ∉ idsPut config.detectorsDir handle past) ∧
    ¬Oversized config "x" ∧
    answer "x" = (.error 404 "Can't find anomaly detector with id:x", now) ∧
    Oversized config long ∧
    answer long = (.error 500 "I/O error: File name too long (os error 36)", now) := by
  intro config files long past handle now body answer
  have ha : files.Admits config.detectorsDir ["data", "detectors"] :=
    ⟨Outcome.eq_ok_of_toOption (by decide +kernel), by decide +kernel⟩
  have he (name : String) : files.entry? (["data", "detectors"] ++ [name]) = none := by
    simp [files, FileSystem.entry?, List.lookup_cons]
  have hn {id : String} (h : id ≠ "a") : id ∉ idsPut config.detectorsDir handle past := by
    intro hm
    obtain ⟨_, _, hm⟩ := Store.File.mem_idsPut hm
    simp [past, h] at hm
  have hx : "x" ≠ "a" := by decide
  have hl : long ≠ "a" := by
    intro h
    have hs : long.utf8ByteSize = 251 := Files.utf8ByteSize_replicate 'a' 251
    rw [h] at hs
    cases hs
  have hox : ¬Oversized config "x" := fun h => absurd h.right (by decide +kernel)
  have hol : Oversized config long := by
    refine ⟨Store.isValidId_replicate (by decide), .inl ?_⟩
    rw [String.utf8ByteSize_append, Files.utf8ByteSize_replicate]
    decide
  have hd : Execution.Input.shape.ofDocument body =
      .ok ⟨none, none, some (.ofParts 0 0 0), some (.ofParts 0 60 0)⟩ :=
    Outcome.eq_ok_of_toOption (by decide +kernel)
  have hb (id : String) : Execution.Input.ofBody body (some id) =
      .ok ⟨some id, none, some (.ofParts 0 0 0), some (.ofParts 0 60 0)⟩ := by
    rw [Execution.Input.ofBody, hd]
    rfl
  have hr : Execution.Route.ofPath? "/preview".toList = some .preview := by decide +kernel
  have answered {id : String} {given : Except Store.Fault Store.Answer} {refusal : Refusal}
      {response : Http.Response} (h : Answered config now id given refusal response)
      (hi : Text.allBlank id.toList = false) : answer id = (response, now) :=
    h.preview _ (some id) _ body _ _ _ hr (hb id) rfl
      (Execution.Input.givenId?_eq_of_path (hb id) hi) rfl (by decide)
  refine ⟨ha, ?unknown, hox, ?short, hol, ?long⟩
  case unknown =>
    exact List.forall_mem_cons.mpr ⟨⟨he _, hn hx⟩, List.forall_mem_singleton.mpr ⟨he _, hn hl⟩⟩
  case short =>
    exact answered ((unknown_ids_are_not_found ha (he _) (hn hx)).1 hox) (by decide +kernel)
  case long =>
    exact answered ((unknown_ids_are_not_found ha (he _) (hn hl)).2 hol) (by decide +kernel)

end AnomalyDetection.Service

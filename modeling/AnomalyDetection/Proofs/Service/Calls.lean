import AnomalyDetection.Proofs.Execution.Input
import AnomalyDetection.Service.Dispatch

namespace AnomalyDetection

theorem Detector.ofDocument_stamped {source : Octets} {id : String} {version : Option UInt64}
    {d : Detector} (h : ofDocument source id version = .ok d) :
    d.id = some id ∧ d.version = version := by
  unfold ofDocument at h
  cases hs : Detector.shape.ofDocument source <;> rw [hs] at h <;> cases h
  exact ⟨rfl, rfl⟩

namespace Service

open Execution.Input (plan_run plan_preview plan_of_noWindow givenId?_of_path)

variable {m : Type → Type} [Monad m]

inductive Call
  | lookup (authority : Store.Authority) (id : String)
  | detect (d : Detector) (start stop : Instant)
  | act (r : Action.Request)

-- Collaborators that note each call before they answer as they would have answered anyway.
def Collaborators.noted (c : Collaborators m) : Collaborators (StateT (List Call) m) where
  lookup authority id := do modify (· ++ [.lookup authority id]); c.lookup authority id
  detect d start stop := do modify (· ++ [.detect d start stop]); c.detect d start stop
  act r := do modify (· ++ [.act r]); c.act r

-- The answer to a request together with the calls up to then.
abbrev Conversation (m : Type → Type) := List Call → m (Http.Response × List Call)

def conversation (c : Collaborators m) (settings : Settings) (id : Option String)
    (path : List Char) (body : Octets) : Conversation m :=
  (dispatch c.noted settings id path body).run

def Conversation.Refuses (t : Conversation m) (status : Nat) : Prop :=
  ∃ r : Http.Response, r.status = status ∧ ∀ calls, t calls = pure (r, calls)

-- The answer of a preview to what the engine says.
def detected (d : Detector) :
    Except Engine.Fault (List (AnomalyResult Float)) → Http.Response
  | .ok results =>
    previewResponse (some d.toJson) (some (.array (results.map AnomalyResult.toJson)))
  | .error _ => previewResponse (some d.toJson) none

-- One call to the engine.
def Conversation.previewed (c : Collaborators m) (d : Detector) (start stop : Instant) :
    Conversation m := fun calls => do
  let outcome ← c.detect d start stop
  return (detected d outcome, calls ++ [.detect d start stop])

-- One call to the store, and one to the engine if that brought a detector.
def Conversation.resolved (c : Collaborators m) (id : String) (start stop : Instant) :
    Conversation m := fun calls => do
  let calls := calls ++ [.lookup .system id]
  match ← c.lookup .system id with
  | .error e => return ((Refusal.store e).response, calls)
  | .ok answer =>
    match answer.document? with
    | none => return ((Refusal.unknownDetector id).response, calls)
    | some source =>
      match Detector.ofDocument source id answer.version with
      | .error e => return ((Refusal.corruptDetector e).response, calls)
      | .ok d => previewed c d start stop calls

-- What a preview of an inline detector or else of a given id leads to.
def Conversation.ofPreview (c : Collaborators m) (settings : Settings) (start stop : Instant) :
    Option Detector → Option String → Conversation m
  | some d, _ =>
    match d.problem? settings.maxFeatures with
    | some p => fun calls => pure ((Refusal.invalidDetector p).response, calls)
    | none => previewed c d start stop
  | none, none => fun calls => pure (Refusal.noDetectorId.response, calls)
  | none, some given => resolved c given start stop

-- One call to the result action, whose answer is the answer.
def Conversation.acted (c : Collaborators m) (r : Action.Request) : Conversation m :=
  fun calls => do
    let answer ← c.act r
    return (actionResponse answer, calls ++ [.act r])

open Conversation in
-- What a request on a route may lead to, case by case.
structure Conversation.Exact (c : Collaborators m) (settings : Settings) (route : Execution.Route)
    (id : Option String) (path : List Char) (body : Octets) (t : Conversation m) : Prop where
  answer : ∀ calls, Prod.fst <$> t calls = dispatch c settings id path body
  unreadable : ∀ e, Execution.Input.ofBody body id = .error e → t.Refuses 400
  noWindow : ∀ input, Execution.Input.ofBody body id = .ok input →
    (∀ start stop, input.window? = some (start, stop) → ¬start < stop) → t.Refuses 400
  blankRun : ∀ input, Execution.Input.ofBody body id = .ok input →
    route = .run → input.givenId? = none → t.Refuses 400
  run : ∀ input given start stop, Execution.Input.ofBody body id = .ok input →
    input.window? = some (start, stop) → start < stop →
    route = .run → input.givenId? = some given →
    t = acted c ⟨given, start.epochMillis, stop.epochMillis⟩
  badInline : ∀ input d p, Execution.Input.ofBody body id = .ok input →
    route = .preview → input.detector = some d → d.problem? settings.maxFeatures = some p →
    t.Refuses 400
  inline : ∀ input d start stop, Execution.Input.ofBody body id = .ok input →
    input.window? = some (start, stop) → start < stop →
    route = .preview → input.detector = some d → d.problem? settings.maxFeatures = none →
    t = previewed c d start stop
  noId : ∀ input start stop, Execution.Input.ofBody body id = .ok input →
    input.window? = some (start, stop) → start < stop →
    route = .preview → input.detector = none → input.givenId? = none → t.Refuses 404
  stored : ∀ input given start stop, Execution.Input.ofBody body id = .ok input →
    input.window? = some (start, stop) → start < stop →
    route = .preview → input.detector = none → input.givenId? = some given →
    t = resolved c given start stop
  supplied : ∀ input given outer, Execution.Input.ofBody body id = .ok input →
    input.givenId? = some given → id = some outer → given = outer
  stamped : ∀ source given version d, Detector.ofDocument source given version = .ok d →
    d.id = some given ∧ d.version = version

variable [LawfulMonad m]

theorem run_noted_lookup (c : Collaborators m) (authority : Store.Authority) (id : String)
    (calls : List Call) :
    (c.noted.lookup authority id).run calls =
      (·, calls ++ [.lookup authority id]) <$> c.lookup authority id := by
  simp [Collaborators.noted]

theorem run_noted_detect (c : Collaborators m) (d : Detector) (start stop : Instant)
    (calls : List Call) :
    (c.noted.detect d start stop).run calls =
      (·, calls ++ [.detect d start stop]) <$> c.detect d start stop := by
  simp [Collaborators.noted]

theorem run_noted_act (c : Collaborators m) (r : Action.Request) (calls : List Call) :
    (c.noted.act r).run calls = (·, calls ++ [.act r]) <$> c.act r := by
  simp [Collaborators.noted]

theorem run_noted_preview (c : Collaborators m) (d : Detector) (start stop : Instant) :
    (preview c.noted d start stop).run = Conversation.previewed c d start stop := by
  funext calls
  simp only [preview, Conversation.previewed, StateT.run_bind, run_noted_detect, bind_map_left]
  congr
  funext outcome
  cases outcome <;> rfl

theorem resolve_noted (c : Collaborators m) (id : String) (start stop : Instant) :
    (fun calls => (resolve c.noted.lookup id).run calls >>= fun
      | (.error e, calls) => pure (e.response, calls)
      | (.ok d, calls) => Conversation.previewed c d start stop calls) =
    Conversation.resolved c id start stop := by
  funext calls
  simp only [resolve, Conversation.resolved, StateT.run_bind, run_noted_lookup, bind_map_left,
    bind_assoc]
  congr
  funext answer
  cases answer
  case error e => simp
  case ok answer =>
    dsimp only
    cases answer.document?
    case none => simp
    case some source =>
      cases hd : Detector.ofDocument source id answer.version <;> simp [Except.mapError, hd]

section

variable {c : Collaborators m} {settings : Settings} {route : Execution.Route} {id : Option String}
  {path : List Char} {body : Octets} {input : Execution.Input}

omit [LawfulMonad m] in
theorem conversation_of_plan_error (hr : Execution.Route.ofPath? path = some route)
    (hb : Execution.Input.ofBody body id = .ok input) {problem : Execution.InputProblem}
    (hp : input.plan route = .error problem) :
    (conversation c settings id path body).Refuses 400 :=
  ⟨(Refusal.invalidInput problem).response, rfl, fun calls => by
    simp [conversation, dispatch, hr, hb, hp]⟩

theorem conversation_of_plan_run (hr : Execution.Route.ofPath? path = some route)
    (hb : Execution.Input.ofBody body id = .ok input) {given : String} {start stop : Instant}
    (hp : input.plan route = .ok (.run given start stop)) :
    conversation c settings id path body =
      Conversation.acted c ⟨given, start.epochMillis, stop.epochMillis⟩ := by
  funext calls
  simp [conversation, dispatch, hr, hb, hp, run_noted_act, Conversation.acted]

theorem conversation_of_plan_preview (hr : Execution.Route.ofPath? path = some route)
    (hb : Execution.Input.ofBody body id = .ok input) {given : Option String}
    {start stop : Instant} (hp : input.plan route = .ok (.preview given start stop)) :
    conversation c settings id path body =
      Conversation.ofPreview c settings start stop input.detector given := by
  funext calls
  simp only [conversation, dispatch, hr, hb, hp, Execution.Input.takeDetector]
  cases input.detector
  case some d => cases hp : d.problem? settings.maxFeatures <;>
    simp [hp, Conversation.ofPreview, run_noted_preview]
  case none =>
    cases given
    case none => simp [Conversation.ofPreview]
    case some given =>
      simp only [Conversation.ofPreview, ← resolve_noted, StateT.run_bind]
      congr
      funext ⟨outcome, calls⟩
      cases outcome <;> simp [run_noted_preview]

theorem fst_previewed (c : Collaborators m) (d : Detector) (start stop : Instant)
    (calls : List Call) :
    Prod.fst <$> Conversation.previewed c d start stop calls = preview c d start stop := by
  simp only [Conversation.previewed, preview, map_bind, map_pure]
  congr
  funext outcome
  cases outcome <;> rfl

theorem fst_resolved (c : Collaborators m) (id : String) (start stop : Instant)
    (calls : List Call) :
    Prod.fst <$> Conversation.resolved c id start stop calls =
      resolve c.lookup id >>= fun
        | .error e => pure e.response
        | .ok d => preview c d start stop := by
  simp only [Conversation.resolved, resolve, map_bind, bind_assoc]
  congr
  funext answer
  cases answer
  case error e => simp
  case ok answer =>
    dsimp only
    cases answer.document?
    case none => simp
    case some source =>
      cases hd : Detector.ofDocument source id answer.version <;>
        simp [Except.mapError, hd, fst_previewed]

-- Noting the calls changes no answer.
theorem fst_conversation (calls : List Call) :
    Prod.fst <$> conversation c settings id path body calls =
      dispatch c settings id path body := by
  cases hr : Execution.Route.ofPath? path
  case none => simp [conversation, dispatch, hr]
  case some route =>
  cases hb : Execution.Input.ofBody body id
  case error e => simp [conversation, dispatch, hr, hb]
  case ok input =>
  cases hp : input.plan route
  case error e => simp [conversation, dispatch, hr, hb, hp]
  case ok plan =>
  cases plan
  case run => simp [conversation, dispatch, hr, hb, hp, run_noted_act]
  case preview given start stop =>
    rw [conversation_of_plan_preview hr hb hp]
    simp only [dispatch, hr, hb, hp, Execution.Input.takeDetector]
    cases input.detector
    case some d => cases hp : d.problem? settings.maxFeatures <;>
      simp [hp, Conversation.ofPreview, fst_previewed]
    case none =>
      cases given
      case none => simp [Conversation.ofPreview]
      case some given =>
        simp only [Conversation.ofPreview]
        exact fst_resolved ..

end

end Service
end AnomalyDetection

import AnomalyDetection.Proofs.Service.Calls
import AnomalyDetection.Proofs.Text.Blank
import AnomalyDetection.Proofs.Time.Floored
import AnomalyDetection.Store.File
import AnomalyDetection.Store.Memory

namespace AnomalyDetection

namespace Action.Fault

-- Whether the window of a request is the reason why it is refused.
def BlamesWindow : Fault → Prop
  | badTimestamp _ => True
  | emptyWindow => True
  | _ => False

end Action.Fault

theorem Store.isBlank_of_isIdChar {c : Char} (h : isIdChar c) : Text.isBlank c = false := by
  -- No blank lies between the dash and the last letter.
  have hn : 45 ≤ c.toNat ∧ c.toNat ≤ 122 := by
    simp only [isIdChar, Bool.or_eq_true, beq_iff_eq] at h
    rcases h with ((h | rfl) | rfl) | rfl
    case inr => decide
    case inl.inr => decide
    case inl.inl.inr => decide
    case inl.inl.inl =>
      change (decide (65 ≤ c.val ∧ c.val ≤ 90) || (decide (97 ≤ c.val) && decide (c.val ≤ 122)) ||
        (decide (48 ≤ c.val) && decide (c.val ≤ 57))) = true at h
      simp only [Bool.or_eq_true, Bool.and_eq_true, decide_eq_true_eq, UInt32.le_iff_toNat_le] at h
      rcases h with (⟨hl, hu⟩ | ⟨hl, hu⟩) | ⟨hl, hu⟩
      all_goals exact ⟨Nat.le_trans (by decide) hl, Nat.le_trans hu (by decide)⟩
  simp [Text.isBlank]
  omega

namespace Service

section

variable (ask : String → Except Store.Fault Store.Answer)
  (find : Detector → Instant → Instant → Except Engine.Fault (List (AnomalyResult Float)))

-- A store and an engine, with the result action between them, all calls of which are overheard.
def overheard : Collaborators (StateM (List Call)) :=
  .around (fun authority id calls => (ask id, calls ++ [.lookup authority id]))
    (fun d start stop calls => (find d start stop, calls ++ [.detect d start stop]))

-- The stored detector that is handed over for an id.
def handed? (id : String) : Option Detector :=
  match ask id with
  | .error _ => none
  | .ok answer => answer.document?.bind fun source =>
    (Detector.ofDocument source id answer.version).toOption

-- The calls that a lookup leads to: there is one to the engine if it brings a detector.
def callsFor (id : String) (start stop : Instant) : List Call :=
  .lookup .system id :: ((handed? ask id).map fun d => .detect d start stop).toList

end

variable {ask : String → Except Store.Fault Store.Answer}
  {find : Detector → Instant → Instant → Except Engine.Fault (List (AnomalyResult Float))}
  {id key : String} {start stop : Instant} {d : Detector} {r : Action.Request}

theorem id_of_handed? (h : handed? ask id = some d) : d.id = some id := by
  unfold handed? at h
  split at h
  case h_1 => cases h
  case h_2 =>
    have ⟨source, _, h⟩ := Option.bind_eq_some_iff.mp h
    exact (Detector.ofDocument_stamped (Outcome.eq_ok_of_toOption h)).left

variable (ask find) in
-- Once a request is checked, nothing is said about its window any more.
theorem run_act (hc : r.check = .ok (key, start, stop)) : ∃ answer,
    ((overheard ask find).act r).run [] = (answer, callsFor ask key start stop) ∧
    ∀ e, answer = .error e → ¬e.BlamesWindow := by
  simp only [overheard, Collaborators.around, Action.run, hc, callsFor, handed?, StateT.run, bind,
    StateT.bind]
  cases ask key
  case error e => exact ⟨.error (.store e), rfl, by simp [Action.Fault.BlamesWindow]⟩
  case ok answer =>
  dsimp only
  cases answer.document?
  case none => exact ⟨.error (.unknownDetector key), rfl, by simp [Action.Fault.BlamesWindow]⟩
  case some source =>
  dsimp only [Option.bind_some]
  cases Detector.ofDocument source key answer.version
  case error e => exact ⟨.error (.corruptDetector e), rfl, by simp [Action.Fault.BlamesWindow]⟩
  case ok d =>
  dsimp only [StateT.bind]
  cases find d start stop
  case error e => exact ⟨.error (.engine e), rfl, by simp [Action.Fault.BlamesWindow]⟩
  case ok => exact ⟨_, rfl, fun e he => by cases he⟩

theorem run_act_of_refused {e : Action.Fault} (hc : r.check = .error e) :
    ((overheard ask find).act r).run [] = (.error e, []) := by
  simp only [overheard, Collaborators.around, Action.run, hc]
  rfl

-- The request that a run makes of its window.
def requestOf (id : String) (start stop : Instant) : Action.Request :=
  ⟨id, start.epochMillis, stop.epochMillis⟩

-- What the result action says about an instant whose milliseconds count up to none.
def outOfRange (t : Instant) : Action.Fault :=
  .badTimestamp ⟨String.ofList (Decimal.integer t.epochMillis)⟩

-- The id that the result action makes of another one.
def trimmed (id : String) : String := String.ofList (Text.trim id.toList)

section

variable (hi : Text.allBlank id.toList = false)

include hi

theorem check_requestOf (hs : start.InRange) (he : stop.floored.InRange)
    (hl : start.epochMillis < stop.epochMillis) :
    (requestOf id start stop).check = .ok (trimmed id, start.floored, stop.floored) := by
  have hs := Instant.inRange_floored_of_le hs he (Int.le_of_lt hl)
  simp only [requestOf, Action.Request.check, Text.trim_ne_nil hi, if_false,
    Instant.ofMillis_epochMillis_floored, hs, he, if_true, Except.mapError, bind, Except.bind,
    Instant.floored_lt_iff.mpr hl]
  rfl

theorem check_requestOf_of_empty (hs : start.floored.InRange) (he : stop.floored.InRange)
    (hl : ¬start.epochMillis < stop.epochMillis) :
    (requestOf id start stop).check = .error .emptyWindow := by
  simp only [requestOf, Action.Request.check, Text.trim_ne_nil hi, if_false,
    Instant.ofMillis_epochMillis_floored, hs, he, if_true, Except.mapError, bind, Except.bind,
    mt Instant.floored_lt_iff.mp hl]
  rfl

theorem check_requestOf_of_outOfRange (he : ¬stop.floored.InRange) :
    (requestOf id start stop).check =
      .error (outOfRange (if start.floored.InRange then stop else start)) := by
  simp only [requestOf, Action.Request.check, Text.trim_ne_nil hi, if_false,
    Instant.ofMillis_epochMillis_floored, he]
  split
  case isTrue => rfl
  case isFalse => rfl

end

-- A directory has only ids without blanks.

theorem isValidId_of_handed? {fs : FileSystem} {dir : String}
    (h : handed? (Store.File.get fs dir) id = some d) : Store.isValidId id := by
  by_contra hv
  rw [handed?, Store.File.get, if_neg hv] at h
  cases h

theorem trimmed_of_isValidId (h : Store.isValidId id) : trimmed id = id := by
  have hb : ∀ c ∈ id.toList, Text.isBlank c = false := by
    simp only [Store.isValidId, Bool.and_eq_true, List.all_eq_true] at h
    exact fun c hc => Store.isBlank_of_isIdChar (h.right c hc)
  rw [trimmed, Text.trim_of_forall hb, String.ofList_toList]

theorem run_preview {pathId : Option String} {path : List Char} {body : Octets}
    {input : Execution.Input} {settings : Settings}
    (hr : Execution.Route.ofPath? path = some .preview)
    (hb : Execution.Input.ofBody body pathId = .ok input) (hd : input.detector = none)
    (hw : input.window? = some (start, stop)) (hl : start < stop) (hg : input.givenId? = some id) :
    ((dispatch (overheard ask find) settings pathId path body).run []).2 =
      callsFor ask id start stop := by
  simp only [dispatch, hr, hb, Execution.Input.plan_preview hw hl, hg, Execution.Input.takeDetector,
    hd, resolve, preview, overheard, Collaborators.around, callsFor, handed?, StateT.run, bind,
    StateT.bind]
  cases ask id
  case error => rfl
  case ok answer =>
  dsimp only
  cases answer.document?
  case none => rfl
  case some source =>
  dsimp only [StateT.bind, Option.bind_some]
  cases Detector.ofDocument source id answer.version
  case error => rfl
  case ok d =>
  dsimp only [pure, StateT.pure, StateT.bind, Except.mapError]
  cases find d start stop <;> rfl

variable (ask find) in
-- A run hands on milliseconds. Of a window that is not empty in milliseconds the engine is given
-- just those, and they are the window itself if it has whole ones. Any other window that has been
-- accepted is refused after all, before the store is asked: it is empty, or an end of it is in the
-- leap second behind the very last second.
theorem run_executes_floored_window {input : Execution.Input}
    (hp : input.plan .run = .ok (.run id start stop)) (hs : start.InRange) (he : stop.InRange) :
    let c := overheard ask find
    let r := requestOf id start stop
    (∀ settings pathId path body, Execution.Route.ofPath? path = some .run →
      Execution.Input.ofBody body pathId = .ok input →
      dispatch c settings pathId path body = do return actionResponse (← c.act r)) ∧
    (start.epochMillis < stop.epochMillis ∧ stop.floored.InRange →
      ∃ answer, (c.act r).run [] = (answer, callsFor ask (trimmed id) start.floored stop.floored) ∧
        ∀ e, answer = .error e → ¬e.BlamesWindow) ∧
    (¬start.epochMillis < stop.epochMillis → stop.floored.InRange →
      (c.act r).run [] = (.error .emptyWindow, [])) ∧
    (¬stop.floored.InRange →
      (c.act r).run [] =
        (.error (outOfRange (if start.floored.InRange then stop else start)), [])) ∧
    (start.IsWholeMillis → stop.IsWholeMillis →
      start.epochMillis < stop.epochMillis ∧ stop.floored.InRange) ∧
    ∀ t ∈ [start, stop], (t.floored = t ↔ t.IsWholeMillis) ∧
      (t.floored.InRange ↔
        ¬(t.day = Instant.lastDay ∧ t.second = 86399 ∧ t.inLeapSecond)) := by
  intro c r
  have ⟨hg, _, hl⟩ := Execution.Input.of_plan_run hp
  have hi := Execution.Input.allBlank_of_givenId? hg
  refine ⟨fun settings pathId path body hr hb => ?dispatched,
    fun hm => run_act ask find (check_requestOf hi hs hm.right hm.left),
    fun hn hf => run_act_of_refused (check_requestOf_of_empty hi ?inRange hf hn),
    fun hf => run_act_of_refused (check_requestOf_of_outOfRange hi hf),
    fun hs' he' => ?whole, List.forall_mem_cons.mpr
      ⟨⟨Instant.floored_eq_iff, Instant.inRange_floored hs⟩,
        List.forall_mem_singleton.mpr ⟨Instant.floored_eq_iff, Instant.inRange_floored he⟩⟩⟩
  case dispatched => simp only [dispatch, hr, hb, hp]; rfl
  case inRange => exact Instant.inRange_floored_of_lt hs he hl hf
  case whole =>
    rw [← Instant.floored_lt_iff, Instant.floored_eq_iff.mpr hs', Instant.floored_eq_iff.mpr he']
    exact ⟨hl, he⟩

-- A minute that starts half a millisecond after midnight is executed from midnight on. The first
-- half of the leap second behind the very last second is not executed at all.
theorem run_executes_floored_window_half_millisecond :
    let start : Instant := .ofParts 0 0 500000
    let stop : Instant := .ofParts 0 60 500000
    let input : Execution.Input := ⟨some "x ", none, some start, some stop⟩
    let leap : Instant := ⟨Instant.lastDay, 86399, 1000000000, by decide, by decide⟩
    let middle : Instant := ⟨Instant.lastDay, 86399, 1500000000, by decide, by decide⟩
    let input' : Execution.Input := ⟨some "x", none, some leap, some middle⟩
    let d : Detector :=
      { Detector.blank with name := "n", timeField := "t", interval := ⟨1, .minutes⟩ }
    let ask : String → Except Store.Fault Store.Answer := fun _ =>
      .ok (.holding ⟨Text.encode d.toJson.compact, 1⟩)
    let c := overheard ask fun _ _ _ => .ok []
    input.plan .run = .ok (.run "x " start stop) ∧ start.InRange ∧ stop.InRange ∧
    (∃ answer, (c.act (requestOf "x " start stop)).run [] =
      (answer, [.lookup .system "x",
        .detect { d with id := some "x", version := some 1 }
          (.ofParts 0 0 0) (.ofParts 0 60 0)])) ∧
    input'.plan .run = .ok (.run "x" leap middle) ∧ leap.InRange ∧ middle.InRange ∧
    (c.act (requestOf "x" leap middle)).run [] =
      (.error (.badTimestamp ⟨"8210266876800000"⟩), []) := by
  intro start stop input leap middle input' d ask c
  have hp : input.plan .run = .ok (.run "x " start stop) := rfl
  have hs : start.InRange := by decide
  have he : stop.InRange := by decide
  have hp' : input'.plan .run = .ok (.run "x" leap middle) := rfl
  have hs' : leap.InRange := by decide
  have he' : middle.InRange := by decide
  have ht : trimmed "x " = "x" := by decide +kernel
  have hd : handed? ask "x" = some { d with id := some "x", version := some 1 } := by
    decide +kernel
  have hf : start.floored = .ofParts 0 0 0 := by decide
  have hf' : stop.floored = .ofParts 0 60 0 := by decide
  have ⟨_, hx, _⟩ := run_executes_floored_window ask (fun _ _ _ => .ok []) hp hs he
  have ⟨_, _, _, hy, _⟩ := run_executes_floored_window ask (fun _ _ _ => .ok []) hp' hs' he'
  have ⟨answer, ha, _⟩ := hx ⟨by decide, by decide⟩
  refine ⟨hp, hs, he, ⟨answer, ha.trans ?executed⟩, hp', hs', he', (hy (by decide)).trans ?refused⟩
  case executed =>
    simp only [callsFor, ht, hd, hf, hf']
    rfl
  case refused =>
    have hm : String.ofList (Decimal.integer leap.epochMillis) = "8210266876800000" := by
      decide +kernel
    rw [if_neg (by decide), outOfRange, hm]

-- A window of a tenth of a millisecond is accepted, and yet refused by the result action.
theorem run_refuses_accepted_window :
    let start : Instant := .ofParts 0 0 100000
    let stop : Instant := .ofParts 0 0 200000
    let input : Execution.Input := ⟨some "x", none, some start, some stop⟩
    let c := overheard (fun _ => .ok .missing) fun _ _ _ => .ok []
    input.plan .run = .ok (.run "x" start stop) ∧ start.InRange ∧ stop.InRange ∧
    (c.act (requestOf "x" start stop)).run [] = (.error .emptyWindow, []) := by
  intro start stop input c
  have hi : Text.allBlank "x".toList = false := by decide
  exact ⟨rfl, by decide, by decide,
    run_act_of_refused (check_requestOf_of_empty hi (by decide) (by decide) (by decide))⟩

section

variable {pathId : Option String} {runPath previewPath : List Char} {body : Octets}
  {input : Execution.Input} {settings : Settings}

variable (ask find settings) in
-- A run asks for the trimmed id, a preview for the id as it is, and the detector is stamped with
-- the one it was asked for. Both are the same detector if there is nothing to trim; in a directory
-- no preview finds any other.
theorem run_trims_what_preview_keeps (hr : Execution.Route.ofPath? runPath = some .run)
    (hp : Execution.Route.ofPath? previewPath = some .preview)
    (hb : Execution.Input.ofBody body pathId = .ok input) (hd : input.detector = none)
    (hg : input.givenId? = some id) (hw : input.window? = some (start, stop)) (hl : start < stop)
    (hm : start.epochMillis < stop.epochMillis) (he : stop.floored.InRange) :
    let calls (path : List Char) : List Call :=
      ((dispatch (overheard ask find) settings pathId path body).run []).2
    calls runPath = callsFor ask (trimmed id) start.floored stop.floored ∧
    calls previewPath = callsFor ask id start stop ∧
    (∀ d, handed? ask (trimmed id) = some d → d.id = some (trimmed id)) ∧
    (∀ d, handed? ask id = some d → d.id = some id) ∧
    (∀ fs dir d, ask = Store.File.get fs dir → handed? ask id = some d → trimmed id = id) := by
  intro calls
  have hs := ((Execution.Input.timely_of_ofBody hb).window? hw).left
  have hi := Execution.Input.allBlank_of_givenId? hg
  have ⟨answer, ha, _⟩ := run_act ask find (check_requestOf hi hs he hm)
  refine ⟨?run, run_preview hp hb hd hw hl hg, fun _ => id_of_handed?, fun _ => id_of_handed?,
    ?directory⟩
  case run =>
    simp only [calls, dispatch, hr, hb, Execution.Input.plan_run hg hw hl]
    exact congrArg Prod.snd ha
  case directory =>
    rintro fs dir d rfl hd
    exact trimmed_of_isValidId (isValidId_of_handed? hd)

end

-- A detector under `a`, and requests for one whose id has a blank in front of that.
theorem run_trims_what_preview_keeps_blank :
    let start : Instant := .ofParts 0 0 0
    let stop : Instant := .ofParts 0 60 0
    let d : Detector :=
      { Detector.blank with name := "n", timeField := "t", interval := ⟨1, .minutes⟩ }
    let ask (id : String) : Except Store.Fault Store.Answer :=
      .ok ((Store.Memory.empty.put "a" d).2.get .system id).1
    let body := Text.octets "\x7b\"period_start\":0,\"period_end\":60000\x7d"
    let input : Execution.Input := ⟨some " a", none, some start, some stop⟩
    let calls (path : String) : List Call :=
      ((dispatch (overheard ask fun _ _ _ => .ok []) ⟨true, 5, 0⟩ (some " a") path.toList
        body).run []).2
    Execution.Route.ofPath? "/d/%20a/run".toList = some .run ∧
    Execution.Route.ofPath? "/d/%20a/preview".toList = some .preview ∧
    Execution.Input.ofBody body (some " a") = .ok input ∧ input.givenId? = some " a" ∧
    input.window? = some (start, stop) ∧ start < stop ∧
    start.epochMillis < stop.epochMillis ∧ stop.floored.InRange ∧
    calls "/d/%20a/run" = [.lookup .system "a",
      .detect { d with id := some "a", version := some 1 } start stop] ∧
    calls "/d/%20a/preview" = [.lookup .system " a"] := by
  intro start stop d ask body input calls
  have hr : Execution.Route.ofPath? "/d/%20a/run".toList = some .run := by decide +kernel
  have hp : Execution.Route.ofPath? "/d/%20a/preview".toList = some .preview := by decide +kernel
  have hb : Execution.Input.ofBody body (some " a") = .ok input :=
    Outcome.eq_ok_of_toOption (by decide +kernel)
  have hg : input.givenId? = some " a" := by decide +kernel
  have hl : start < stop := by decide
  have hm : start.epochMillis < stop.epochMillis := by decide
  have he : stop.floored.InRange := by decide
  have ht : trimmed " a" = "a" := by decide +kernel
  have hd : handed? ask "a" = some { d with id := some "a", version := some 1 } := by
    decide +kernel
  have hn : handed? ask " a" = none := by decide +kernel
  have hs : start.floored = start := by decide
  have hs' : stop.floored = stop := by decide
  have ⟨h₁, h₂, _⟩ := run_trims_what_preview_keeps ask (fun _ _ _ => .ok []) ⟨true, 5, 0⟩ hr hp hb
    rfl hg rfl hl hm he
  refine ⟨hr, hp, hb, hg, rfl, hl, hm, he, h₁.trans ?run, h₂.trans ?preview⟩
  case run =>
    rw [callsFor, ht, hd, hs, hs']
    rfl
  case preview =>
    rw [callsFor, hn]
    rfl

end Service
end AnomalyDetection

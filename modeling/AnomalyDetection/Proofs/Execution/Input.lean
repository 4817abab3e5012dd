import AnomalyDetection.Execution.Validation
import AnomalyDetection.Proofs.Detector.Form
import AnomalyDetection.Proofs.Time.Instant

namespace AnomalyDetection.Execution.Input

open Json (Field Decoder)

variable {input : Input} {body : Octets} {start stop : Instant} {given : String}

theorem givenId?_of_path {outer : String} (hb : ofBody body (some outer) = .ok input)
    (hi : input.givenId? = some given) : given = outer := by
  have ⟨i, _, he⟩ := Outcome.map_eq_ok hb
  subst he
  simp only [givenId?, Option.filter_eq_some_iff, Option.some.injEq] at hi
  exact hi.left.symm

theorem givenId?_eq_of_path {outer : String} (hb : ofBody body (some outer) = .ok input)
    (h : Text.allBlank outer.toList = false) : input.givenId? = some outer := by
  have ⟨i, _, he⟩ := Outcome.map_eq_ok hb
  subst he
  simp [givenId?, h]

theorem allBlank_of_givenId? (h : input.givenId? = some given) :
    Text.allBlank given.toList = false := by
  have ⟨_, hb⟩ := Option.filter_eq_some_iff.mp h
  exact Bool.not_eq_true' _ ▸ hb

theorem plan_run (hi : input.givenId? = some given) (hw : input.window? = some (start, stop))
    (h : start < stop) : input.plan .run = .ok (.run given start stop) := by
  simp only [plan, checkedWindow, hi, hw, h, if_true]
  rfl

-- A plan is one for the route.

theorem plan_preview_ne_run : input.plan .preview ≠ .ok (.run given start stop) := by
  intro h
  have ⟨_, _, he⟩ := Outcome.bind_eq_ok h
  cases he

theorem plan_run_ne_preview {id : Option String} :
    input.plan .run ≠ .ok (.preview id start stop) := by
  intro h
  unfold plan at h
  dsimp only at h
  split at h
  case h_1 => cases h
  case h_2 =>
    have ⟨_, _, he⟩ := Outcome.bind_eq_ok h
    cases he

theorem of_plan_run (h : input.plan .run = .ok (.run given start stop)) :
    input.givenId? = some given ∧ input.window? = some (start, stop) ∧ start < stop := by
  unfold plan at h
  dsimp only at h
  split at h
  case h_1 => cases h
  case h_2 id hg =>
    have ⟨⟨start', stop'⟩, hc, he⟩ := Outcome.bind_eq_ok h
    cases he
    unfold checkedWindow at hc
    split at hc
    case h_1 => cases hc
    case h_2 hw =>
      split at hc
      case isFalse => cases hc
      case isTrue hl => cases hc; exact ⟨hg, hw, hl⟩

theorem plan_preview (hw : input.window? = some (start, stop)) (h : start < stop) :
    input.plan .preview = .ok (.preview input.givenId? start stop) := by
  simp only [plan, checkedWindow, hw, h, if_true]
  rfl

theorem plan_of_noWindow (route : Route)
    (h : ∀ start stop, input.window? = some (start, stop) → ¬start < stop) :
    ∃ problem, input.plan route = .error problem := by
  have ⟨problem, hc⟩ : ∃ problem, input.checkedWindow = .error problem := by
    unfold checkedWindow
    split
    case h_1 => exact ⟨_, rfl⟩
    case h_2 start stop hw => exact ⟨.emptyWindow, if_neg (h start stop hw)⟩
  cases route
  case preview => exact ⟨problem, by simp only [plan, hc]; rfl⟩
  case run =>
    cases hg : input.givenId?
    case none => exact ⟨.noId, by simp only [plan, hg]⟩
    case some => exact ⟨problem, by simp only [plan, hg, hc]; rfl⟩

-- What holds before any field is read, and of whatever they read, holds of the input.
theorem keeps_of_ofBody {P : Input → Prop} {pathId : Option String}
    (hf : ∀ f ∈ shape.fields, f.Keeps ⟨.value, 126⟩ P) (hb : P shape.blank)
    (hi : ∀ i id, P i → P { i with detectorId := some id })
    (h : ofBody body pathId = .ok input) : P input := by
  have ⟨i, hd, he⟩ := Outcome.map_eq_ok h
  have hp : P i := by
    unfold Json.Shape.ofDocument at hd
    split at hd
    case h_1 => cases hd
    case h_3 => cases hd
    case h_2 ms _ =>
      refine Json.Shape.decode_keeps (fun room hr => ?_) hb (Outcome.mapError_eq_ok hd)
      cases Nat.succ.inj hr
      exact hf
  subst he
  cases pathId
  case none => exact hp
  case some id => exact hi i id hp

-- Whatever times an input holds lie in the range of the calendar.
def Timely (i : Input) : Prop :=
  (∀ t, i.start = some t → t.InRange) ∧ (∀ t, i.stop = some t → t.InRange)

theorem timely_of_ofBody {pathId : Option String} (h : ofBody body pathId = .ok input) :
    input.Timely := by
  have hb : shape.blank.Timely := by simp [Timely, shape]
  refine keeps_of_ofBody ?_ hb (fun _ _ hp => hp) h
  simp only [shape, List.forall_mem_cons]
  refine ⟨?detector_id, ?detector, ?period_start, ?period_end, List.forall_mem_nil _⟩
  case detector_id => exact Field.keeps_of fun _ _ _ _ hp => hp
  case detector => exact Field.keeps_of fun _ _ _ _ hp => hp
  case period_start =>
    refine Field.keeps_of fun d x i hd hp => ⟨?_, hp.right⟩
    rintro t rfl
    exact Decoder.inRange_of_timestamp hd
  case period_end =>
    refine Field.keeps_of fun d x i hd hp => ⟨hp.left, ?_⟩
    rintro t rfl
    exact Decoder.inRange_of_timestamp hd

-- The body is one level around its detector.
theorem fits_of_ofBody {pathId : Option String} {d : Detector}
    (h : ofBody body pathId = .ok input) (hd : input.detector = some d) : d.Fits 123 := by
  have hb : ∀ d, shape.blank.detector = some d → d.Fits 123 := by
    intro d hd
    cases hd
  refine keeps_of_ofBody (P := fun i => ∀ d, i.detector = some d → d.Fits 123) ?_ hb
    (fun _ _ hp => hp) h d hd
  simp only [shape, List.forall_mem_cons]
  refine ⟨?detector_id, ?detector, ?period_start, ?period_end, List.forall_mem_nil _⟩
  case detector =>
    refine Field.keeps_of fun _ x _ hx _ => ?_
    rintro d rfl
    exact Detector.fits_of_decode (Decoder.eq_ok_of_optional hx).right
  all_goals exact Field.keeps_of fun _ _ _ _ hp => hp

theorem Timely.window? (h : input.Timely) (hw : input.window? = some (start, stop)) :
    start.InRange ∧ stop.InRange := by
  have ⟨_, hs, hw⟩ := Option.bind_eq_some_iff.mp hw
  have ⟨_, ht, hw⟩ := Option.bind_eq_some_iff.mp hw
  cases hw
  exact ⟨h.left _ hs, h.right _ ht⟩

end AnomalyDetection.Execution.Input

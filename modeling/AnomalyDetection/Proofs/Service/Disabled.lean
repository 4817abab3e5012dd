import AnomalyDetection.Proofs.Service.Calls
import AnomalyDetection.Service.Site

namespace AnomalyDetection.Service

theorem Endpoint.methods_of_executes {e : Endpoint} (h : e.executes) : e.methods = ["POST"] := by
  cases e
  case health => cases h
  case settings => cases h
  case openApi => cases h
  all_goals rfl

-- Whether a request is matched to an endpoint that executes detectors.
def Site.Executes (site : Site) (r : Http.Request) : Prop :=
  ∃ e, Endpoint.ofPath? (.ofText site.basePath.toList) r.path = some e ∧ e.executes

-- What is answered in place of an execution.
def Site.refusal (site : Site) : Http.Response :=
  site.share Refusal.disabled.response

variable {m : Type → Type} [Monad m] [LawfulMonad m] {site : Site} {settings : Settings}
  {r r' : Http.Request}

-- The guard stands before the path is decoded and before the body is measured, so that endpoint
-- and settings decide.
theorem respond_of_disabled (c : Collaborators m) (hs : settings.enabled = false)
    (hr : site.Executes r) (hp : r.method = "POST") :
    respond c site settings r = pure (site.refusal, settings) := by
  obtain ⟨e, he, hx⟩ := hr
  have ho : r.method ≠ "OPTIONS" := by rw [hp]; decide
  have hh : r.method ≠ "HEAD" := by rw [hp]; decide
  have ha : r.method ∈ e.methods := by rw [hp, Endpoint.methods_of_executes hx]; decide
  have hg : e.executes ∧ ¬settings.enabled := ⟨hx, by rw [hs]; decide⟩
  have h : answer c settings r e = pure (Refusal.disabled.response, settings) := by
    simp only [answer, if_pos hg, ha, hh, if_true, if_false, pure_bind]
  simp only [respond, he, ho, if_false, h, pure_bind, Site.refusal]

-- Two requests, and whoever works for the service: both are refused with the same words, and
-- nobody is called.
theorem disabled_reveals_nothing (hs : settings.enabled = false)
    (hr : site.Executes r) (hp : r.method = "POST")
    (hr' : site.Executes r') (hp' : r'.method = "POST") :
    ∃ response : Http.Response,
      response.status = 500 ∧
      response.body = Text.encode (Json.object [("error", .string
        "Anomaly detection is disabled. To enable update adwatch.enabled to true")]).compact ∧
      ∀ (c : Collaborators m) (calls : List Call),
        (respond c.noted site settings r).run calls = pure ((response, settings), calls) ∧
        (respond c.noted site settings r').run calls = pure ((response, settings), calls) := by
  refine ⟨site.refusal, rfl, rfl, fun c calls => ⟨?first, ?second⟩⟩
  case first => rw [respond_of_disabled c.noted hs hr hp]; rfl
  case second => rw [respond_of_disabled c.noted hs hr' hp']; rfl

-- An id that is no text with a body that is too long, and a run without any body.
theorem disabled_reveals_nothing_unreadable_id :
    let site : Site := ⟨"/d", "*"⟩
    let settings : Settings := ⟨false, 5, 0⟩
    let c : Collaborators (StateM Nat) := .around
      (fun _ _ n => (.ok .missing, n + 1)) (fun _ _ _ n => (.error .noEnabledFeatures, n + 1))
    let long : Http.Request := ⟨"POST", "/d/%ff/preview", [], List.replicate (bodyLimit + 1) 0⟩
    let blank : Http.Request := ⟨"POST", "/d/a/run", [("content-type", "text/html")], []⟩
    site.Executes long ∧ site.Executes blank ∧
    ((respond c.noted site settings long).run []).run 0 =
      ((respond c.noted site settings blank).run []).run 0 ∧
    (((respond c.noted site settings long).run []).run 0).1.2 = [] := by
  intro site settings c long blank
  have hl : site.Executes long := ⟨.preview [⟨"detector_id".toList, "%ff".toList⟩],
    by decide +kernel, rfl⟩
  have hb : site.Executes blank := ⟨.run [⟨"detector_id".toList, "a".toList⟩],
    by decide +kernel, rfl⟩
  have hs : settings.enabled = false := rfl
  have ⟨_, _, _, h⟩ := disabled_reveals_nothing (m := StateM Nat) hs hl rfl hb rfl
  have ⟨h₁, h₂⟩ := h c []
  refine ⟨hl, hb, by rw [h₁, h₂], by rw [h₁]; rfl⟩

end AnomalyDetection.Service

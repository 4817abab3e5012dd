import AnomalyDetection.Proofs.Files
import AnomalyDetection.Proofs.Outcome
import AnomalyDetection.Proofs.Service.Disabled
import AnomalyDetection.Service.Server

namespace AnomalyDetection

namespace Settings

-- The last value that updates give a field, if any of them does.
def latest (field : Update → Option α) (us : List Update) (initial : α) : α :=
  (us.filterMap field).getLast?.getD initial

theorem latest_cons (field : Update → Option α) (u : Update) (us : List Update) (initial : α) :
    latest field (u :: us) initial = latest field us ((field u).getD initial) := by
  cases h : field u <;> simp [latest, h, List.getLast?_cons]

theorem foldl_apply (s : Settings) (us : List Update) :
    us.foldl apply s =
      ⟨latest (·.enabled) us s.enabled, latest (·.maxFeatures) us s.maxFeatures,
        latest (·.timeoutMillis) us s.timeoutMillis⟩ := by
  induction us generalizing s
  case nil => rfl
  case cons u us hi => rw [List.foldl_cons, hi, latest_cons, latest_cons, latest_cons, apply]

end Settings

namespace Service

section

variable {σ : Type}

-- What is done on a state without changing it.
def Reads (x : StateM σ α) : Prop := ∀ s, (x.run s).2 = s

theorem Reads.pure (a : α) : Reads (pure a : StateM σ α) := fun _ => rfl

theorem Reads.bind {x : StateM σ α} {f : α → StateM σ β} (hx : Reads x)
    (hf : ∀ a, Reads (f a)) : Reads (x >>= f) := by
  intro s
  rw [StateT.run_bind]
  change ((f (x.run s).1).run (x.run s).2).2 = s
  rw [hx, hf]

-- Collaborators that only look things up.
structure Collaborators.Read (c : Collaborators (StateM σ)) : Prop where
  lookup : ∀ authority id, Reads (c.lookup authority id)
  detect : ∀ d start stop, Reads (c.detect d start stop)
  act : ∀ r, Reads (c.act r)

theorem Reads.run {lookup : Store.Authority → String → StateM σ (Except Store.Fault Store.Answer)}
    {detect : Detector → Instant → Instant →
      StateM σ (Except Engine.Fault (List (AnomalyResult Float)))}
    (hl : ∀ authority id, Reads (lookup authority id))
    (hd : ∀ d start stop, Reads (detect d start stop)) (r : Action.Request) :
    Reads (Action.run lookup detect r) := by
  unfold Action.run
  split
  case h_1 => exact .pure _
  case h_2 =>
    refine .bind (hl _ _) fun answer => ?_
    split
    case h_1 => exact .pure _
    case h_2 =>
    split
    case h_1 => exact .pure _
    case h_2 =>
    split
    case h_1 => exact .pure _
    case h_2 =>
      refine .bind (hd _ _ _) fun outcome => ?_
      split <;> exact .pure _

variable {c : Collaborators (StateM σ)} {site : Site} {settings : Settings}

theorem Reads.preview (hc : c.Read) (d : Detector) (start stop : Instant) :
    Reads (preview c d start stop) := by
  refine .bind (hc.detect _ _ _) fun outcome => ?_
  split <;> exact .pure _

theorem Reads.resolve (hc : c.Read) (id : String) : Reads (resolve c.lookup id) := by
  refine .bind (hc.lookup _ _) fun answer => ?_
  split
  case h_1 => exact .pure _
  case h_2 => split <;> exact .pure _

theorem Reads.dispatch (hc : c.Read) (pathId : Option String) (path : List Char) (body : Octets) :
    Reads (dispatch c settings pathId path body) := by
  unfold Service.dispatch
  split
  case h_1 => exact .pure _
  case h_2 =>
  split
  case h_1 => exact .pure _
  case h_2 =>
  split
  case h_1 => exact .pure _
  case h_2 => exact .bind (hc.act _) fun _ => .pure _
  case h_3 =>
  split
  case h_1 =>
    split
    case h_1 => exact .pure _
    case h_2 => exact .preview hc _ _ _
  case h_2 =>
    split
    case h_1 => exact .pure _
    case h_2 =>
      refine .bind (.resolve hc _) fun found => ?_
      split
      case h_1 => exact .pure _
      case h_2 => exact .preview hc _ _ _

theorem Reads.serveDetector (hc : c.Read) (path : Option (List Http.Parameter))
    (r : Http.Request) : Reads (serveDetector c settings path r) := by
  unfold Service.serveDetector
  split
  case h_1 => exact .pure _
  case h_2 =>
    split
    case isTrue => exact .pure _
    case isFalse => exact .dispatch hc _ _ _

theorem Reads.serve (hc : c.Read) (r : Http.Request) (e : Endpoint) :
    Reads (serve c settings r e) := by
  unfold Service.serve
  split
  case h_3 => split <;> exact .pure _
  case h_4 => exact .bind (.serveDetector hc _ _) fun _ => .pure _
  all_goals exact .pure _

theorem Reads.answer (hc : c.Read) (r : Http.Request) (e : Endpoint) :
    Reads (answer c settings r e) := by
  unfold Service.answer
  dsimp only
  split
  case isTrue => exact .pure _
  case isFalse =>
    split
    case isTrue => exact .bind (.serve hc r e) fun _ => .pure _
    case isFalse => exact .pure _

theorem Reads.respond (hc : c.Read) (r : Http.Request) : Reads (respond c site settings r) := by
  unfold Service.respond
  split
  case h_1 => exact .pure _
  case h_2 e _ =>
    split
    case isTrue => exact .pure _
    case isFalse => exact .bind (.answer hc r e) fun _ => .pure _

theorem Server.read_collaborators (config : Config) : (Server.collaborators config).Read where
  lookup _ _ _ := rfl
  detect _ _ _ _ := rfl
  act := Reads.run (fun _ _ _ => rfl) (fun _ _ _ _ => rfl)

end

theorem Endpoint.ofPath?_eq_settings {base : Http.Pattern} {path : List Char} :
    ofPath? base path = some settings ↔ path = "/_settings".toList := by
  constructor
  case mpr => rintro rfl; rfl
  case mp =>
    intro h
    unfold ofPath? at h
    split at h
    case isTrue => cases h
    split at h
    case isTrue hp => exact hp
    split at h
    case isTrue => cases h
    -- Below the base path there are detectors only.
    have ⟨⟨around, rest⟩, _, h⟩ := Option.bind_eq_some_iff.mp h
    unfold ofSegments? at h
    repeat' split at h
    all_goals cases h

-- A request that puts something to the settings.
def IsUpdate (r : Http.Request) : Prop :=
  r.path = "/_settings".toList ∧ r.method = "PUT"

instance (r : Http.Request) : Decidable (IsUpdate r) := inferInstanceAs (Decidable (_ ∧ _))

-- What has to be so for the body of a request to be taken as an update.
structure Acceptable (r : Http.Request) (u : Settings.Update) : Prop where
  announced : (r.header? "content-type").map (fun s => Http.MediaType.isJson s.toList) = some true
  fits : r.body.length ≤ bodyLimit
  read : Settings.Update.ofText r.body = .ok u

section

variable {settings : Settings} {r : Http.Request} {u : Settings.Update}

theorem update_of_acceptable (h : Acceptable r u) :
    update settings r = (.json 200 (settings.apply u).toJson, settings.apply u) := by
  simp only [update, h.announced, ne_eq, not_true_eq_false, if_false, Nat.not_lt_of_le h.fits,
    h.read]

variable (settings) in
theorem update_of_not_acceptable (h : ∀ u, ¬Acceptable r u) :
    (update settings r).1.status ≠ 200 ∧ (update settings r).2 = settings := by
  unfold update
  split
  case isTrue => exact ⟨show 415 ≠ 200 by decide, rfl⟩
  case isFalse ha =>
  split
  case isTrue => exact ⟨show 413 ≠ 200 by decide, rfl⟩
  case isFalse hf =>
  split
  case h_1 u hu => exact absurd ⟨not_not.mp ha, Nat.le_of_not_lt hf, hu⟩ (h u)
  case h_2 e _ =>
    refine ⟨?_, rfl⟩
    unfold unreadableUpdate
    split
    case isTrue => exact show 400 ≠ 200 by decide
    case isFalse => exact show 422 ≠ 200 by decide

section

variable {m : Type → Type} [Monad m] [LawfulMonad m] (c : Collaborators m)

theorem respond_of_isUpdate (site : Site) (h : IsUpdate r) :
    respond c site settings r =
      pure (site.share (update settings r).1, (update settings r).2) := by
  have he : Endpoint.ofPath? (.ofText site.basePath.toList) r.path = some .settings :=
    Endpoint.ofPath?_eq_settings.mpr h.left
  have ho : r.method ≠ "OPTIONS" := by rw [h.right]; decide
  have hh : r.method ≠ "HEAD" := by rw [h.right]; decide
  have ha : r.method ∈ Endpoint.settings.methods := by rw [h.right]; decide
  have hx : ¬(Endpoint.settings.executes ∧ ¬settings.enabled) := fun hx => nomatch hx.left
  have hs : serve c settings r .settings = pure (update settings r) := if_pos h.right
  have hr : answer c settings r .settings = pure (update settings r) := by
    simp only [answer, if_neg hx, ha, hh, hs, if_true, if_false, pure_bind]
  simp only [respond, he, ho, if_false, hr, pure_bind]

-- What is answered with the settings that were there before.
def Keeps (settings : Settings) (x : m (Http.Response × Settings)) : Prop :=
  ∃ response : m Http.Response, x = (·, settings) <$> response

omit c in
theorem Keeps.pure (response : Http.Response) :
    Keeps (m := m) settings (pure (response, settings)) :=
  ⟨Pure.pure response, by rw [map_pure]⟩

omit c in
theorem Keeps.bind {x : m (Http.Response × Settings)}
    {f : Http.Response × Settings → m (Http.Response × Settings)} (hx : Keeps settings x)
    (hf : ∀ response, Keeps settings (f (response, settings))) : Keeps settings (x >>= f) := by
  obtain ⟨y, rfl⟩ := hx
  choose g hg using hf
  exact ⟨y >>= g, by simp only [bind_map_left, map_bind, hg]⟩

theorem keeps_serve {e : Endpoint} (h : e = .settings → r.method ≠ "PUT") :
    Keeps settings (serve c settings r e) := by
  cases e
  case health => exact .pure _
  case openApi => exact .pure _
  case settings =>
    unfold serve
    rw [if_neg (h rfl)]
    exact .pure _
  all_goals exact ⟨_, bind_pure_comp ..⟩

theorem keeps_answer {e : Endpoint} (h : e = .settings → r.method ≠ "PUT") :
    Keeps settings (answer c settings r e) := by
  unfold answer
  dsimp only
  split
  case isTrue => exact .bind (.pure _) fun _ => .pure _
  case isFalse =>
    split
    case isTrue => exact .bind (keeps_serve c h) fun _ => .pure _
    case isFalse => exact .bind (.pure _) fun _ => .pure _

variable (settings) in
-- No other request has settings to answer with than those it came upon.
theorem keeps_respond (site : Site) (h : ¬IsUpdate r) :
    Keeps settings (respond c site settings r) := by
  unfold respond
  split
  case h_1 => exact .pure _
  case h_2 e he =>
    have h (hs : e = .settings) : r.method ≠ "PUT" :=
      fun hm => h ⟨Endpoint.ofPath?_eq_settings.mp (hs ▸ he), hm⟩
    split
    case isTrue => exact .pure _
    case isFalse => exact .bind (keeps_answer c h) fun _ => .pure _

theorem map_fst_congr {x y : m (α × β)} (h : Prod.fst <$> x = Prod.fst <$> y) (f : α → γ) :
    (fun a => f a.1) <$> x = (fun a => f a.1) <$> y := by
  have hf (z : m (α × β)) : (fun a => f a.1) <$> z = f <$> (Prod.fst <$> z) := by
    rw [Functor.map_map]
  rw [hf, hf, h]

section

variable {site : Site} {settings' : Settings} {e : Endpoint} (hx : e.executes)
  (he : settings'.enabled = settings.enabled) (hf : settings'.maxFeatures = settings.maxFeatures)

include hx hf

theorem serve_congr : Prod.fst <$> serve c settings' r e = Prod.fst <$> serve c settings r e := by
  have hs (path : Option (List Http.Parameter)) :
      serveDetector c settings' path r = serveDetector c settings path r := by
    simp only [serveDetector, dispatch, hf]
  cases e
  case health => cases hx
  case settings => cases hx
  case openApi => cases hx
  all_goals simp only [serve, hs, map_bind, map_pure]

include he

theorem answer_congr :
    Prod.fst <$> answer c settings' r e = Prod.fst <$> answer c settings r e := by
  unfold answer
  dsimp only
  rw [he]
  split
  case isTrue => simp only [pure_bind, map_pure]
  case isFalse =>
    split
    case isTrue =>
      simp only [bind_pure_comp, Functor.map_map]
      exact map_fst_congr (serve_congr c hx hf) fun response =>
        if r.method = "HEAD" then response.withoutBody else response
    case isFalse => simp only [pure_bind, map_pure]

-- An execution takes from the settings whether there are any and how many features one may have.
theorem respond_congr (hp : Endpoint.ofPath? (.ofText site.basePath.toList) r.path = some e) :
    Prod.fst <$> respond c site settings' r = Prod.fst <$> respond c site settings r := by
  unfold respond
  rw [hp]
  dsimp only
  split
  case isTrue => simp only [map_pure]
  case isFalse =>
    simp only [bind_pure_comp, Functor.map_map]
    exact map_fst_congr (answer_congr c hx he hf) site.share

end

end

end

-- The update that a request and its answer amount to: one that was put to the settings and taken.
def accepted? (r : Http.Request) (answer : Http.Response) : Option Settings.Update :=
  if IsUpdate r ∧ answer.status = 200 then (Settings.Update.ofText r.body).toOption else none

-- The updates in a history of requests and answers.
def acceptedUpdates (rs : List Http.Request) (answers : List Http.Response) :
    List Settings.Update :=
  (List.zipWith accepted? rs answers).flatMap Option.toList

namespace Server

variable {config : Config} {files : FileSystem} {s : Server} {r : Http.Request}

theorem respond_eq (s : Server) (r : Http.Request) :
    let x := (Service.respond (collaborators s.config) (site s.config) s.settings r).run s.files
    s.respond r = (x.1.1, { s with settings := x.1.2 }) := by
  intro x
  have hf : x.2 = s.files := Reads.respond (read_collaborators s.config) r s.files
  have h : s.respond r = (x.1.1, { s with files := x.2, settings := x.1.2 }) := rfl
  rw [h, hf]

theorem respond_of_isUpdate (s : Server) (h : IsUpdate r) :
    s.respond r =
      ((site s.config).share (update s.settings r).1,
        { s with settings := (update s.settings r).2 }) := by
  rw [respond_eq, Service.respond_of_isUpdate _ _ h]
  rfl

theorem respond_of_acceptable {u : Settings.Update} (s : Server) (h : IsUpdate r)
    (ha : Acceptable r u) :
    (s.respond r).1.status = 200 ∧ (s.respond r).2 = { s with settings := s.settings.apply u } := by
  rw [respond_of_isUpdate s h, update_of_acceptable ha]
  exact ⟨rfl, rfl⟩

theorem respond_of_not_acceptable (s : Server) (h : IsUpdate r) (ha : ∀ u, ¬Acceptable r u) :
    (s.respond r).1.status ≠ 200 ∧ (s.respond r).2 = s := by
  have ⟨hs, hu⟩ := update_of_not_acceptable s.settings ha
  rw [respond_of_isUpdate s h, hu]
  exact ⟨hs, rfl⟩

theorem respond_of_not_isUpdate (s : Server) (h : ¬IsUpdate r) : (s.respond r).2 = s := by
  have ⟨response, hk⟩ := keeps_respond s.settings (collaborators s.config)
    (site s.config) h
  rw [respond_eq, hk]
  rfl

-- Whether an update is taken says nothing about the settings that it comes upon.
theorem status_respond_iff (s : Server) (h : IsUpdate r) :
    (s.respond r).1.status = 200 ↔ ∃ u, Acceptable r u := by
  constructor
  case mp =>
    intro hs
    by_contra ha
    exact (respond_of_not_acceptable s h (not_exists.mp ha)).left hs
  case mpr => exact fun ⟨_, ha⟩ => (respond_of_acceptable s h ha).left

theorem accepted?_eq_some {u : Settings.Update} (h : accepted? r (s.respond r).1 = some u) :
    (s.respond r).2 = { s with settings := s.settings.apply u } := by
  unfold accepted? at h
  split at h
  case isFalse => cases h
  case isTrue hs =>
    have ⟨v, ha⟩ := (status_respond_iff s hs.left).mp hs.right
    rw [ha.read] at h
    cases h
    exact (respond_of_acceptable s hs.left ha).right

theorem accepted?_eq_none (h : accepted? r (s.respond r).1 = none) : (s.respond r).2 = s := by
  by_cases hu : IsUpdate r
  case neg => exact respond_of_not_isUpdate s hu
  case pos =>
    refine (respond_of_not_acceptable s hu fun u ha => ?_).right
    rw [accepted?, if_pos ⟨hu, (respond_of_acceptable s hu ha).left⟩, ha.read] at h
    cases h

theorem snd_respond (s : Server) (r : Http.Request) :
    (s.respond r).2 = { s with
      settings := (accepted? r (s.respond r).1).toList.foldl Settings.apply s.settings } := by
  cases h : accepted? r (s.respond r).1
  case none => exact accepted?_eq_none h
  case some u => exact accepted?_eq_some h

-- The server after a history, and the updates that the history brought it.
def after (s : Server) (rs : List Http.Request) : Server := (s.respondAll rs).2

def updates (s : Server) (rs : List Http.Request) : List Settings.Update :=
  acceptedUpdates rs (s.respondAll rs).1

theorem updates_cons (s : Server) (r : Http.Request) (rs : List Http.Request) :
    s.updates (r :: rs) =
      (accepted? r (s.respond r).1).toList ++ (s.respond r).2.updates rs := rfl

-- The induction is on the history; each request adds its update to those before.
theorem after_eq (s : Server) (rs : List Http.Request) :
    s.after rs = { s with settings := (s.updates rs).foldl Settings.apply s.settings } := by
  induction rs generalizing s
  case nil => rfl
  case cons r rs hi =>
    have h : s.after (r :: rs) = (s.respond r).2.after rs := rfl
    have hs := snd_respond s r
    rw [h, hi, updates_cons, List.foldl_append]
    generalize (s.respond r).2 = t at hs ⊢
    rw [hs]

-- The directory of the detectors is there for good, so a start changes no files a second time.
theorem start_again (h : start config files = .ok s) {config' : Config}
    (hd : config'.detectorsDir = s.config.detectorsDir) :
    start config' s.files = .ok ⟨config', s.files, config'.settings⟩ := by
  have ⟨made, hm, hs⟩ := Outcome.map_eq_ok h
  subst hs
  have hk := (FileSystem.Extends.refl made).keepsDirectories
  have ha : Store.File.create made config'.detectorsDir = .ok made := by
    rw [Store.File.create, hd, FileSystem.ensureDirectory_again (Outcome.mapError_eq_ok hm) hk]
    rfl
  rw [start, ha]
  rfl

theorem not_isUpdate_of_executes {site : Site} (h : site.Executes r) : ¬IsUpdate r := by
  intro hu
  obtain ⟨e, he, hx⟩ := h
  rw [Endpoint.ofPath?_eq_settings.mpr hu.left] at he
  cases he
  cases hx

-- Servers that look for detectors and rows in the same places execute alike.
theorem fst_respond_congr {t : Server} (hc : collaborators t.config = collaborators s.config)
    (hp : site t.config = site s.config) (hf : t.files = s.files)
    (he : t.settings.enabled = s.settings.enabled)
    (hm : t.settings.maxFeatures = s.settings.maxFeatures) (hx : (site s.config).Executes r) :
    (t.respond r).1 = (s.respond r).1 := by
  obtain ⟨e, hr, hx⟩ := hx
  have h := congrArg (fun x => (x.run s.files).1)
    (respond_congr (collaborators s.config) hx he hm hr)
  rw [respond_eq, respond_eq, hc, hp, hf]
  exact h

-- What is left of a history, for whoever asks the server afterwards.
structure KeepsOnlyUpdates (s : Server) (rs : List Http.Request) : Prop where
  files : (s.after rs).files = s.files
  settings : (s.after rs).settings =
    ⟨Settings.latest (·.enabled) (s.updates rs) s.settings.enabled,
      Settings.latest (·.maxFeatures) (s.updates rs) s.settings.maxFeatures,
      Settings.latest (·.timeoutMillis) (s.updates rs) s.settings.timeoutMillis⟩
  -- Any server takes the same updates, whether it is enabled or not.
  taken : ∀ (t : Server) r, IsUpdate r →
    ((t.respond r).1.status = 200 ↔ ∃ u, Acceptable r u)
  rejected : ∀ (t : Server) r, accepted? r (t.respond r).1 = none → (t.respond r).2 = t
  -- A server that is started afresh, once the settings are put into it.
  fresh : ∃ fresh, start s.config (s.after rs).files = .ok fresh ∧
    ∀ r, (respond { fresh with settings := (s.after rs).settings } r).1 =
      ((s.after rs).respond r).1
  -- One whose configuration says what the settings say of executions.
  configured : ∀ seconds, ∃ fresh,
    start { s.config with
        enabled := (s.after rs).settings.enabled
        maxFeatures := (s.after rs).settings.maxFeatures
        timeoutSeconds := seconds } (s.after rs).files = .ok fresh ∧
    ∀ r, (site s.config).Executes r → (fresh.respond r).1 = ((s.after rs).respond r).1
  repeated : ∀ r between, (site s.config).Executes r →
    ((s.after rs).respond r).2.updates between = [] →
    ((((s.after rs).respond r).2.after between).respond r).1 = ((s.after rs).respond r).1

-- Requests leave the files alone, and of all that a server has been asked only the updates that it
-- accepted live on, in its settings.
theorem keeps_only_updates (h : start config files = .ok s) (rs : List Http.Request) :
    s.KeepsOnlyUpdates rs where
  files := by rw [after_eq]
  settings := by rw [after_eq, Settings.foldl_apply]
  taken t r := status_respond_iff t
  rejected t r := accepted?_eq_none
  fresh := by
    rw [after_eq]
    exact ⟨_, start_again h rfl, fun r => rfl⟩
  configured seconds := by
    rw [after_eq]
    exact ⟨_, start_again h rfl, fun r hx => fst_respond_congr rfl rfl rfl rfl rfl hx⟩
  repeated r between hx hu := by
    have hr := respond_of_not_isUpdate (s.after rs) (not_isUpdate_of_executes hx)
    rw [hr] at hu ⊢
    rw [after_eq, hu]
    rfl

-- A server that is switched off and on again, with a body between that is no update and one that
-- says something else.
theorem keeps_only_updates_off_and_on :
    let put (body : String) : Http.Request :=
      ⟨"PUT", "/_settings", [("content-type", "application/json")], Text.octets body⟩
    let preview : Http.Request := ⟨"POST", "/_adwatch/detectors/a/preview", [], []⟩
    let rs := [put "\x7b\"enabled\":false\x7d", preview, put "\x7b\"enabled\":1\x7d",
      put "\x7b\"max_anomaly_features\":2\x7d", put "\x7b\"enabled\":true\x7d"]
    ∃ s, start (.ofProfile [] "") ⟨[], []⟩ = .ok s ∧ s.KeepsOnlyUpdates rs ∧
      s.updates rs = [⟨some false, none, none⟩, ⟨none, some 2, none⟩, ⟨some true, none, none⟩] ∧
      (s.after rs).settings = { s.settings with maxFeatures := 2 } := by
  intro put preview rs
  let config : Config := .ofProfile [] ""
  let made := (Store.File.create ⟨[], []⟩ config.detectorsDir).toOption.getD ⟨[], []⟩
  have hc : (Store.File.create ⟨[], []⟩ config.detectorsDir).toOption.isSome := by decide +kernel
  have hm : Store.File.create ⟨[], []⟩ config.detectorsDir = .ok made := by
    refine Outcome.eq_ok_of_toOption ?_
    exact (Option.some_get hc).symm.trans (congrArg some (Option.get_eq_getD _))
  have hs : start config ⟨[], []⟩ = .ok ⟨config, made, config.settings⟩ := by
    rw [start, hm]
    rfl
  have hk := keeps_only_updates hs rs
  have hu : updates ⟨config, made, config.settings⟩ rs =
      [⟨some false, none, none⟩, ⟨none, some 2, none⟩, ⟨some true, none, none⟩] := by
    decide +kernel
  refine ⟨_, hs, hk, hu, ?_⟩
  rw [hk.settings, hu]
  rfl

end Server

end Service
end AnomalyDetection

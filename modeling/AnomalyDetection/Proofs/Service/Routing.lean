import AnomalyDetection.Proofs.Execution.Input
import AnomalyDetection.Proofs.Http.Pattern
import AnomalyDetection.Proofs.Text.Utf8
import AnomalyDetection.Service.Site
import Mathlib.Data.List.Basic
import Mathlib.Data.List.TakeWhile
import Mathlib.Tactic.Choose

namespace AnomalyDetection

namespace Execution.Route

variable {path last : List Char} {route : Route}

theorem takeWhile_ne_slash {s t : List Char} (h : '/' ∉ s) :
    (s ++ '/' :: t).takeWhile (· != '/') = s ∧ s.takeWhile (· != '/') = s := by
  have hs : ∀ c ∈ s, (c != '/') = true := fun c hc => bne_iff_ne.mpr (ne_of_mem_of_not_mem hc h)
  refine ⟨?_, List.takeWhile_eq_self_iff.mpr hs⟩
  rw [List.takeWhile_append_of_pos hs, List.takeWhile_cons_of_neg (by decide), List.append_nil]

-- What stands behind the last slash is the last segment, if there is something.
theorem lastSegment_eq (h : (Text.split '/' path).getLast? = some last) (hn : last ≠ []) :
    lastSegment path = last := by
  have drop {s t : List Char} (hs : '/' ∉ s) (hn : s ≠ []) :
      (s.reverse ++ t).dropWhile (· == '/') = s.reverse ++ t := by
    refine List.dropWhile_eq_self_iff.mpr fun hl => ?_
    obtain ⟨c, r, hr⟩ := List.exists_cons_of_ne_nil (mt List.reverse_eq_nil_iff.mp hn)
    have hc : c ∈ s := List.mem_reverse.mp (hr ▸ List.mem_cons_self)
    simpa [hr] using ne_of_mem_of_not_mem hc hs
  by_cases hp : '/' ∈ path
  case pos =>
    obtain ⟨front, part, rfl, hs⟩ := Text.exists_last_part hp
    cases (Text.getLast?_split_append hs front).symm.trans h
    rw [lastSegment, List.reverse_append, List.reverse_cons, List.append_assoc, drop hs hn,
      List.singleton_append, (takeWhile_ne_slash (mt List.mem_reverse.mp hs)).left,
      List.reverse_reverse]
  case neg =>
    rw [Text.split_of_notMem hp] at h
    obtain rfl : path = last := Option.some_inj.mp h
    have hd := drop (t := []) hp hn
    rw [List.append_nil] at hd
    rw [lastSegment, hd, (takeWhile_ne_slash (t := []) (mt List.mem_reverse.mp hp)).right,
      List.reverse_reverse]

theorem name_ne_nil (route : Route) : route.name.toList ≠ [] := by
  cases route <;> decide

theorem ofPath?_of_getLast? (h : (Text.split '/' path).getLast? = some route.name.toList) :
    ofPath? path = some route := by
  rw [ofPath?, lastSegment_eq h route.name_ne_nil]
  cases route <;> decide

end Execution.Route

namespace Service

open Execution (Route)

namespace Endpoint

variable {base : Http.Pattern} {path : List Char} {segments : List (List Char)}
  {around : List Http.Parameter} {e : Endpoint}

-- The route that an endpoint stands for.
def route? : Endpoint → Option Route
  | previewInline => some .preview
  | preview _ => some .preview
  | run _ => some .run
  | _ => none

-- The endpoint of a stored detector.
def stored : Route → List Http.Parameter → Endpoint
  | .preview => preview
  | .run => run

theorem route?_stored (route : Route) (path : List Http.Parameter) :
    (stored route path).route? = some route := by
  cases route <;> rfl

theorem stored_ne_previewInline (route : Route) (path : List Http.Parameter) :
    stored route path ≠ previewInline := by
  cases route <;> exact nofun

theorem stored_inj {route route' : Route} {path path' : List Http.Parameter} :
    stored route path = stored route' path' ↔ route = route' ∧ path = path' := by
  cases route <;> cases route' <;> simp [stored]

-- What is below a base path: a preview without an id, and for every id one endpoint a route.
theorem ofSegments?_iff : ofSegments? around segments = some e ↔
    segments = [Route.preview.name.toList] ∧ e = previewInline ∨
    ∃ id route, segments = [id, (Route.name route).toList] ∧
      e = stored route (around ++ [⟨"detector_id".toList, id⟩]) := by
  constructor
  case mp =>
    intro h
    unfold ofSegments? at h
    split at h
    case h_1 last =>
      split at h
      case isTrue hl => cases h; exact .inl ⟨hl ▸ rfl, rfl⟩
      case isFalse => cases h
    case h_2 id last =>
      split at h
      case isTrue hl => cases h; exact .inr ⟨id, .preview, hl ▸ rfl, rfl⟩
      split at h
      case isTrue hl => cases h; exact .inr ⟨id, .run, hl ▸ rfl, rfl⟩
      case isFalse => cases h
    case h_3 => cases h
  case mpr =>
    rintro (⟨rfl, rfl⟩ | ⟨id, route, rfl, rfl⟩)
    · rfl
    · cases route <;> rfl

-- An endpoint is below the base path by the name of its route.
theorem exists_route (h : ofSegments? around segments = some e) :
    ∃ route : Route, e.route? = some route ∧ segments.getLast? = some route.name.toList := by
  rcases ofSegments?_iff.mp h with ⟨rfl, rfl⟩ | ⟨id, route, rfl, rfl⟩
  · exact ⟨.preview, rfl, rfl⟩
  · exact ⟨route, route?_stored route _, rfl⟩

theorem getLast?_of_below (h : base.front? (Text.split '/' path) = some (around, segments))
    (hs : ofSegments? around segments = some e) :
    ∃ route : Route, e.route? = some route ∧
      (Text.split '/' path).getLast? = some route.name.toList := by
  have ⟨route, hr, hl⟩ := exists_route hs
  have ⟨front, hf⟩ := Http.Pattern.suffix_of_front? h
  refine ⟨route, hr, ?_⟩
  rw [← hf, List.getLast?_append, hl]
  rfl

-- The fixed places are none of those below a base path, whatever that is.
theorem ofPath?_iff_below (he : e.executes) :
    ofPath? base path = some e ↔ ∃ around segments,
      base.front? (Text.split '/' path) = some (around, segments) ∧
      ofSegments? around segments = some e := by
  constructor
  case mp =>
    intro h
    unfold ofPath? at h
    split at h
    case isTrue => cases h; cases he
    split at h
    case isTrue => cases h; cases he
    split at h
    case isTrue => cases h; cases he
    have ⟨⟨around, segments⟩, hf, hs⟩ := Option.bind_eq_some_iff.mp h
    exact ⟨around, segments, hf, hs⟩
  case mpr =>
    rintro ⟨around, segments, hf, hs⟩
    have ⟨route, _, hl⟩ := getLast?_of_below hf hs
    have fixed {s : String} (last : List Char)
        (h : (Text.split '/' s.toList).getLast? = some last)
        (hn : ∀ route : Route, last ≠ route.name.toList) : path ≠ s.toList := by
      rintro rfl
      exact hn route (Option.some_inj.mp (h.symm.trans hl))
    rw [ofPath?, if_neg (fixed "health".toList (by decide) fun r => by cases r <;> decide),
      if_neg (fixed "_settings".toList (by decide) fun r => by cases r <;> decide),
      if_neg (fixed "openapi.json".toList (by decide) fun r => by cases r <;> decide), hf]
    exact hs

-- The patterns of the endpoints that execute detectors: that of the base path, a slash, and what is
-- below.
theorem ofPath?_iff_fits (base path : List Char) :
    (ofPath? (.ofText base) path = some previewInline ↔
      ∃ ps, Http.Pattern.Fits (.ofText (base ++ "/preview".toList)) path ps) ∧
    ∀ route ps, ofPath? (.ofText base) path = some (stored route ps) ↔
      Http.Pattern.Fits (.ofText (base ++ "/\x7bdetector_id\x7d/".toList ++ route.name.toList)) path
        ps := by
  have hi : Http.Pattern.ofText (base ++ "/preview".toList) =
      Http.Pattern.ofText base ++ [.text Route.preview.name.toList] :=
    Http.Pattern.ofText_append base _
  have hs (route : Route) :
      Http.Pattern.ofText (base ++ "/\x7bdetector_id\x7d/".toList ++ route.name.toList) =
        Http.Pattern.ofText base ++
          [.parameter [] "detector_id".toList, .text route.name.toList] := by
    have hp : Http.Pattern.ofText ("\x7bdetector_id\x7d/".toList ++ route.name.toList) =
        [.parameter [] "detector_id".toList, .text route.name.toList] := by
      cases route <;> rfl
    rw [← hp, ← Http.Pattern.ofText_append, List.append_assoc]
    rfl
  simp only [hi, hs, Http.Pattern.Fits, Http.Pattern.front?_append_eq_some,
    Http.Pattern.front?_text, Http.Pattern.front?_parameter]
  constructor
  case left =>
    have he : previewInline.executes := rfl
    simp only [ofPath?_iff_below he, ofSegments?_iff]
    constructor
    case mp =>
      rintro ⟨around, _, hf, ⟨rfl, _⟩ | ⟨id, route, _, he⟩⟩
      · exact ⟨around ++ [], around, _, [], hf, ⟨rfl, rfl⟩, rfl⟩
      · exact absurd he.symm (stored_ne_previewInline route _)
    case mpr =>
      rintro ⟨_, around, _, _, hf, ⟨rfl, rfl⟩, rfl⟩
      exact ⟨around, _, hf, .inl ⟨rfl, trivial⟩⟩
  case right =>
    intro route ps
    have he : (stored route ps).executes := by cases route <;> rfl
    simp only [ofPath?_iff_below he, ofSegments?_iff, stored_inj]
    constructor
    case mp =>
      rintro ⟨around, _, hf, ⟨_, he⟩ | ⟨id, _, rfl, rfl, rfl⟩⟩
      · exact absurd he (stored_ne_previewInline route ps)
      · exact ⟨around, _, _, hf, ⟨id, _, [], rfl, ⟨rfl, rfl⟩, rfl⟩, rfl⟩
    case mpr =>
      rintro ⟨around, _, _, hf, ⟨id, _, _, rfl, ⟨rfl, rfl⟩, rfl⟩, rfl⟩
      exact ⟨around, _, hf, .inr ⟨id, route, rfl, rfl, rfl⟩⟩

-- The last segment of a path names the route of the endpoint that the path leads to.
theorem ofPath?_eq_route? (h : ofPath? base path = some e) : Route.ofPath? path = e.route? := by
  by_cases he : e.executes
  case pos =>
    have ⟨_, _, hf, hs⟩ := (ofPath?_iff_below he).mp h
    have ⟨route, hr, hl⟩ := getLast?_of_below hf hs
    rw [hr, Route.ofPath?_of_getLast? hl]
  case neg =>
    unfold ofPath? at h
    split at h
    case isTrue hp => cases h; rw [hp]; decide
    split at h
    case isTrue hp => cases h; rw [hp]; decide
    split at h
    case isTrue hp => cases h; rw [hp]; decide
    have ⟨_, _, hs⟩ := Option.bind_eq_some_iff.mp h
    have ⟨route, hr, _⟩ := exists_route hs
    cases e
    case previewInline => exact absurd rfl he
    case preview => exact absurd rfl he
    case run => exact absurd rfl he
    all_goals cases hr

-- Below a base path without names in it any segment may stand for an id, and nothing else is there.
theorem ofPath?_iff_of_isLiteral {base : List Char} (hb : Http.Pattern.IsLiteral base)
    (he : e.executes) : ofPath? (.ofText base) path = some e ↔
      path = base ++ "/preview".toList ∧ e = previewInline ∨
      ∃ id route, '/' ∉ id ∧ path = base ++ '/' :: id ++ '/' :: (Route.name route).toList ∧
        e = stored route [⟨"detector_id".toList, id⟩] := by
  have hs (route : Route) : Text.split '/' route.name.toList = [route.name.toList] := by
    cases route <;> decide
  have inline : Text.split '/' path = Text.split '/' base ++ [Route.preview.name.toList] ↔
      path = base ++ "/preview".toList := by
    rw [← hs, ← Text.split_append, Text.split_inj]
    rfl
  have withId {id : List Char} (hi : '/' ∉ id) (route : Route) :
      Text.split '/' path = Text.split '/' base ++ [id, route.name.toList] ↔
        path = base ++ '/' :: id ++ '/' :: route.name.toList := by
    have hp : [id, route.name.toList] = [id] ++ [route.name.toList] := rfl
    rw [hp, ← hs, ← Text.split_of_notMem hi, ← List.append_assoc, ← Text.split_append,
      ← Text.split_append, Text.split_inj]
  simp only [ofPath?_iff_below he, Http.Pattern.front?_of_isLiteral hb, ofSegments?_iff]
  constructor
  case mp =>
    rintro ⟨_, segments, ⟨rfl, hp⟩, ⟨rfl, rfl⟩ | ⟨id, route, rfl, rfl⟩⟩
    · exact .inl ⟨inline.mp hp, rfl⟩
    · have hi : '/' ∉ id := (Text.of_mem_split (s := path) (by simp [hp])).right
      exact .inr ⟨id, route, hi, (withId hi route).mp hp, rfl⟩
  case mpr =>
    rintro (⟨hp, rfl⟩ | ⟨id, route, hi, hp, rfl⟩)
    · exact ⟨[], _, ⟨rfl, inline.mpr hp⟩, .inl ⟨rfl, rfl⟩⟩
    · exact ⟨[], _, ⟨rfl, (withId hi route).mpr hp⟩, .inr ⟨id, route, rfl, rfl⟩⟩

end Endpoint

section

variable {m : Type → Type} [Monad m] [LawfulMonad m] {P : α → Prop} {Q : β → Prop}

-- Whatever comes out has a property.
def Always (P : α → Prop) (x : m α) : Prop :=
  ∃ y : m {a // P a}, x = Subtype.val <$> y

theorem always_any (x : m α) : Always (fun _ => True) x :=
  ⟨(⟨·, trivial⟩) <$> x, by simp only [Functor.map_map, id_map']⟩

theorem Always.pure {a : α} (h : P a) : Always P (pure a : m α) :=
  ⟨Pure.pure ⟨a, h⟩, by rw [map_pure]⟩

theorem Always.bind {x : m α} {f : α → m β} (hx : Always P x) (hf : ∀ a, P a → Always Q (f a)) :
    Always Q (x >>= f) := by
  obtain ⟨y, rfl⟩ := hx
  choose g hg using hf
  refine ⟨y >>= fun a => g a.val a.property, ?_⟩
  rw [bind_map_left, map_bind]
  congr
  funext a
  exact hg a.val a.property

end

-- A response that tells of no route.
def TellsNoRoute (response : Http.Response) : Prop :=
  ∃ path, response.status = 404 ∧ response.body = (Refusal.noRoute path).response.body

theorem not_tellsNoRoute_of_status {response : Http.Response} (status : Nat)
    (hs : response.status = status) (hn : status ≠ 404) : ¬TellsNoRoute response :=
  fun ⟨_, h, _⟩ => hn (hs.symm.trans h)

theorem not_tellsNoRoute_of_empty {response : Http.Response} (h : response.body = []) :
    ¬TellsNoRoute response := by
  rintro ⟨path, _, hb⟩
  cases h.symm.trans hb

theorem compact_error (s : String) : (Json.object [("error", .string s)]).compact =
    "\x7b\"error\":\"".toList ++ (s.toList.flatMap Json.escape ++ "\"\x7d".toList) := by
  have hk : "error".toList.flatMap Json.escape = "error".toList := by decide
  simp only [Json.compact, Json.compactMembers, Json.quoted, hk]
  simp

theorem toList_message_noRoute (path : String) : (Refusal.noRoute path).message.toList =
    'N' :: ("o execution route for ".toList ++ path.toList) := by
  have hl : "No execution route for ".toList = 'N' :: "o execution route for ".toList := by
    decide +kernel
  have hm : (Refusal.noRoute path).message = "No execution route for " ++ path := rfl
  rw [hm, String.toList_append, hl]
  exact List.cons_append

-- The first letter of a message tells it from those about routes.
theorem not_tellsNoRoute_error {status : Nat} {message : String} {c : Char} {rest : List Char}
    (hm : message.toList = c :: rest) (hc : Json.escape c = [c]) (hn : c ≠ 'N') :
    ¬TellsNoRoute (.error status message) := by
  rintro ⟨path, _, hb⟩
  have he := congrArg Text.glyphs hb
  simp only [Refusal.response, Http.Response.error, Http.Response.json, Text.glyphs_encode] at he
  have he := List.map_injective_iff.mpr (fun _ _ => Option.some_inj.mp) he
  rw [compact_error, compact_error, List.append_cancel_left_eq, hm, toList_message_noRoute,
    List.flatMap_cons, hc] at he
  exact hn (List.cons.inj he).left

theorem not_tellsNoRoute_unknown (status : Nat) (id : String) :
    ¬TellsNoRoute (.error status (Store.unknownMessage id)) := by
  have hl : "Can't find anomaly detector with id:".toList =
      'C' :: "an't find anomaly detector with id:".toList := by decide +kernel
  have hm : Store.unknownMessage id = "Can't find anomaly detector with id:" ++ id := rfl
  have hs := congrArg String.toList hm
  rw [String.toList_append, hl] at hs
  exact not_tellsNoRoute_error hs (by decide) (by decide)

theorem not_tellsNoRoute_noDetectorId : ¬TellsNoRoute Refusal.noDetectorId.response := by
  have hm : "Wrong input, no detector id".toList = 'W' :: "rong input, no detector id".toList := by
    decide +kernel
  exact not_tellsNoRoute_error hm (by decide) (by decide)

theorem not_tellsNoRoute_action (answer : Except Action.Fault Action.Response) :
    ¬TellsNoRoute (actionResponse answer) := by
  cases answer
  case ok r => exact not_tellsNoRoute_of_status 200 rfl (by decide)
  case error e =>
    cases e
    case noId | badTimestamp | emptyWindow => exact not_tellsNoRoute_of_status 400 rfl (by decide)
    case unknownDetector id => exact not_tellsNoRoute_unknown 404 id
    case store | corruptDetector | engine => exact not_tellsNoRoute_of_status 500 rfl (by decide)

theorem not_tellsNoRoute_update (settings : Settings) (r : Http.Request) :
    ¬TellsNoRoute (update settings r).1 := by
  unfold update
  split
  case isTrue => exact not_tellsNoRoute_of_status 415 rfl (by decide)
  case isFalse =>
  split
  case isTrue => exact not_tellsNoRoute_of_status 413 rfl (by decide)
  case isFalse =>
  split
  case h_1 => exact not_tellsNoRoute_of_status 200 rfl (by decide)
  case h_2 e _ =>
    change ¬TellsNoRoute (unreadableUpdate e)
    unfold unreadableUpdate
    split
    case isTrue => exact not_tellsNoRoute_of_status 400 rfl (by decide)
    case isFalse => exact not_tellsNoRoute_of_status 422 rfl (by decide)

section

variable {m : Type → Type} [Monad m] [LawfulMonad m] (c : Collaborators m) (settings : Settings)
  {path : List Char} {r : Http.Request} {e : Endpoint}

theorem always_preview (d : Detector) (start stop : Instant) :
    Always (¬TellsNoRoute ·) (preview c d start stop) := by
  refine (always_any _).bind fun outcome _ => ?_
  cases outcome
  case ok => exact .pure (not_tellsNoRoute_of_status 200 rfl (by decide))
  case error => exact .pure (not_tellsNoRoute_of_status 500 rfl (by decide))

theorem always_resolve (id : String) :
    Always (fun outcome => ∀ e : Refusal, outcome = .error e → ¬TellsNoRoute e.response)
      (resolve c.lookup id) := by
  refine (always_any _).bind fun outcome _ => ?_
  cases outcome
  case error e =>
    refine .pure fun _ h => ?_
    cases h
    exact not_tellsNoRoute_of_status 500 rfl (by decide)
  case ok answer =>
    dsimp only
    cases answer.document?
    case none =>
      refine .pure fun _ h => ?_
      cases h
      exact not_tellsNoRoute_unknown 404 id
    case some source =>
      refine .pure fun _ h => ?_
      obtain ⟨fault, _, rfl⟩ := Outcome.mapError_eq_error.mp h
      exact not_tellsNoRoute_of_status 500 rfl (by decide)

-- A dispatcher that knows the route has no answer that there is none.
theorem always_dispatch {route : Route} (hr : Route.ofPath? path = some route) (id : Option String)
    (body : Octets) : Always (¬TellsNoRoute ·) (dispatch c settings id path body) := by
  unfold dispatch
  simp only [hr]
  split
  case h_1 => exact .pure (not_tellsNoRoute_of_status 400 rfl (by decide))
  case h_2 input _ =>
  split
  case h_1 => exact .pure (not_tellsNoRoute_of_status 400 rfl (by decide))
  case h_2 => exact (always_any _).bind fun answer _ => .pure (not_tellsNoRoute_action answer)
  case h_3 given start stop _ =>
  split
  case h_1 d _ =>
    split
    case h_1 => exact .pure (not_tellsNoRoute_of_status 400 rfl (by decide))
    case h_2 => exact always_preview c d start stop
  case h_2 =>
  split
  case h_1 => exact .pure not_tellsNoRoute_noDetectorId
  case h_2 given _ =>
  refine (always_resolve c given).bind fun outcome hs => ?_
  cases outcome
  case error e => exact .pure (hs e rfl)
  case ok d => exact always_preview c d start stop

theorem always_serveDetector {route : Route} (hr : Route.ofPath? r.path = some route)
    (path : Option (List Http.Parameter)) :
    Always (¬TellsNoRoute ·) (serveDetector c settings path r) := by
  unfold serveDetector
  split
  case h_1 e _ =>
    cases e
    case unreadable => exact .pure (not_tellsNoRoute_of_status 400 rfl (by decide))
    case count => exact .pure (not_tellsNoRoute_of_status 500 rfl (by decide))
  case h_2 id _ =>
    split
    case isTrue => exact .pure (not_tellsNoRoute_of_status 413 rfl (by decide))
    case isFalse => exact always_dispatch c settings hr id r.body

theorem always_serve (hr : Route.ofPath? r.path = e.route?) :
    Always (fun p => ¬TellsNoRoute p.1) (serve c settings r e) := by
  cases e
  case health => exact .pure (not_tellsNoRoute_of_status 200 rfl (by decide))
  case openApi => exact .pure (not_tellsNoRoute_of_status 200 rfl (by decide))
  case settings =>
    change Always _ (if r.method = "PUT" then pure (update settings r) else _)
    split
    case isTrue => exact .pure (not_tellsNoRoute_update settings r)
    case isFalse => exact .pure (not_tellsNoRoute_of_status 200 rfl (by decide))
  all_goals exact (always_serveDetector c settings hr _).bind fun _ h => .pure h

-- Headers are added and bodies are left out, but no body changes to another.
theorem always_answer (hr : Route.ofPath? r.path = e.route?) :
    Always (fun p => ¬TellsNoRoute p.1) (answer c settings r e) := by
  have unheard {response : Http.Response} (h : ¬TellsNoRoute response) :
      ¬TellsNoRoute (if r.method = "HEAD" then response.withoutBody else response) := by
    split
    case isTrue => exact not_tellsNoRoute_of_empty rfl
    case isFalse => exact h
  unfold answer
  dsimp only
  split
  case isTrue =>
    rw [pure_bind]
    refine .pure (unheard ?_)
    split <;> exact not_tellsNoRoute_of_status 500 rfl (by decide)
  case isFalse =>
    split
    case isTrue => exact (always_serve c settings hr).bind fun p h => .pure (unheard h)
    case isFalse =>
      rw [pure_bind]
      exact .pure (unheard (not_tellsNoRoute_of_status 405 rfl (by decide)))

variable (r) in
-- There are no routes but for paths that lead to no endpoint, and these are answered without words.
theorem always_respond (site : Site) :
    Always (fun p => ¬TellsNoRoute p.1) (respond c site settings r) := by
  unfold respond
  split
  case h_1 => exact .pure (not_tellsNoRoute_of_empty rfl)
  case h_2 e he =>
    split
    case isTrue => exact .pure (not_tellsNoRoute_of_status 200 rfl (by decide))
    case isFalse =>
      exact (always_answer c settings (Endpoint.ofPath?_eq_route? he)).bind fun _ h => .pure h

omit [LawfulMonad m] in
-- Nothing of a path matters to a dispatcher but the route.
theorem dispatch_congr {path' : List Char} {route : Route} (hr : Route.ofPath? path = some route)
    (hr' : Route.ofPath? path' = some route) (id : Option String) (body : Octets) :
    dispatch c settings id path body = dispatch c settings id path' body := by
  simp only [dispatch, hr, hr']

end

-- Other collaborators that do what a route asks of them as these do. A preview has nothing to ask
-- of the result action, and a run nothing of anybody else.
def Collaborators.AgreesOn {m : Type → Type} (c c' : Collaborators m) : Route → Prop
  | .preview => c'.lookup = c.lookup ∧ c'.detect = c.detect
  | .run => c'.act = c.act

section

variable {m : Type → Type} [Monad m] {c c' : Collaborators m} {settings : Settings}
  {path : List Char} {r : Http.Request} {e : Endpoint} {route : Route}

theorem dispatch_of_agreesOn (ha : c.AgreesOn c' route) (hr : Route.ofPath? path = some route)
    (id : Option String) (body : Octets) :
    dispatch c' settings id path body = dispatch c settings id path body := by
  obtain ⟨lookup, detect, act⟩ := c
  obtain ⟨lookup', detect', act'⟩ := c'
  cases hb : Execution.Input.ofBody body id
  case error => simp only [dispatch, hr, hb]
  case ok input =>
  cases hp : input.plan route
  case error => simp only [dispatch, hr, hb, hp]
  case ok plan =>
  cases route
  case preview =>
    cases plan
    case run => exact absurd hp Execution.Input.plan_preview_ne_run
    case preview =>
      obtain ⟨rfl, rfl⟩ := ha
      simp only [dispatch, hr, hb, hp]
      rfl
  case run =>
    cases plan
    case preview => exact absurd hp Execution.Input.plan_run_ne_preview
    case run =>
      obtain rfl := ha
      simp only [dispatch, hr, hb, hp]

theorem serve_of_agreesOn (ha : c.AgreesOn c' route) (hr : Route.ofPath? r.path = some route) :
    serve c' settings r e = serve c settings r e := by
  have hs (path : Option (List Http.Parameter)) :
      serveDetector c' settings path r = serveDetector c settings path r := by
    simp only [serveDetector, dispatch_of_agreesOn ha hr]
  cases e <;> simp only [serve, hs]

theorem respond_of_agreesOn {site : Site} (ha : c.AgreesOn c' route)
    (hr : Route.ofPath? r.path = some route) :
    respond c' site settings r = respond c site settings r := by
  simp only [respond, answer, serve_of_agreesOn ha hr]

end

-- The routes of a site, told from the path alone: they are those of the endpoints, whatever stands
-- for an id, so that nothing is executed on the route of another endpoint or on none. It makes no
-- difference what those would do whom a route has nothing to ask.
theorem classified_as_routed (site : Site) :
    (∀ path, Endpoint.ofPath? (.ofText site.basePath.toList) path = some .previewInline →
      Route.ofPath? path = some .preview) ∧
    (∀ path ps, Endpoint.ofPath? (.ofText site.basePath.toList) path = some (.preview ps) →
      Route.ofPath? path = some .preview) ∧
    (∀ path ps, Endpoint.ofPath? (.ofText site.basePath.toList) path = some (.run ps) →
      Route.ofPath? path = some .run) ∧
    (∀ {m : Type → Type} [Monad m] [LawfulMonad m] (c : Collaborators m) (settings : Settings),
      (∀ r, Always (fun p => ¬TellsNoRoute p.1) (respond c site settings r)) ∧
      ∀ path e route, Endpoint.ofPath? (.ofText site.basePath.toList) path = some e →
        e.route? = some route → (∀ id body, dispatch c settings id path body =
          dispatch c settings id ('/' :: route.name.toList) body) ∧
        ∀ c' r, r.path = path → c.AgreesOn c' route →
          respond c' site settings r = respond c site settings r) ∧
    (Http.Pattern.IsLiteral site.basePath.toList → ∀ id, '/' ∉ id → ∀ route : Route,
      Endpoint.ofPath? (.ofText site.basePath.toList)
          (site.basePath.toList ++ '/' :: id ++ '/' :: route.name.toList) =
        some (.stored route [⟨"detector_id".toList, id⟩])) := by
  refine ⟨fun path h => Endpoint.ofPath?_eq_route? h, fun path ps h => Endpoint.ofPath?_eq_route? h,
    fun path ps h => Endpoint.ofPath?_eq_route? h,
    fun c settings => ⟨fun r => always_respond c settings r site, fun path e route he hr => ?same⟩,
    fun hb id hi route => ?reached⟩
  case same =>
    have ht : Route.ofPath? path = some route := (Endpoint.ofPath?_eq_route? he).trans hr
    have hp : Route.ofPath? ('/' :: route.name.toList) = some route := by cases route <;> decide
    refine ⟨dispatch_congr c settings ht hp, fun c' r h ha => ?_⟩
    exact respond_of_agreesOn ha (h ▸ ht)
  case reached =>
    have he : (Endpoint.stored route [⟨"detector_id".toList, id⟩]).executes := by
      cases route <;> rfl
    exact (Endpoint.ofPath?_iff_of_isLiteral hb he).mpr (.inr ⟨id, route, hi, rfl, rfl⟩)

-- Ids that are spelled like routes, and one with a slash in it that is no slash of the path.
theorem classified_as_routed_confusing :
    let site : Site := ⟨"/d", "*"⟩
    let sent (path : String) : Option Endpoint :=
      Endpoint.ofPath? (.ofText site.basePath.toList) path.toList
    let stored (route : Route) (id : String) : Option Endpoint :=
      some (.stored route [⟨"detector_id".toList, id.toList⟩])
    sent "/d/preview" = some .previewInline ∧ Route.ofPath? "/d/preview".toList = some .preview ∧
    sent "/d/run/preview" = stored .preview "run" ∧
    Route.ofPath? "/d/run/preview".toList = some .preview ∧
    sent "/d/preview/run" = stored .run "preview" ∧
    Route.ofPath? "/d/preview/run".toList = some .run ∧
    sent "/d/a%2Frun/preview" = stored .preview "a%2Frun" ∧
    Route.ofPath? "/d/a%2Frun/preview".toList = some .preview ∧
    sent "/d/run" = none := by
  intro site sent stored
  have ⟨hi, hp, hr, _, hs⟩ := classified_as_routed site
  have hl : Http.Pattern.IsLiteral site.basePath.toList := by decide
  -- The text of the path as the theorem puts it together.
  have spelled (route : Route) (id path : String)
      (hp : site.basePath.toList ++ '/' :: id.toList ++ '/' :: route.name.toList = path.toList)
      (hi : '/' ∉ id.toList) : sent path = stored route id :=
    (congrArg (Endpoint.ofPath? (.ofText site.basePath.toList)) hp.symm).trans (hs hl _ hi route)
  have h₀ : sent "/d/preview" = some .previewInline := by decide +kernel
  have h₁ := spelled .preview "run" "/d/run/preview" (by decide +kernel) (by decide)
  have h₂ := spelled .run "preview" "/d/preview/run" (by decide +kernel) (by decide)
  have h₃ := spelled .preview "a%2Frun" "/d/a%2Frun/preview" (by decide +kernel) (by decide)
  exact ⟨h₀, hi _ h₀, h₁, hp _ _ h₁, h₂, hr _ _ h₂, h₃, hp _ _ h₃, by decide +kernel⟩

end Service
end AnomalyDetection

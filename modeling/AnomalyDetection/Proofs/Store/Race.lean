import AnomalyDetection.Proofs.Store.Import
import AnomalyDetection.Proofs.Store.Layout
import Mathlib.Data.List.Induction
import Mathlib.Data.List.Infix
import Mathlib.Logic.Function.Basic

namespace AnomalyDetection.Store

open Envelope (documentOf tooDeep)
open Files (Place)
open Json (nestingLimit)

namespace Race

inductive Side
  | first
  | second
  deriving DecidableEq

instance {P : Side → Prop} [DecidablePred P] : Decidable (∀ x, P x) :=
  decidable_of_iff (P .first ∧ P .second)
    ⟨fun h x => match x with | .first => h.left | .second => h.right, fun h => ⟨h _, h _⟩⟩

-- The steps of a write: it reads the envelope that is there, writes the next one beside it, and
-- moves that into its place.
inductive Step
  | read
  | draft
  | commit
  deriving DecidableEq

abbrev Event := Side × Step

def steps (x : Side) : List Event := [(x, .read), (x, .draft), (x, .commit)]

-- All steps of both writes, those of each in their order.
def Schedule (es : List Event) : Prop := ∀ x, es.filter (·.1 = x) = steps x

-- How far a write has come, with the version that it goes on with.
inductive Stage (ν ε : Type)
  | begun
  | read (version : ν)
  | drafted (version : ν)
  | done (answer : Except ε ν)
  deriving DecidableEq

-- The step that a write takes next, unless it is over.
def Stage.next? : Stage ν ε → Option Step
  | begun => some .read
  | read _ => some .draft
  | drafted _ => some .commit
  | done _ => none

end Race

open Race (Side Step Event Stage)

-- Two imports at the same time. Each has a store of its own, and with it a lock of its own, so
-- nothing but the file system stands between their steps.
structure Race where
  files : FileSystem
  stage : Side → Stage UInt64 Fault

namespace Race

-- A step of one write. A write that is over takes no more steps.
def advance (dir id : String) (d : Detector) (fs : FileSystem) (e : Step)
    (stage : Stage UInt64 Fault) : Stage UInt64 Fault × FileSystem :=
  match e, stage with
  | .read, .begun =>
    match (File.envelope? fs dir id).bind File.nextVersion with
    | .ok version => (.read version, fs)
    | .error e => (.done (.error e), fs)
  | .draft, .read version =>
    match File.draft fs dir id ⟨version, documentOf d⟩ with
    | .ok fs => (.drafted version, fs)
    | .error e => (.done (.error e), fs)
  | .commit, .drafted version =>
    match File.commit fs dir id with
    | .ok fs => (.done (.ok version), fs)
    | .error e => (.done (.error e), fs)
  | _, stage => (stage, fs)

section

variable (dir id : String) (d : Side → Detector)

def step (r : Race) (e : Event) : Race :=
  let (stage, files) := advance dir id (d e.1) r.files e.2 (r.stage e.1)
  ⟨files, Function.update r.stage e.1 stage⟩

def start (fs : FileSystem) : Race := ⟨fs, fun _ => .begun⟩

def run (fs : FileSystem) (es : List Event) : Race := es.foldl (step dir id d) (start fs)

end

-- Why a write fails although there was nothing wrong when it began.
inductive Trouble
  | unreadable
  | spent
  | gone
  deriving DecidableEq

instance {P : Option Trouble → Prop} [DecidablePred P] : Decidable (∀ t, P t) :=
  decidable_of_iff (P none ∧ P (some .unreadable) ∧ P (some .spent) ∧ P (some .gone))
    ⟨fun ⟨h₁, h₂, h₃, h₄⟩ t => match t with
      | none => h₁
      | some .unreadable => h₂
      | some .spent => h₃
      | some .gone => h₄, fun h => ⟨h _, h _, h _, h _⟩⟩

def Trouble.fault : Trouble → Fault
  | unreadable => tooDeep
  | spent => .task .overflow
  | gone => .file .notFound

-- An envelope that one of the writes makes, so many versions after the first that both could write.
abbrev Mark := Side × Nat

-- What the writes make of the two files of the id. As long as nothing is said about a file, it is
-- as it was at the start; a draft may also be gone.
structure Sketch where
  target : Option Mark
  draft : Option (Option Mark)
  stage : Side → Stage Nat Trouble

namespace Sketch

def blank : Sketch := ⟨none, none, fun _ => .begun⟩

def go (s : Sketch) (x : Side) (stage : Stage Nat Trouble) : Sketch :=
  { s with stage := Function.update s.stage x stage }

-- A step, given what keeps a write from going on from the envelope of either side.
def step (bar : Side → Option Trouble) (s : Sketch) : Event → Sketch
  | (x, e) =>
    match e, s.stage x with
    | .read, .begun =>
      match s.target with
      | none => s.go x (.read 0)
      | some (y, k) => s.go x ((bar y).elim (.read (k + 1)) fun t => .done (.error t))
    | .draft, .read k => { s.go x (.drafted k) with draft := some (some (x, k)) }
    | .commit, .drafted k =>
      match s.draft with
      | some (some w) => { s.go x (.done (.ok k)) with target := some w, draft := some none }
      | _ => s.go x (.done (.error .gone))
    | _, _ => s

def run (bar : Side → Option Trouble) (es : List Event) : Sketch := es.foldl (step bar) blank

end Sketch

variable {fs : FileSystem} {dir id : String} {p q : Place} {before : Option Envelope}
  {d : Side → Detector} {r : Race} {s : Sketch}

-- The places of an id that can be written to.
structure Ready (fs : FileSystem) (dir id : String) (p q : Place) (before : Option Envelope) :
    Prop where
  draft : fs.Takes (File.draftPath dir id) p
  target : fs.Takes (File.path dir id) q
  apart : p ≠ q
  found : File.envelope? fs dir id = .ok before

theorem ready_of_put {fs' : FileSystem} {d : Detector} {n : UInt64}
    (h : File.put fs dir id d = (.ok n, fs')) :
    ∃ p q before, Ready fs dir id p q before ∧ File.nextVersion before = .ok n := by
  have ⟨p, q, hw⟩ := File.wrote_of_put h
  have ⟨before, hb, hn⟩ := hw.found
  exact ⟨p, q, before, ⟨hw.draft, hw.target, hw.apart, hb⟩, hn⟩

def envelope (n : UInt64) (d : Side → Detector) (w : Mark) : Envelope :=
  ⟨n + .ofNat w.2, documentOf (d w.1)⟩

def Stage.shown (n : UInt64) : Stage Nat Trouble → Stage UInt64 Fault
  | .begun => .begun
  | .read k => .read (n + .ofNat k)
  | .drafted k => .drafted (n + .ofNat k)
  | .done (.ok k) => .done (.ok (n + .ofNat k))
  | .done (.error e) => .done (.error e.fault)

theorem envelope_zero {n : UInt64} {x : Side} : envelope n d (x, 0) = ⟨n, documentOf (d x)⟩ :=
  congrArg (Envelope.mk · _) (UInt64.add_zero n)

theorem shown_zero {n : UInt64} : Stage.shown n (.done (.ok 0)) = .done (.ok n) :=
  congrArg (fun v => Stage.done (.ok v)) (UInt64.add_zero n)

-- A race that is as a sketch shows it.
structure Shows (fs : FileSystem) (p q : Place) (n : UInt64) (d : Side → Detector) (r : Race)
    (s : Sketch) : Prop where
  keeps : fs.KeepsDirectories r.files
  target : r.files.entry? q =
    match s.target with
    | none => fs.entry? q
    | some w => some (.file (envelope n d w).content)
  draft : ∀ w, s.draft = some w → r.files.entry? p = w.map fun w => .file (envelope n d w).content
  free : r.files.entry? p ≠ some .directory
  stage : r.stage = Stage.shown n ∘ s.stage
  drafted : ∀ x k, s.stage x = .drafted k → s.draft ≠ none

-- What keeps a write from going on from an envelope with the first version and the document of
-- either side.
def bar (n : UInt64) (d : Side → Detector) (x : Side) : Option Trouble :=
  if nestingLimit ≤ (documentOf (d x)).depth then some .unreadable
  else if n.toNat + 1 < UInt64.size then none
  else some .spent

theorem step_of_advance {x : Side} {e : Step} {stage : Stage UInt64 Fault} {files : FileSystem}
    (h : advance dir id (d x) r.files e (r.stage x) = (stage, files)) :
    r.step dir id d (x, e) = ⟨files, Function.update r.stage x stage⟩ := by
  simp only [step, h]

-- A write that is not there yet, or already over, leaves everything as it is.

theorem advance_idle {d : Detector} {e : Step} {stage : Stage UInt64 Fault}
    (h : stage.next? ≠ some e) : advance dir id d fs e stage = (stage, fs) := by
  cases stage <;> cases e <;> first | rfl | exact absurd rfl h

theorem Sketch.step_idle {bar : Side → Option Trouble} {x : Side} {e : Step}
    (h : (s.stage x).next? ≠ some e) : s.step bar (x, e) = s := by
  unfold step
  dsimp only
  cases hs : s.stage x <;> rw [hs] at h <;> cases e <;> first | rfl | exact absurd rfl h

theorem Stage.next?_shown {n : UInt64} {stage : Stage Nat Trouble} :
    (stage.shown n).next? = stage.next? := by
  rcases stage with _ | _ | _ | _ | _ <;> rfl

namespace Shows

variable {n : UInt64}

theorem stage_eq (h : Shows fs p q n d r s) {x : Side} {stage : Stage Nat Trouble}
    (hs : s.stage x = stage) : r.stage x = stage.shown n :=
  hs ▸ congrFun h.stage x

theorem start (h : Ready fs dir id p q before) : Shows fs p q n d (start fs) .blank where
  keeps := ⟨rfl, fun _ h => h⟩
  target := rfl
  draft := nofun
  free := h.draft.free
  stage := rfl
  drafted := nofun

theorem takes (h : Shows fs p q n d r s) (hr : Ready fs dir id p q before) :
    r.files.Takes (File.path dir id) q := by
  refine ⟨h.keeps.locate hr.target.located, ?_⟩
  rw [h.target]
  split
  case h_1 => exact hr.target.free
  case h_2 => exact nofun

-- What a write goes on with, as long as nobody has gone on from the envelope that is there.
theorem nextVersion (h : Shows fs p q n d r s) (hr : Ready fs dir id p q before)
    (hf : ∀ x y, (d x).Mentions (.float y) → (Json.Number.float y).ReadsBack)
    (hn : File.nextVersion before = .ok n) (hw : ∀ w, s.target = some w → w.2 = 0) :
    (File.envelope? r.files dir id).bind File.nextVersion =
      match s.target with
      | none => .ok n
      | some w => (bar n d w.1).elim (.ok (n + .ofNat (w.2 + 1))) fun t => .error t.fault := by
  have hl := h.keeps.locate hr.target.located
  have ht := h.target
  split at ht
  case h_1 =>
    have he : r.files.read (File.path dir id) = fs.read (File.path dir id) := by
      refine FileSystem.read_congr (hl.trans hr.target.located.symm) fun q' hq => ?_
      cases hr.target.located.symm.trans hq
      exact ht
    have hb : File.envelope? r.files dir id = .ok before := by
      rw [← hr.found, File.envelope?, File.envelope?, he]
    rw [hb]
    exact hn
  case h_2 w hs =>
    obtain ⟨y, k⟩ := w
    cases hw _ hs
    have he : r.files.read (File.path dir id) = .ok (envelope n d (y, 0)).content :=
      FileSystem.read_eq_ok.mpr ⟨_, hl, ht⟩
    rw [envelope_zero] at he
    have hb : File.envelope? r.files dir id = _ :=
      File.envelope?_of_content he (Envelope.readsBack_documentOf (hf y) n)
    rw [hb, bar]
    by_cases hd : (documentOf (d y)).depth < nestingLimit
    case neg => rw [if_neg hd, if_pos (Nat.le_of_not_lt hd)]; rfl
    case pos =>
      rw [if_pos hd, if_neg (Nat.not_le_of_lt hd)]
      split
      case isTrue hv =>
        have hs : File.nextVersion (some ⟨n, documentOf (d y)⟩) = .ok (n + 1) :=
          File.nextVersion_eq_ok.mpr (toNat_succ hv)
        exact hs
      case isFalse hv =>
        have hs : File.nextVersion (some ⟨n, documentOf (d y)⟩) = .error (.task .overflow) :=
          File.nextVersion_eq_error.mpr ⟨hv, rfl⟩
        exact hs

-- Only one write's stage is another one.
theorem go (h : Shows fs p q n d r s) (x : Side) {stage : Stage Nat Trouble}
    (hd : ∀ k, stage = .drafted k → s.draft ≠ none) :
    Shows fs p q n d ⟨r.files, Function.update r.stage x (stage.shown n)⟩ (s.go x stage) where
  keeps := h.keeps
  target := h.target
  draft := h.draft
  free := h.free
  stage := by rw [h.stage, Sketch.go, Function.comp_update]
  drafted y k hk := by
    by_cases he : y = x
    case pos => subst he; exact hd k (by simpa [Sketch.go] using hk)
    case neg => exact h.drafted y k (by simpa [Sketch.go, he] using hk)

section

variable (h : Shows fs p q n d r s) (hr : Ready fs dir id p q before) {x : Side} {k : Nat}

include h hr

theorem step_read (hf : ∀ x y, (d x).Mentions (.float y) → (Json.Number.float y).ReadsBack)
    (hn : File.nextVersion before = .ok n) (hw : ∀ w, s.target = some w → w.2 = 0)
    (hs : s.stage x = .begun) :
    Shows fs p q n d (r.step dir id d (x, .read)) (s.step (bar n d) (x, .read)) := by
  have he := h.nextVersion hr hf hn hw
  have advanced {stage : Stage Nat Trouble}
      (ha : advance dir id (d x) r.files .read .begun = (stage.shown n, r.files))
      (hd : ∀ k, stage = .drafted k → s.draft ≠ none) :
      Shows fs p q n d (r.step dir id d (x, .read)) (s.go x stage) := by
    have hx : r.stage x = .begun := h.stage_eq hs
    rw [step_of_advance (hx ▸ ha)]
    exact h.go x hd
  simp only [Sketch.step, hs]
  split
  case h_1 ht =>
    rw [ht] at he
    refine advanced ?_ nofun
    simp only [advance, he]
    exact congrArg (fun v => (Stage.read v, r.files)) (UInt64.add_zero n).symm
  case h_2 y k ht =>
    rw [ht] at he
    dsimp only at he
    cases hb : bar n d y <;> rw [hb] at he <;>
      exact advanced (by simp only [advance, he]; rfl) nofun

theorem step_draft (hs : s.stage x = .read k) :
    Shows fs p q n d (r.step dir id d (x, .draft)) (s.step (bar n d) (x, .draft)) := by
  have ht : r.files.Takes (File.draftPath dir id) p :=
    ⟨h.keeps.locate hr.draft.located, h.free⟩
  have ha : advance dir id (d x) r.files .draft (r.stage x) = ((Stage.drafted k).shown n,
      r.files.set p (.file (envelope n d (x, k)).content)) := by
    unfold advance
    simp only [h.stage_eq hs, Stage.shown, File.draft, ht.write, Except.mapError, envelope]
  rw [step_of_advance ha]
  simp only [Sketch.step, hs]
  exact {
    keeps := h.keeps.trans (FileSystem.keepsDirectories_set h.free _)
    target := by
      rw [FileSystem.entry?_set _ _ _ _ hr.target.ne_nil, if_neg hr.apart.symm, h.target]
      rfl
    draft := by
      rintro w ⟨⟩
      rw [FileSystem.entry?_set _ _ _ _ hr.draft.ne_nil, if_pos rfl]
      rfl
    free := by
      rw [FileSystem.entry?_set _ _ _ _ hr.draft.ne_nil, if_pos rfl]
      intro he
      cases he
    stage := by rw [h.stage, Sketch.go, Function.comp_update]
    drafted := fun _ _ _ => Option.some_ne_none _ }

theorem step_commit (hs : s.stage x = .drafted k) :
    Shows fs p q n d (r.step dir id d (x, .commit)) (s.step (bar n d) (x, .commit)) := by
  have hx := h.stage_eq hs
  have hl := h.keeps.locate hr.draft.located
  simp only [Sketch.step, hs]
  split
  case h_1 w hw =>
    have hc : r.files.entry? p = some (.file (envelope n d w).content) := h.draft _ hw
    have ha : advance dir id (d x) r.files .commit (r.stage x) = ((Stage.done (.ok k)).shown n,
        r.files.moving p q (envelope n d w).content) := by
      unfold advance
      simp only [hx, Stage.shown, File.commit, FileSystem.Takes.rename hl hc (h.takes hr),
        Except.mapError]
    rw [step_of_advance ha]
    exact {
      keeps := h.keeps.trans (FileSystem.keepsDirectories_moving h.free (h.takes hr).free _)
      target := by
        rw [FileSystem.entry?_moving hr.target.ne_nil, if_pos rfl]
      draft := by
        rintro w ⟨⟩
        rw [FileSystem.entry?_moving hr.draft.ne_nil, if_neg hr.apart, if_pos rfl]
        rfl
      free := by
        rw [FileSystem.entry?_moving hr.draft.ne_nil, if_neg hr.apart, if_pos rfl]
        intro he
        cases he
      stage := by rw [h.stage, Sketch.go, Function.comp_update]
      drafted := fun _ _ _ => Option.some_ne_none _ }
  case h_2 hw =>
    -- What was drafted is there until one of the writes has moved it.
    have hm : r.files.entry? p = none := by
      cases hd : s.draft
      case none => exact absurd hd (h.drafted x k hs)
      case some w =>
        cases w
        case none => exact h.draft _ hd
        case some w => exact absurd hd (hw w)
    have ha : advance dir id (d x) r.files .commit (r.stage x) =
        ((Stage.done (.error .gone)).shown n, r.files) := by
      unfold advance
      simp only [hx, Stage.shown, File.commit,
        FileSystem.rename_of_missing hl hm (h.takes hr).located, Except.mapError]
      rfl
    rw [step_of_advance ha]
    exact h.go x fun _ he => by cases he

theorem step (hf : ∀ x y, (d x).Mentions (.float y) → (Json.Number.float y).ReadsBack)
    (hn : File.nextVersion before = .ok n) (e : Event)
    (hw : e.2 = .read → ∀ w, s.target = some w → w.2 = 0) :
    Shows fs p q n d (r.step dir id d e) (s.step (bar n d) e) := by
  obtain ⟨x, e⟩ := e
  by_cases he : (s.stage x).next? = some e
  case neg =>
    have ha : advance dir id (d x) r.files e (r.stage x) = (r.stage x, r.files) :=
      advance_idle (by rwa [h.stage_eq rfl, Stage.next?_shown])
    rw [step_of_advance ha, Function.update_eq_self, Sketch.step_idle he]
    exact h
  case pos =>
    cases hs : s.stage x <;> rw [hs] at he <;> cases he
    case begun => exact h.step_read hr hf hn (hw rfl) hs
    case read => exact h.step_draft hr hs
    case drafted => exact h.step_commit hr hs

end

end Shows

-- Which of two events comes first.
def Precedes (es : List Event) (e f : Event) : Prop := [e, f].Sublist es

instance (es : List Event) (e f : Event) : Decidable (Precedes es e f) :=
  inferInstanceAs (Decidable ([e, f].Sublist es))

-- One write is over before the other begins.
abbrev InTurn (es : List Event) (a b : Side) : Prop := Precedes es (a, .commit) (b, .read)

-- Both have read the same, and one is over before the other writes its draft.
abbrev Overtaken (es : List Event) (a b : Side) : Prop :=
  Precedes es (b, .read) (a, .commit) ∧ Precedes es (a, .commit) (b, .draft)

-- The draft of one is written over that of the other.
abbrev Overwritten (es : List Event) (a b : Side) : Prop :=
  Precedes es (a, .draft) (b, .draft) ∧ Precedes es (b, .draft) (a, .commit)

abbrev Meets (es : List Event) (a b : Side) : Prop :=
  InTurn es a b ∨ Overtaken es a b ∨ Overwritten es a b

-- The lists that are made of two others, each of which keeps its order.
def interleavings : List α → List α → List (List α)
  | [] => fun ys => [ys]
  | x :: xs => mixed x xs (interleavings xs)
where
  mixed (x : α) (xs : List α) (rest : List α → List (List α)) : List α → List (List α)
    | [] => [x :: xs]
    | y :: ys => (rest (y :: ys)).map (x :: ·) ++ (mixed x xs rest ys).map (y :: ·)

theorem interleavings_nil (xs : List α) : interleavings xs [] = [xs] := by
  cases xs <;> rfl

theorem cons_mem_interleavings {x : α} {xs ys zs : List α} (h : zs ∈ interleavings xs ys) :
    x :: zs ∈ interleavings (x :: xs) ys := by
  cases ys
  case nil =>
    rw [interleavings_nil] at h ⊢
    rw [List.mem_singleton.mp h]
    exact List.mem_singleton_self _
  case cons => exact List.mem_append_left _ (List.mem_map_of_mem h)

theorem mem_interleavings_cons {y : α} {xs ys zs : List α} (h : zs ∈ interleavings xs ys) :
    y :: zs ∈ interleavings xs (y :: ys) := by
  cases xs
  case nil =>
    rw [List.mem_singleton.mp h]
    exact List.mem_singleton_self _
  case cons => exact List.mem_append_right _ (List.mem_map_of_mem h)

theorem mem_interleavings (es : List Event) :
    es ∈ interleavings (es.filter (·.1 = .first)) (es.filter (·.1 = .second)) := by
  induction es
  case nil => exact List.mem_singleton_self _
  case cons e es hi =>
    obtain ⟨_ | _, e⟩ := e
    case first => simpa using cons_mem_interleavings hi
    case second => simpa using mem_interleavings_cons hi

namespace Sketch

variable {es : List Event}

-- There are twenty schedules, and it matters of each detector only what it keeps others from.
theorem forall_schedules {P : List Event → (Side → Option Trouble) → Side → Side → Prop}
    (h : Schedule es) (bar : Side → Option Trouble) (a b : Side)
    (hp : ∀ es ∈ interleavings (steps .first) (steps .second), ∀ u v : Option Trouble,
      ∀ a b : Side, P es (Side.rec u v) a b) : P es bar a b := by
  have hm := mem_interleavings es
  rw [h, h] at hm
  have hd : bar = Side.rec (bar .first) (bar .second) := funext fun x => by cases x <;> rfl
  exact hd ▸ hp es hm (bar .first) (bar .second) a b

-- Nobody has gone on from an envelope that is read.
theorem mark_of_read (h : Schedule es) (bar : Side → Option Trouble) {x : Side}
    {front : List Event} (hp : front ++ [(x, .read)] <+: es) :
    ∀ w, (run bar front).target = some w → w.2 = 0 :=
  have first := forall_schedules
    (P := fun es bar x _ => ∀ front ∈ es.inits, front ++ [(x, .read)] <+: es →
      ∀ w ∈ (run bar front).target, w.2 = 0) h bar x x (by decide +kernel)
  first front ((List.mem_inits ..).mpr ((List.prefix_append ..).trans hp)) hp

theorem inTurn (h : Schedule es) (bar : Side → Option Trouble) (a b : Side) : a ≠ b →
    InTurn es a b → (run bar es).stage a = .done (.ok 0) ∧
      (run bar es).stage b = (bar a).elim (.done (.ok 1)) (fun t => .done (.error t)) ∧
      (run bar es).target = some ((bar a).elim (b, 1) fun _ => (a, 0)) := by
  apply forall_schedules h bar a b
  decide +kernel

theorem overtaken (h : Schedule es) (bar : Side → Option Trouble) (a b : Side) : a ≠ b →
    Overtaken es a b → (run bar es).stage a = .done (.ok 0) ∧
      (run bar es).stage b = .done (.ok 0) ∧ (run bar es).target = some (b, 0) := by
  apply forall_schedules h bar a b
  decide +kernel

theorem overwritten (h : Schedule es) (bar : Side → Option Trouble) (a b : Side) : a ≠ b →
    Overwritten es a b → (run bar es).target = some (b, 0) ∧
      if Precedes es (a, .commit) (b, .commit) then
        (run bar es).stage a = .done (.ok 0) ∧ (run bar es).stage b = .done (.error .gone)
      else
        (run bar es).stage b = .done (.ok 0) ∧ (run bar es).stage a = .done (.error .gone) := by
  apply forall_schedules h bar a b
  decide +kernel

end Sketch

theorem Shows.run {n : UInt64} {es front : List Event} (hr : Ready fs dir id p q before)
    (hf : ∀ x y, (d x).Mentions (.float y) → (Json.Number.float y).ReadsBack)
    (hn : File.nextVersion before = .ok n) (hs : Schedule es) (hp : front <+: es) :
    Shows fs p q n d (run dir id d fs front) (Sketch.run (bar n d) front) := by
  induction front using List.reverseRecOn
  case nil => exact .start hr
  case append_singleton front e hi =>
    have hb : front <+: es := (List.prefix_append ..).trans hp
    rw [Race.run, Sketch.run, List.foldl_append, List.foldl_append]
    refine (hi hb).step hr hf hn e fun he w hw => ?_
    obtain ⟨x, e⟩ := e
    cases he
    exact Sketch.mark_of_read hs (bar n d) hp w hw

-- There is no other way for two writes to meet.
theorem Schedule.meets {es : List Event} (h : Schedule es) :
    Meets es .first .second ∨ Meets es .second .first := by
  have hm := mem_interleavings es
  rw [h, h] at hm
  have meets : ∀ es ∈ interleavings (steps .first) (steps .second),
      Meets es .first .second ∨ Meets es .second .first := by decide +kernel
  exact meets es hm

-- A write that nothing comes between is its three steps.
theorem run_steps (hv : isValidId id) (x : Side) :
    (run dir id d fs (steps x)).stage x = .done (File.put fs dir id (d x)).1 ∧
    (run dir id d fs (steps x)).files = (File.put fs dir id (d x)).2 := by
  simp only [run, steps, List.foldl, step, start, File.put, hv, Bool.not_true,
    Bool.false_eq_true, if_false, Function.update_self]
  cases he : File.envelope? fs dir id
  case error e => simp [advance, he, Except.bind]
  case ok before =>
  cases hn : File.nextVersion before
  case error e => simp [advance, he, Except.bind, hn]
  case ok version =>
  have hr : advance dir id (d x) fs .read .begun = (.read version, fs) := by
    simp only [advance, he, Except.bind, hn]
  simp only [hr, hn]
  cases hw : File.draft fs dir id ⟨version, documentOf (d x)⟩
  case error e => simp [advance, hw]
  case ok drafted => cases hc : File.commit drafted dir id <;> simp [advance, hw, hc]

-- How a race has ended for either side, and the envelope that is left.
structure Ends (dir id : String) (r : Race) (a b : Side) (answer answer' : Except Fault UInt64)
    (e : Envelope) : Prop where
  first : r.stage a = .done answer
  second : r.stage b = .done answer'
  left : r.files.read (File.path dir id) = .ok e.content

theorem Shows.ends {n : UInt64} {a b : Side} {answer answer' : Except Fault UInt64} {e : Envelope}
    {w : Mark} (h : Shows fs p q n d r s) (hr : Ready fs dir id p q before)
    (ha : (s.stage a).shown n = .done answer) (hb : (s.stage b).shown n = .done answer')
    (ht : s.target = some w) (he : envelope n d w = e) : Ends dir id r a b answer answer' e where
  first := (congrFun h.stage a).trans ha
  second := (congrFun h.stage b).trans hb
  left := by
    have hq := h.target
    rw [ht] at hq
    exact he ▸ FileSystem.read_eq_ok.mpr ⟨q, h.keeps.locate hr.target.located, hq⟩

-- Two imports under an id, of which each alone would be successful. Both are, and the second goes
-- on from the first, only if they take turns, and even then a detector that is too deep stops the
-- other one, and so does the last version there is. If not, one of the detectors is gone, whatever
-- the answers are.
theorem imports_at_once {made : FileSystem} {storedId : String} {path : Side → String}
    {id : Side → Option String} {source : Side → Octets} {n : UInt64} {es : List Event}
    (hr : ∀ x, fs.read (path x) = .ok (source x))
    (hd : ∀ x, Json.decodeText Detector.shape.decode (Text.glyphs (source x)) = .ok (d x))
    (hf : ∀ x y, (d x).Mentions (.float y) → (Json.Number.float y).ReadsBack)
    (hi : ∀ x, (importFile fs dir (path x) (id x)).1 = .ok (storedId, n))
    (hm : File.create fs dir = .ok made) (hs : Schedule es) :
    (∀ x, let r := run dir storedId d made (steps x)
      importFile fs dir (path x) (id x) = (.ok (storedId, n), r.files) ∧
        r.stage x = .done (.ok n)) ∧
    (Meets es .first .second ∨ Meets es .second .first) ∧
    ∀ a b, a ≠ b → let r := run dir storedId d made es
      (InTurn es a b →
        if (documentOf (d a)).depth < nestingLimit then
          if n.toNat + 1 < UInt64.size then
            Ends dir storedId r a b (.ok n) (.ok (n + 1)) ⟨n + 1, documentOf (d b)⟩
          else Ends dir storedId r a b (.ok n) (.error (.task .overflow)) ⟨n, documentOf (d a)⟩
        else Ends dir storedId r a b (.ok n) (.error tooDeep) ⟨n, documentOf (d a)⟩) ∧
      (Overtaken es a b → Ends dir storedId r a b (.ok n) (.ok n) ⟨n, documentOf (d b)⟩) ∧
      (Overwritten es a b →
        if Precedes es (a, .commit) (b, .commit) then
          Ends dir storedId r a b (.ok n) (.error (.file .notFound)) ⟨n, documentOf (d b)⟩
        else Ends dir storedId r a b (.error (.file .notFound)) (.ok n) ⟨n, documentOf (d b)⟩) := by
  have put (x : Side) : isValidId storedId ∧
      File.put made dir storedId (d x) =
        (.ok n, (importFile fs dir (path x) (id x)).2) := by
    have ⟨hx, made', hm', p, q, hw⟩ := wrote_of_import (hr x) (hd x) (Prod.ext (hi x) rfl)
    cases hm.symm.trans hm'
    have he := importFile_eq (hr x) (hd x) hx hm
    have ⟨v, hv, hn⟩ := Outcome.map_eq_ok (Outcome.mapError_eq_ok
      ((congrArg Prod.fst he).symm.trans (hi x)))
    cases hn
    exact ⟨hw.valid, Prod.ext hv (congrArg Prod.snd he).symm⟩
  have ⟨p, q, before, hy, hn⟩ := ready_of_put (put .first).right
  have hw : Shows made p q n d (run dir storedId d made es) (Sketch.run (bar n d) es) :=
    .run hy hf hn hs List.prefix_rfl
  refine ⟨?alone, hs.meets, fun a b hab => ⟨fun ho => ?inTurn, fun ho => ?overtaken,
    fun ho => ?overwritten⟩⟩
  case alone =>
    intro x r
    have ⟨hv, hp⟩ := put x
    have ⟨hx, hz⟩ : r.stage x = _ ∧ r.files = _ := run_steps hv x
    rw [hp] at hx hz
    exact ⟨Prod.ext (hi x) hz.symm, hx⟩
  case inTurn =>
    have ⟨ha, hb, ht⟩ := Sketch.inTurn hs (bar n d) a b hab ho
    by_cases hl : (documentOf (d a)).depth < nestingLimit
    case pos =>
      by_cases hv : n.toNat + 1 < UInt64.size
      case pos =>
        have hx : bar n d a = none := by rw [bar, if_neg (Nat.not_le_of_lt hl), if_pos hv]
        rw [hx] at hb ht
        rw [if_pos hl, if_pos hv]
        exact hw.ends hy (ha ▸ shown_zero) (hb ▸ rfl) ht rfl
      case neg =>
        have hx : bar n d a = some .spent := by
          rw [bar, if_neg (Nat.not_le_of_lt hl), if_neg hv]
        rw [hx] at hb ht
        rw [if_pos hl, if_neg hv]
        exact hw.ends hy (ha ▸ shown_zero) (hb ▸ rfl) ht envelope_zero
    case neg =>
      have hx : bar n d a = some .unreadable := by rw [bar, if_pos (Nat.le_of_not_lt hl)]
      rw [hx] at hb ht
      rw [if_neg hl]
      exact hw.ends hy (ha ▸ shown_zero) (hb ▸ rfl) ht envelope_zero
  case overtaken =>
    have ⟨ha, hb, ht⟩ := Sketch.overtaken hs (bar n d) a b hab ho
    exact hw.ends hy (ha ▸ shown_zero) (hb ▸ shown_zero) ht envelope_zero
  case overwritten =>
    have ⟨ht, hx⟩ := Sketch.overwritten hs (bar n d) a b hab ho
    split
    case isTrue hp =>
      rw [if_pos hp] at hx
      exact hw.ends hy (hx.left ▸ shown_zero) (hx.right ▸ rfl) ht envelope_zero
    case isFalse hp =>
      rw [if_neg hp] at hx
      exact hw.ends hy (hx.right ▸ rfl) (hx.left ▸ shown_zero) ht envelope_zero

-- Both answer with version 1, and nothing is left of the first detector.
theorem imports_at_once_overtaken :
    let d (x : Side) : Detector :=
      { Detector.blank with
        name := if x = .first then "n" else "m", timeField := "t", interval := ⟨1, .days⟩ }
    let path (x : Side) : String := if x = .first then "f" else "g"
    let source (x : Side) : Octets := Text.encode (d x).toJson.compact
    let fs : FileSystem := ⟨[(["d"], .directory), (["f"], .file (source .first)),
      (["g"], .file (source .second))], []⟩
    let es : List Event := [(.first, .read), (.second, .read), (.first, .draft), (.first, .commit),
      (.second, .draft), (.second, .commit)]
    (∀ x, (importFile fs "d" (path x) (some "a")).1 = .ok ("a", 1)) ∧
    File.create fs "d" = .ok fs ∧ Schedule es ∧
    Ends "d" "a" (run "d" "a" d fs es) .first .second (.ok 1) (.ok 1)
      ⟨1, documentOf (d .second)⟩ := by
  intro d path source fs es
  have hr (x : Side) : fs.read (path x) = .ok (source x) :=
    Outcome.eq_ok_of_toOption (by revert x; decide +kernel)
  have hd (x : Side) : Json.decodeText Detector.shape.decode (Text.glyphs (source x)) = .ok (d x) :=
    Outcome.eq_ok_of_toOption (by revert x; decide +kernel)
  have hf (x : Side) (y : Float) (h : (d x).Mentions (.float y)) :
      (Json.Number.float y).ReadsBack := by
    rcases h with ⟨_, hj, _⟩ | ⟨_, hf, _⟩ <;> contradiction
  have hi (x : Side) : (importFile fs "d" (path x) (some "a")).1 = .ok ("a", 1) :=
    Outcome.eq_ok_of_toOption (by revert x; decide +kernel)
  have hm : File.create fs "d" = .ok fs := by
    have ha : FileSystem.ancestry "d" = ["d"] := by decide +kernel
    rw [File.create, FileSystem.ensureDirectory, ha,
      FileSystem.makeDirectories_of_isDirectory (by decide +kernel)]
    rfl
  have hs : Schedule es := fun x => by cases x <;> rfl
  have ⟨_, _, h⟩ := imports_at_once hr hd hf hi hm hs
  exact ⟨hi, hm, hs, (h .first .second (by decide)).right.left (by decide)⟩

end Race
end AnomalyDetection.Store

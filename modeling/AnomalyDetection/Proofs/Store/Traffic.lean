import AnomalyDetection.Proofs.Store.Simulation
import Mathlib.Logic.Function.Basic

namespace AnomalyDetection

open Files (Place)

-- The place of the file behind a path, which is opened to be read.
def FileSystem.openFile (fs : FileSystem) (path : String) : Except FileFault Place := do
  let p ← fs.locate path
  match fs.entry? p with
  | some (.file _) => return p
  | some .directory => throw .isADirectory
  | none => throw .notFound

theorem FileSystem.openFile_eq_ok {fs : FileSystem} {path : String} {p : Place}
    (h : fs.openFile path = .ok p) :
    fs.locate path = .ok p ∧ ∃ content, fs.entry? p = some (.file content) := by
  have ⟨q, hl, h⟩ := Outcome.bind_eq_ok h
  split at h
  case h_1 content he => cases h; exact ⟨hl, content, he⟩
  case h_2 => cases h
  case h_3 => cases h

theorem FileSystem.openFile_eq_error {fs : FileSystem} {path : String} {e : FileFault}
    (h : fs.openFile path = .error e) : fs.read path = .error e := by
  unfold openFile at h
  unfold read
  cases hl : fs.locate path
  case error => rw [hl] at h; cases h; rfl
  case ok p =>
    simp only [hl, bind, Except.bind] at h ⊢
    rcases he : fs.entry? p with _ | content | _
    case none => rw [he] at h; cases h; rfl
    case some.file => rw [he] at h; cases h
    case some.directory => rw [he] at h; cases h; rfl

namespace Store

open Envelope (documentOf)

namespace File

-- What the content of an envelope's file is taken for.
def envelopeOf : Except FileFault Octets → Except Fault (Option Envelope)
  | .ok content => ((Envelope.ofContent content).map some).mapError .json
  | .error .notFound => .ok none
  | .error e => .error (.file e)

def answerOf (read : Except FileFault Octets) : Except Fault Answer :=
  (envelopeOf read).map fun e => .of (e.map Envelope.stored)

variable {fs : FileSystem} {dir id : String}

theorem envelope?_eq : envelope? fs dir id = envelopeOf (fs.read (path dir id)) := by
  unfold envelope? envelopeOf
  split <;> simp_all

theorem get_eq (hv : isValidId id) : get fs dir id = answerOf (fs.read (path dir id)) := by
  rw [get, if_pos hv, envelope?_eq]
  rfl

end File

namespace Traffic

-- An opened file, and what has been taken from it. It goes on to have its content once there is
-- another file at its place.
structure Opened where
  place : Place
  kept : Option Octets
  taken : Octets

def Opened.content (o : Opened) (fs : FileSystem) : Octets :=
  o.kept.getD <| match fs.entry? o.place with
    | some (.file content) => content
    | _ => []

-- Puts have the store's lock between them. Gets do not ask for it: they open the file of an
-- envelope and take what is in it bit by bit, and meanwhile another file may get its name.
inductive Step
  -- Those of a put, which writes its draft in any number of pieces and may fail with any of them.
  | lock
  | read
  | append (n : Nat)
  | finish
  | commit
  | unlock
  | fail (fault : FileFault)
  -- Those of a get, which takes the content of its file in any number of pieces.
  | look
  | take (n : Nat)
  | tell

abbrev Event := Nat × Step

-- How far a call has come.
inductive Stage
  | begun
  | locked
  | writing (version : UInt64) (written : Nat)
  | drafted (version : UInt64)
  | leaving (answer : Except Fault UInt64)
  | wrote (answer : Except Fault UInt64)
  | reading (file : Opened)
  | told (answer : Except Fault Answer)

-- A stage once another file gets a place.
def Stage.keep (fs : FileSystem) (place : Except FileFault Place) : Stage → Stage
  | reading o =>
    if place.toOption = some o.place then reading { o with kept := some (o.content fs) }
    else reading o
  | stage => stage

end Traffic

open Traffic (Opened Step Event Stage)

-- A store that is being called: its files, the call that holds its lock, whether a call has crashed
-- while it held it, how far each call has come, and the calls that have taken effect, in order. A
-- put takes effect when it moves its draft, a get when it opens its file.
structure Traffic where
  files : FileSystem
  holder : Option Nat
  poisoned : Bool
  stage : Nat → Stage
  past : List Nat

namespace Traffic

def go (t : Traffic) (c : Nat) (stage : Stage) : Traffic :=
  { t with stage := Function.update t.stage c stage }

section

variable (dir : String)

def stepPut (t : Traffic) (c : Nat) (id : String) (d : Detector) (e : Step) : Traffic :=
  match e, t.stage c with
  | .lock, .begun =>
    if !isValidId id then t.go c (.wrote (.error (.invalidId id)))
    else if t.holder ≠ none then t
    else if t.poisoned then t.go c (.wrote (.error (.task .poisonedLock)))
    else { t.go c .locked with holder := some c }
  | .read, .locked =>
    match (File.envelope? t.files dir id).bind File.nextVersion with
    | .ok version => t.go c (.writing version 0)
    | .error e => t.go c (.leaving (.error e))
  | .append n, .writing version written =>
    let content := Envelope.content ⟨version, documentOf d⟩
    match t.files.write (File.draftPath dir id) (content.take (written + n)) with
    | .ok files => { t.go c (.writing version (written + n)) with files }
    | .error e => t.go c (.leaving (.error (.file e)))
  | .finish, .writing version _ =>
    match File.draft t.files dir id ⟨version, documentOf d⟩ with
    | .ok files => { t.go c (.drafted version) with files }
    | .error e => t.go c (.leaving (.error e))
  | .commit, .drafted version =>
    match File.commit t.files dir id with
    | .ok files =>
      let place := t.files.locate (File.path dir id)
      let kept c := (t.stage c).keep t.files place
      { t with
        files
        stage := Function.update kept c (.leaving (.ok version))
        past := t.past ++ [c] }
    | .error e => t.go c (.leaving (.error e))
  | .fail fault, .locked => t.go c (.leaving (.error (.file fault)))
  | .fail fault, .writing _ _ => t.go c (.leaving (.error (.file fault)))
  | .fail fault, .drafted _ => t.go c (.leaving (.error (.file fault)))
  | .unlock, .leaving answer =>
    { t.go c (.wrote answer) with
      holder := none
      poisoned := t.poisoned || File.crashed answer }
  | _, _ => t

def stepGet (t : Traffic) (c : Nat) (id : String) (e : Step) : Traffic :=
  match e, t.stage c with
  | .look, .begun =>
    if !isValidId id then t.go c (.told (.ok .missing))
    else match t.files.openFile (File.path dir id) with
      | .ok place => { t.go c (.reading ⟨place, none, []⟩) with past := t.past ++ [c] }
      | .error e => { t.go c (.told (File.answerOf (.error e))) with past := t.past ++ [c] }
  | .take n, .reading o =>
    let rest := (o.content t.files).drop o.taken.length
    t.go c (.reading { o with taken := o.taken ++ rest.take n })
  | .tell, .reading o =>
    if (o.content t.files).length ≤ o.taken.length then
      t.go c (.told (File.answerOf (.ok o.taken)))
    else t
  | _, _ => t

variable (calls : Nat → Operation)

-- A step of a call. One that the call is not ready for, or cannot take without the lock, does
-- nothing.
def step (t : Traffic) : Event → Traffic
  | (c, e) =>
    match calls c with
    | .put id d => t.stepPut dir c id d e
    | .get id => t.stepGet dir c id e

def start (fs : FileSystem) : Traffic := ⟨fs, none, false, fun _ => .begun, []⟩

def run (fs : FileSystem) (es : List Event) : Traffic := es.foldl (step dir calls) (start fs)

end

variable {dir id : String} {calls : Nat → Operation} {t : Traffic} {c : Nat} {d : Detector}

-- A put that nothing comes between is that of the store.
theorem put_alone (hc : calls c = .put id d) (hs : t.stage c = .begun) (hh : t.holder = none) :
    let t' := [.lock, .read, .finish, .commit, .unlock].foldl
      (fun t e => t.step dir calls (c, e)) t
    let (answer, handle) := File.Handle.put ⟨t.files, t.poisoned⟩ dir id d
    t'.stage c = .wrote answer ∧ t'.files = handle.files ∧ t'.poisoned = handle.poisoned ∧
    t'.holder = none := by
  simp only [List.foldl, step, hc, File.Handle.put, File.put]
  cases hv : isValidId id
  case false => simp [stepPut.eq_def, hs, hv, hh, go, File.crashed]
  case true =>
  cases hb : t.poisoned
  case true => simp [stepPut.eq_def, hs, hv, hh, hb, go]
  case false =>
  cases he : File.envelope? t.files dir id
  case error e => simp [stepPut.eq_def, hs, hv, hh, hb, go, he, Except.bind]
  case ok before =>
  cases hn : File.nextVersion before
  case error e => simp [stepPut.eq_def, hs, hv, hh, hb, go, he, Except.bind, hn]
  case ok version =>
  cases hw : File.draft t.files dir id ⟨version, documentOf d⟩
  case error e => simp [stepPut.eq_def, hs, hv, hh, hb, go, he, Except.bind, hn, hw]
  case ok drafted =>
    cases hm : File.commit drafted dir id <;>
      simp [stepPut.eq_def, hs, hv, hh, hb, go, he, Except.bind, hn, hw, hm, File.crashed]

-- So is a get that takes all there is.
theorem get_alone (hc : calls c = .get id) (hs : t.stage c = .begun) : ∃ n,
    let t' := [.look, .take n, .tell].foldl (fun t e => t.step dir calls (c, e)) t
    t'.stage c = .told (File.get t.files dir id) ∧ t'.files = t.files := by
  cases hv : isValidId id
  case false => exact ⟨0, by simp [List.foldl, step, hc, stepGet, hs, hv, go, File.get]⟩
  case true =>
  rw [File.get_eq hv]
  cases ho : t.files.openFile (File.path dir id)
  case error e =>
    rw [FileSystem.openFile_eq_error ho]
    exact ⟨0, by simp [List.foldl, step, hc, stepGet, hs, hv, go, ho]⟩
  case ok p =>
    obtain ⟨hl, content, he⟩ := FileSystem.openFile_eq_ok ho
    rw [FileSystem.read_eq_ok.mpr ⟨p, hl, he⟩]
    refine ⟨content.length, ?_⟩
    simp [List.foldl, step, hc, stepGet, hs, hv, go, ho, Opened.content, he]

end Traffic
end Store
end AnomalyDetection

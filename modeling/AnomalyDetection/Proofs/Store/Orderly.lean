import AnomalyDetection.Proofs.Store.Traffic
import Mathlib.Data.List.Nodup

namespace AnomalyDetection.Store.Traffic

open Envelope (documentOf)
open File (targetPlace draftPlace targetPlace_inj targetPlace_ne_draftPlace targetPlace_ne_nil
  draftPlace_ne_nil)
open Files (Place TooLong)
open Operation (putsUnder putsUnder_put putsUnder_get)

-- The detectors that calls have put under an id, the last one first.
def putsOf (calls : Nat → Operation) (id : String) (past : List Nat) : List Detector :=
  putsUnder id (past.map calls)

-- What there is to be read of an id after some puts.
def readAfter (dir id : String) (ds : List Detector) : Except FileFault Octets :=
  if TooLong dir (id ++ ".json") then .error .nameTooLong
  else match envelopeAfter ds with
    | none => .error .notFound
    | some e => .ok e.content

section

variable (dir : String) (p : Place) (calls : Nat → Operation)

-- How a put has ended: it has its place among the calls, or none.
inductive Ended (past : List Nat) (c : Nat) : Except Fault UInt64 → Prop
  | ok {id : String} {d : Detector} {front : List Nat} {version : UInt64} :
    calls c = .put id d → front ++ [c] <+: past →
    version.toNat = (putsOf calls id front).length + 1 → Ended past c (.ok version)
  | error {e : Fault} : c ∉ past → Ended past c (.error e)

-- A call with the lock that has not taken effect yet.
structure Inside (holder : Option Nat) (past : List Nat) (c : Nat) : Prop where
  holds : holder = some c
  new : c ∉ past

-- What is known of a call at each stage.
inductive Standing (files : FileSystem) (holder : Option Nat) (past : List Nat) (c : Nat) :
    Stage → Prop
  | begun : c ∉ past → Standing files holder past c .begun
  | locked : Inside holder past c → Standing files holder past c .locked
  | writing {id : String} {d : Detector} {version : UInt64} {written : Nat} :
    Inside holder past c → calls c = .put id d →
    version.toNat = (putsOf calls id past).length + 1 →
    Standing files holder past c (.writing version written)
  | drafted {id : String} {d : Detector} {version : UInt64} : Inside holder past c →
    calls c = .put id d → version.toNat = (putsOf calls id past).length + 1 →
    files.entry? (draftPlace p id) = some (.file (Envelope.content ⟨version, documentOf d⟩)) →
    Standing files holder past c (.drafted version)
  | leaving {answer : Except Fault UInt64} : holder = some c → Ended calls past c answer →
    Standing files holder past c (.leaving answer)
  | wrote {answer : Except Fault UInt64} : Ended calls past c answer →
    Standing files holder past c (.wrote answer)
  | reading {id : String} {o : Opened} {front : List Nat} {content : Octets} :
    calls c = .get id → front ++ [c] <+: past →
    readAfter dir id (putsOf calls id front) = .ok content →
    o.place = targetPlace p id → o.content files = content → o.taken <+: content →
    Standing files holder past c (.reading o)
  | told {id : String} {front : List Nat} : calls c = .get id → front ++ [c] <+: past →
    Standing files holder past c
      (.told (File.answerOf (readAfter dir id (putsOf calls id front))))

-- A store whose envelopes are those of the puts that have taken effect.
structure Orderly (t : Traffic) : Prop where
  admits : t.files.Admits dir p
  target : ∀ id, t.files.entry? (targetPlace p id) =
    (envelopeAfter (putsOf calls id t.past)).map fun e => .file e.content
  draft : ∀ id, t.files.entry? (draftPlace p id) ≠ some .directory
  nodup : t.past.Nodup
  counted : ∀ id, (putsOf calls id t.past).length < UInt64.size
  call : ∀ c, Standing dir p calls t.files t.holder t.past c (t.stage c)

end

variable {dir id : String} {p : Place} {calls : Nat → Operation} {t : Traffic} {d : Detector}
  {c c' : Nat} {past : List Nat}

theorem putsOf_put (hc : calls c = .put id d) (other : String) : putsOf calls other (past ++ [c]) =
    if id = other then d :: putsOf calls other past else putsOf calls other past := by
  simp only [putsOf, List.map_append, List.map_singleton, hc, putsUnder_put]

theorem putsOf_append (front back : List Nat) :
    putsOf calls id (front ++ back) = putsOf calls id back ++ putsOf calls id front := by
  simp [putsOf, putsUnder]

theorem putsOf_get (hc : calls c = .get id) (other : String) :
    putsOf calls other (past ++ [c]) = putsOf calls other past := by
  simp only [putsOf, List.map_append, List.map_singleton, hc, putsUnder_get]

-- The version of an envelope is read even where its document is not read as it was written.
theorem version_readAfter {ds : List Detector} {found : Option Envelope}
    (h : File.envelopeOf (readAfter dir id ds) = .ok found) :
    found.map Envelope.version = (envelopeAfter ds).map Envelope.version := by
  unfold readAfter at h
  split at h
  case isTrue => cases h
  case isFalse =>
    cases he : envelopeAfter ds
    case none => rw [he] at h; cases h; rfl
    case some e =>
      rw [he] at h
      have ⟨e', hv, hb⟩ := Outcome.map_eq_ok (Outcome.mapError_eq_ok h)
      rw [← hb, Option.map_some, Option.map_some, Envelope.version_of_ofContent hv]

theorem versionOf_eq (e : Option Envelope) :
    File.versionOf e = (e.map Envelope.version).elim 0 UInt64.toNat := by
  cases e <;> rfl

theorem versionOf_readAfter {ds : List Detector} {before : Option Envelope}
    (h : File.envelopeOf (readAfter dir id ds) = .ok before) (hl : ds.length < UInt64.size) :
    File.versionOf before = ds.length := by
  rw [versionOf_eq, version_readAfter h, ← versionOf_eq, versionOf_envelopeAfter hl]

theorem version_answerOf {ds : List Detector} {a : Answer}
    (h : File.answerOf (readAfter dir id ds) = .ok a) :
    a.version = (envelopeAfter ds).map Envelope.version := by
  have ⟨found, hf, ha⟩ := Outcome.map_eq_ok h
  rw [← version_readAfter hf, ← ha]
  cases found <;> rfl

-- The same stage in other files, from which a get reads what it would have read.
inductive Stays (files files' : FileSystem) : Stage → Stage → Prop
  | reading {o o' : Opened} : o'.place = o.place → o'.taken = o.taken →
    o'.content files' = o.content files → Stays files files' (.reading o) (.reading o')
  | other {stage : Stage} : (∀ o, stage ≠ .reading o) → Stays files files' stage stage

section

variable {files files' : FileSystem} {holder holder' : Option Nat} {stage stage' : Stage}

theorem Opened.content_congr {o : Opened} (h : files'.entry? o.place = files.entry? o.place) :
    o.content files' = o.content files := by
  rw [content, h, content]

theorem target_set_draft {e : Files.Entry} (other : String) :
    FileSystem.entry? (files.set (draftPlace p id) e) (targetPlace p other) =
      files.entry? (targetPlace p other) := by
  rw [FileSystem.entry?_set _ _ _ _ (targetPlace_ne_nil p other),
    if_neg (targetPlace_ne_draftPlace p other id)]

theorem stays_of_entry
    (hf : ∀ id, files'.entry? (targetPlace p id) = files.entry? (targetPlace p id))
    (hp : ∀ o, stage = .reading o → ∃ id, o.place = targetPlace p id) :
    Stays files files' stage stage := by
  by_cases hr : ∃ o, stage = .reading o
  case neg => exact .other fun o ho => hr ⟨o, ho⟩
  case pos =>
    obtain ⟨o, rfl⟩ := hr
    have ⟨id, ho⟩ := hp o rfl
    exact .reading rfl rfl (Opened.content_congr (ho ▸ hf id))

-- A file that loses its place is kept by those who have opened it.
theorem stays_keep {q : Place}
    (hf : ∀ id, targetPlace p id ≠ q →
      files'.entry? (targetPlace p id) = files.entry? (targetPlace p id))
    (hp : ∀ o, stage = .reading o → ∃ id, o.place = targetPlace p id) :
    Stays files files' stage (stage.keep files (.ok q)) := by
  by_cases hr : ∃ o, stage = .reading o
  case neg =>
    have hk : stage.keep files (.ok q) = stage := by
      cases stage
      case reading o => exact absurd ⟨o, rfl⟩ hr
      all_goals rfl
    exact hk.symm ▸ .other fun o ho => hr ⟨o, ho⟩
  case pos =>
    obtain ⟨o, rfl⟩ := hr
    have ⟨id, ho⟩ := hp o rfl
    rw [Stage.keep]
    split
    case isTrue => exact .reading rfl rfl rfl
    case isFalse hq =>
      exact .reading rfl rfl (Opened.content_congr (ho ▸ hf id fun h => hq (by rw [ho, h]; rfl)))

namespace Standing

theorem place_of_reading (h : Standing dir p calls files holder past c stage) (o : Opened)
    (ho : stage = .reading o) : ∃ id, o.place = targetPlace p id := by
  subst ho
  cases h
  case reading id _ _ _ _ _ hp _ _ => exact ⟨id, hp⟩

-- What others do is all the same to a call, as long as a get goes on to read what it would have
-- read, and the one with the lock finds all that it has found.
theorem persists {back : List Nat} (h : Standing dir p calls files holder past c stage)
    (hb : c ∉ back) (ha : Stays files files' stage stage')
    (hh : holder = some c → holder' = some c ∧ files' = files ∧
      ∀ id, putsOf calls id (past ++ back) = putsOf calls id past) :
    Standing dir p calls files' holder' (past ++ back) c stage' := by
  have new (hc : c ∉ past) : c ∉ past ++ back := fun hm => (List.mem_append.mp hm).elim hc hb
  have grown {front : List Nat} (hp : front <+: past) : front <+: past ++ back :=
    hp.trans (List.prefix_append ..)
  have inside (hi : Inside holder past c) : Inside holder' (past ++ back) c :=
    ⟨(hh hi.holds).left, new hi.new⟩
  have ended {answer : Except Fault UInt64} (he : Ended calls past c answer) :
      Ended calls (past ++ back) c answer := by
    cases he
    case ok hc hp hv => exact .ok hc (grown hp) hv
    case error hc => exact .error (new hc)
  cases ha
  case reading ho ht hc =>
    cases h
    case reading h₁ h₂ h₃ h₄ h₅ h₆ =>
      exact .reading h₁ (grown h₂) h₃ (ho.trans h₄) (hc.trans h₅) (ht ▸ h₆)
  case other hr =>
    cases h
    case begun hc => exact .begun (new hc)
    case locked hi => exact .locked (inside hi)
    case writing hi hc hv =>
      have ⟨_, _, hp⟩ := hh hi.holds
      exact .writing (inside hi) hc (hp _ ▸ hv)
    case drafted hi hc hv hd =>
      have ⟨_, hf, hp⟩ := hh hi.holds
      exact .drafted (inside hi) hc (hp _ ▸ hv) (hf ▸ hd)
    case leaving hl he => exact .leaving (hh hl).left (ended he)
    case wrote he => exact .wrote (ended he)
    case reading o _ _ _ _ _ _ _ _ => exact absurd rfl (hr o)
    case told hc hp => exact .told hc (grown hp)

end Standing

end

namespace Orderly

variable {files : FileSystem} {q : Place} {stage : Stage} {version : UInt64} {content : Octets}

theorem locate_target (h : Orderly dir p calls t) (hv : isValidId id) :
    t.files.locate (File.path dir id) =
      if TooLong dir (id ++ ".json") then .error .nameTooLong else .ok (targetPlace p id) :=
  File.locate_of_admits h.admits hv rfl (by decide)

theorem place_target (h : Orderly dir p calls t) (hv : isValidId id)
    (hq : t.files.locate (File.path dir id) = .ok q) : q = targetPlace p id :=
  File.place_of_locate h.admits hv rfl (by decide) hq

theorem place_draft (h : Orderly dir p calls t) (hv : isValidId id)
    (hq : t.files.locate (File.draftPath dir id) = .ok q) : q = draftPlace p id :=
  File.place_of_locate h.admits hv rfl (by decide) hq

theorem read (h : Orderly dir p calls t) (hv : isValidId id) :
    t.files.read (File.path dir id) = readAfter dir id (putsOf calls id t.past) := by
  rw [FileSystem.read, h.locate_target hv, readAfter]
  split
  case isTrue => rfl
  case isFalse =>
    simp only [bind, Except.bind, h.target]
    cases envelopeAfter (putsOf calls id t.past) <;> rfl

theorem write (h : Orderly dir p calls t) (hv : isValidId id)
    (hw : t.files.write (File.draftPath dir id) content = .ok files) :
    files = t.files.set (draftPlace p id) (.file content) := by
  have ⟨q, hq, hf⟩ := FileSystem.takes_of_write hw
  exact h.place_draft hv hq.located ▸ hf

theorem free_target (h : Orderly dir p calls t) (id : String) :
    t.files.entry? (targetPlace p id) ≠ some .directory := by
  rw [h.target]
  cases envelopeAfter (putsOf calls id t.past) <;> exact nofun

theorem commit (h : Orderly dir p calls t) (hv : isValidId id)
    (hd : t.files.entry? (draftPlace p id) = some (.file content))
    (hr : t.files.rename (File.draftPath dir id) (File.path dir id) = .ok files) :
    t.files.locate (File.path dir id) = .ok (targetPlace p id) ∧
    files = t.files.moving (draftPlace p id) (targetPlace p id) content := by
  have ⟨q, hq, hs⟩ := Outcome.bind_eq_ok hr
  have ⟨r, ht, _⟩ := Outcome.bind_eq_ok hs
  cases h.place_draft hv hq
  cases h.place_target hv ht
  rw [FileSystem.Takes.rename hq hd ⟨ht, h.free_target id⟩] at hr
  exact ⟨ht, (Except.ok.inj hr).symm⟩

theorem place_of_reading (h : Orderly dir p calls t) (c : Nat) (o : Opened)
    (ho : t.stage c = .reading o) : ∃ id, o.place = targetPlace p id :=
  (h.call c).place_of_reading o ho

theorem holder_ne (hh : t.holder = some c) (hc : c' ≠ c) : t.holder ≠ some c' :=
  fun he => hc (Option.some.inj (he.symm.trans hh))

-- What becomes of a call that does not have the lock.
theorem others {holder : Option Nat} {back : List Nat} (h : Orderly dir p calls t)
    (hh : t.holder ≠ some c) (hb : c ∉ back) (hs : Stays t.files files (t.stage c) stage) :
    Standing dir p calls files holder (t.past ++ back) c stage :=
  (h.call c).persists hb hs fun he => absurd he hh

-- What happens to a call, to the lock and to a draft.
theorem go (h : Orderly dir p calls t)
    (hs : Standing dir p calls t.files t.holder t.past c stage) :
    Orderly dir p calls (t.go c stage) where
  admits := h.admits
  target := h.target
  draft := h.draft
  nodup := h.nodup
  counted := h.counted
  call := (Function.forall_update_iff _ _).mpr ⟨hs, fun c _ => h.call c⟩

theorem hold (h : Orderly dir p calls t) {holder : Option Nat} {poisoned : Bool}
    (hh : ∀ c', c' ≠ c → t.holder ≠ some c')
    (hs : Standing dir p calls t.files holder t.past c stage) :
    Orderly dir p calls { t.go c stage with holder, poisoned } where
  admits := h.admits
  target := h.target
  draft := h.draft
  nodup := h.nodup
  counted := h.counted
  call := by
    refine (Function.forall_update_iff _ _).mpr ⟨hs, fun c' hc => ?_⟩
    exact List.append_nil t.past ▸ h.others (hh c' hc) List.not_mem_nil
      (stays_of_entry (fun _ => rfl) (h.place_of_reading c'))

theorem drafting (h : Orderly dir p calls t) (hh : t.holder = some c)
    (hs : Standing dir p calls (t.files.set (draftPlace p id) (.file content)) t.holder t.past c
      stage) :
    Orderly dir p calls
      { t.go c stage with files := t.files.set (draftPlace p id) (.file content) } where
  admits := h.admits.keepsDirectories (FileSystem.keepsDirectories_set (h.draft id) _)
  target other := (target_set_draft other).trans (h.target other)
  draft other := by
    rw [FileSystem.entry?_set _ _ _ _ (draftPlace_ne_nil p other)]
    split
    case isTrue => exact nofun
    case isFalse => exact h.draft other
  nodup := h.nodup
  counted := h.counted
  call := by
    refine (Function.forall_update_iff _ _).mpr ⟨hs, fun c' hc => ?_⟩
    exact List.append_nil t.past ▸ h.others (holder_ne hh hc) List.not_mem_nil
      (stays_of_entry target_set_draft (h.place_of_reading c'))

theorem moving (h : Orderly dir p calls t) (hh : t.holder = some c) (hn : c ∉ t.past)
    (hc : calls c = .put id d) (hv : version.toNat = (putsOf calls id t.past).length + 1)
    (hf : files = t.files.moving (draftPlace p id) (targetPlace p id)
      (Envelope.content ⟨version, documentOf d⟩)) :
    Orderly dir p calls
      { t with
        files
        stage := Function.update (fun c => (t.stage c).keep t.files (.ok (targetPlace p id))) c
          (.leaving (.ok version))
        past := t.past ++ [c] } := by
  have entry {r : Place} (hr : r ≠ []) : files.entry? r =
      if r = targetPlace p id then some (.file (Envelope.content ⟨version, documentOf d⟩))
      else if r = draftPlace p id then none else t.files.entry? r :=
    hf ▸ FileSystem.entry?_moving hr
  have target (other : String) (ho : other ≠ id) :
      files.entry? (targetPlace p other) = t.files.entry? (targetPlace p other) := by
    rw [entry (targetPlace_ne_nil p other), if_neg (fun ht => ho (targetPlace_inj.mp ht)),
      if_neg (targetPlace_ne_draftPlace p other id)]
  refine ⟨?admits, fun other => ?target, fun other => ?draft, ?nodup, fun other => ?counted, ?call⟩
  case admits =>
    have hk := FileSystem.keepsDirectories_moving (h.draft id) (h.free_target id)
    exact h.admits.keepsDirectories (hf ▸ hk _)
  case target =>
    rw [putsOf_put hc]
    by_cases ho : id = other
    case pos =>
      subst ho
      rw [if_pos rfl, entry (targetPlace_ne_nil p id), if_pos rfl, envelopeAfter, ← hv,
        UInt64.ofNat_toNat]
      rfl
    case neg => rw [if_neg ho, target other (Ne.symm ho), h.target]
  case draft =>
    rw [entry (draftPlace_ne_nil p other), if_neg (targetPlace_ne_draftPlace p id other).symm]
    split
    case isTrue => exact (Option.some_ne_none _).symm
    case isFalse => exact h.draft other
  case nodup => exact List.concat_eq_append ▸ List.Nodup.concat hn h.nodup
  case counted =>
    rw [putsOf_put hc]
    split
    case isTrue ho => exact ho ▸ List.length_cons ▸ hv ▸ version.toNat_lt
    case isFalse => exact h.counted other
  case call =>
    refine (Function.forall_update_iff _ _).mpr
      ⟨.leaving hh (.ok hc List.prefix_rfl hv), fun c' hc' => ?_⟩
    have ha : Stays t.files files (t.stage c')
        ((t.stage c').keep t.files (.ok (targetPlace p id))) :=
      stays_keep (fun other ho => target other fun he => ho (targetPlace_inj.mpr he))
        (h.place_of_reading c')
    exact h.others (holder_ne hh hc') (fun hm => hc' (List.mem_singleton.mp hm)) ha

-- What happens as a get opens its file, or finds none.
theorem looking (h : Orderly dir p calls t) (hn : c ∉ t.past) (hc : calls c = .get id)
    (hs : Standing dir p calls t.files t.holder (t.past ++ [c]) c stage) :
    Orderly dir p calls { t.go c stage with past := t.past ++ [c] } where
  admits := h.admits
  target other := by
    rw [putsOf_get hc]
    exact h.target other
  draft := h.draft
  nodup := List.concat_eq_append ▸ List.Nodup.concat hn h.nodup
  counted other := by
    rw [putsOf_get hc]
    exact h.counted other
  call := by
    refine (Function.forall_update_iff _ _).mpr ⟨hs, fun c' hc' => ?_⟩
    exact (h.call c').persists (fun hm => hc' (List.mem_singleton.mp hm))
      (stays_of_entry (fun _ => rfl) (h.place_of_reading c'))
      fun hh => ⟨hh, rfl, fun _ => putsOf_get hc _⟩

theorem stepPut (h : Orderly dir p calls t) (hc : calls c = .put id d) (hv : isValidId id)
    (e : Step) : Orderly dir p calls (t.stepPut dir c id d e) := by
  have hs := h.call c
  have left {e : Fault} (hi : Inside t.holder t.past c) :
      Orderly dir p calls (t.go c (.leaving (.error e))) := h.go (.leaving hi.holds (.error hi.new))
  unfold Traffic.stepPut
  split
  all_goals try rename_i ht; rw [ht] at hs
  case h_1 =>
    rw [if_neg (by simp [hv])]
    cases hs
    case begun hn =>
    split
    case isTrue => exact h
    case isFalse hh =>
      split
      case isTrue => exact h.go (.wrote (.error hn))
      case isFalse => exact h.hold (fun _ _ he => hh (he ▸ nofun)) (.locked ⟨rfl, hn⟩)
  -- What is read is what the last put has left, and the version goes on from there.
  case h_2 =>
    cases hs
    case locked hi =>
    split
    case h_1 version he =>
      have ⟨before, hb, hn⟩ := Outcome.bind_eq_ok he
      rw [File.envelope?_eq, h.read hv] at hb
      have hv := File.nextVersion_eq_ok.mp hn
      exact h.go (.writing hi hc (versionOf_readAfter hb (h.counted id) ▸ hv))
    case h_2 => exact left hi
  case h_3 =>
    cases hs
    case writing id' d' hi hc' hv' =>
    cases hc.symm.trans hc'
    dsimp only
    split
    case h_1 files hw =>
      cases h.write hv hw
      exact h.drafting hi.holds (.writing hi hc hv')
    case h_2 => exact left hi
  case h_4 =>
    cases hs
    case writing id' d' hi hc' hv' =>
    cases hc.symm.trans hc'
    split
    case h_1 files hw =>
      cases h.write hv (Outcome.mapError_eq_ok hw)
      refine h.drafting hi.holds (.drafted hi hc hv' ?_)
      rw [FileSystem.entry?_set _ _ _ _ (draftPlace_ne_nil p id), if_pos rfl]
    case h_2 => exact left hi
  -- Nobody else has had the lock since, so that the version is still the next one.
  case h_5 =>
    cases hs
    case drafted id' d' hi hc' hv' hd =>
    cases hc.symm.trans hc'
    split
    case h_1 files hr =>
      have ⟨hl, hf⟩ := h.commit hv hd (Outcome.mapError_eq_ok hr)
      rw [hl]
      exact h.moving hi.holds hi.new hc hv' hf
    case h_2 => exact left hi
  case h_6 => cases hs; exact left ‹_›
  case h_7 => cases hs; exact left ‹_›
  case h_8 => cases hs; exact left ‹_›
  case h_9 =>
    cases hs
    case leaving hh he => exact h.hold (fun _ => holder_ne hh) (.wrote he)
  case h_10 => exact h

theorem stepGet (h : Orderly dir p calls t) (hc : calls c = .get id) (hv : isValidId id)
    (e : Step) : Orderly dir p calls (t.stepGet dir c id e) := by
  have hs := h.call c
  unfold Traffic.stepGet
  split
  all_goals try rename_i ht; rw [ht] at hs
  case h_1 =>
    rw [if_neg (by simp [hv])]
    cases hs
    case begun hn =>
    split
    case h_1 q ho =>
      have ⟨hl, content, hq⟩ := FileSystem.openFile_eq_ok ho
      have hr := (h.read hv).symm.trans (FileSystem.read_eq_ok.mpr ⟨q, hl, hq⟩)
      have hp := h.place_target hv hl
      refine h.looking hn hc (.reading hc List.prefix_rfl hr hp ?_ List.nil_prefix)
      rw [Opened.content, hq]
      rfl
    case h_2 e ho =>
      rw [← FileSystem.openFile_eq_error ho, h.read hv]
      exact h.looking hn hc (.told hc List.prefix_rfl)
  -- However the file has lost its place, what is taken next is what comes next in it.
  case h_2 =>
    cases hs
    case reading h₁ h₂ h₃ h₄ h₅ h₆ =>
    obtain ⟨rest, rfl⟩ := h₆
    refine h.go (.reading h₁ h₂ h₃ h₄ h₅ ?_)
    rw [h₅, List.drop_left]
    exact (List.prefix_append_right_inj _).mpr (List.take_prefix ..)
  case h_3 =>
    split
    case isTrue hl =>
      cases hs
      case reading h₁ h₂ h₃ h₄ h₅ h₆ =>
      rw [h₅] at hl
      rw [h₆.eq_of_length_le hl, ← h₃]
      exact h.go (.told h₁ h₂)
    case isFalse => exact h
  case h_4 => exact h

theorem step (h : Orderly dir p calls t) (hv : ∀ c, isValidId (calls c).id) (e : Event) :
    Orderly dir p calls (t.step dir calls e) := by
  obtain ⟨c, e⟩ := e
  have hv := hv c
  unfold Traffic.step
  dsimp only
  split
  case h_1 hc => rw [hc] at hv; exact h.stepPut hc hv e
  case h_2 hc => rw [hc] at hv; exact h.stepGet hc hv e

theorem start {fs : FileSystem} (hp : fs.Admits dir p)
    (he : ∀ name, fs.entry? (p ++ [name]) = none) : Orderly dir p calls (start fs) where
  admits := hp
  target _ := he _
  draft _ hd := nomatch (he _).symm.trans hd
  nodup := .nil
  counted _ := (by decide : 0 < UInt64.size)
  call _ := .begun List.not_mem_nil

theorem run {fs : FileSystem} (hp : fs.Admits dir p)
    (he : ∀ name, fs.entry? (p ++ [name]) = none) (hv : ∀ c, isValidId (calls c).id)
    (es : List Event) : Orderly dir p calls (run dir calls fs es) := by
  induction es using List.reverseRecOn
  case nil => exact .start hp he
  case append_singleton es e hi =>
    rw [Traffic.run, List.foldl_append]
    exact hi.step hv e

end Orderly

end AnomalyDetection.Store.Traffic

import AnomalyDetection.Proofs.Detector.Document
import AnomalyDetection.Proofs.Store.Layout
import AnomalyDetection.Store.Memory
import Mathlib.Data.List.Induction

namespace AnomalyDetection.Store

open Envelope (documentOf)
open Files (Place)
open Json (nestingLimit)

inductive Operation
  | put (id : String) (d : Detector)
  | get (id : String)

-- What comes of an operation. One that crashes has no answer.
inductive Reply
  | put (version : Except Fault UInt64)
  | got (answer : Except Fault Answer)
  | crashed

namespace Operation

def id : Operation → String
  | put id _ => id
  | get id => id

-- A detector that was read from a document with no more than so many levels, and whose numbers come
-- back from the texts that they are written as.
structure IsReadFrom (d : Detector) (levels : Nat) : Prop where
  document : ∃ source document, Json.Document.depth document ≤ levels ∧
    Detector.shape.decode ⟨source, nestingLimit⟩ document = .ok d
  floats : ∀ x, d.Mentions (.float x) → (Json.Number.float x).ReadsBack

-- The operations that both stores can do. An envelope is one level around its document.
inductive Storable : Operation → Prop
  | put {id : String} {d : Detector} : IsFileId id → IsReadFrom d 126 → Storable (put id d)
  | get {id : String} : IsFileId id → Storable (get id)

-- The detectors that were put under an id, the last one first.
def putsUnder (id : String) (past : List Operation) : List Detector :=
  past.reverse.filterMap fun
    | put other d => if other = id then some d else none
    | get _ => none

variable {id other : String} {d : Detector} {past : List Operation}

theorem putsUnder_put : putsUnder id (past ++ [put other d]) =
    if other = id then d :: putsUnder id past else putsUnder id past := by
  simp only [putsUnder, List.reverse_append, List.reverse_singleton, List.singleton_append,
    List.filterMap_cons]
  split <;> simp_all

theorem putsUnder_get : putsUnder id (past ++ [get other]) = putsUnder id past := by
  simp [putsUnder]

theorem length_putsUnder_le {op : Operation} :
    (putsUnder id past).length ≤ (putsUnder id (past ++ [op])).length := by
  simp only [putsUnder, List.reverse_append, List.reverse_singleton, List.singleton_append]
  exact ((List.sublist_cons_self op past.reverse).filterMap _).length_le

theorem mem_putsUnder (h : d ∈ putsUnder id past) : put id d ∈ past := by
  have ⟨o, ho, h⟩ := List.mem_filterMap.mp h
  cases o
  case get => cases h
  case put other d' =>
    dsimp only at h
    split at h
    case isTrue he => cases h; exact he ▸ List.mem_reverse.mp ho
    case isFalse => cases h

end Operation

def File.perform (dir : String) (h : Handle) : Operation → Reply × Handle
  | .put id d => let (version, h) := h.put dir id d; (.put version, h)
  | .get id => (.got (get h.files dir id), h)

theorem File.perform_put {h h' : Handle} {dir id : String} {d : Detector}
    {answer : Except Fault UInt64} (hp : h.put dir id d = (answer, h')) :
    perform dir h (.put id d) = (.put answer, h') := by
  rw [perform, hp]

def Memory.perform (m : Memory) : Operation → Reply × Memory
  | .put id d => let (version, m) := m.put id d; (version.elim .crashed fun v => .put (.ok v), m)
  | .get id => let (answer, m) := m.get .system id; (.got (.ok answer), m)

-- What is left of a store after some operations.
def after (perform : σ → α → Reply × σ) (s : σ) (past : List α) : σ :=
  past.foldl (fun s op => (perform s op).2) s

theorem after_append {perform : σ → α → Reply × σ} {s : σ} {past : List α} {op : α} :
    after perform s (past ++ [op]) = (perform (after perform s past) op).2 := by
  simp [after]

open Operation (putsUnder putsUnder_put putsUnder_get length_putsUnder_le mem_putsUnder IsReadFrom
  Storable)

section

variable {d : Detector}

theorem Operation.IsReadFrom.fits (h : IsReadFrom d 126) : d.Fits 123 := by
  have ⟨_, _, hd, h⟩ := h.document
  exact Detector.fits_of_document hd h

theorem Operation.IsReadFrom.depth_lt (h : IsReadFrom d 126) :
    (documentOf d).depth < nestingLimit :=
  Nat.lt_succ_of_le (Detector.depth_documentOf h.fits)

end

-- What puts leave of an id, in a directory and in memory.

def envelopeAfter : List Detector → Option Envelope
  | [] => none
  | d :: ds => some ⟨.ofNat (ds.length + 1), documentOf d⟩

def storedAfter : List Detector → Option Stored
  | [] => none
  | d :: ds => some ⟨Text.encode d.toJson.compact, .ofNat (ds.length + 1)⟩

theorem version_envelopeAfter {d : Detector} {ds : List Detector}
    (h : (d :: ds).length < UInt64.size) :
    (UInt64.ofNat (ds.length + 1)).toNat = (d :: ds).length :=
  UInt64.toNat_ofNat_of_lt' h

theorem versionOf_envelopeAfter {ds : List Detector} (h : ds.length < UInt64.size) :
    File.versionOf (envelopeAfter ds) = ds.length := by
  cases ds
  case nil => rfl
  case cons => exact version_envelopeAfter h

theorem nextVersion_envelopeAfter {ds : List Detector} (h : ds.length + 1 < UInt64.size) :
    File.nextVersion (envelopeAfter ds) = .ok (.ofNat (ds.length + 1)) := by
  rw [File.nextVersion_eq_ok, versionOf_envelopeAfter (Nat.lt_of_succ_lt h),
    UInt64.toNat_ofNat_of_lt' h]

-- A directory in which every id has the envelope that its puts have left, and no draft.
structure File.Holds (dir : String) (p : Place) (past : List Operation) (h : Handle) : Prop where
  houses : h.files.Houses dir p
  target : ∀ id, h.files.entry? (targetPlace p id) =
    (envelopeAfter (putsUnder id past)).map fun e => .file e.content
  draft : ∀ id, h.files.entry? (draftPlace p id) = none
  sound : h.poisoned = false

-- A memory in which every id has the document that was last put under it.
def Memory.Holds (past : List Operation) (m : Memory) : Prop :=
  ∀ id, m.entries.lookup id = storedAfter (putsUnder id past)

namespace File.Holds

variable {h : Handle} {dir id : String} {p : Place} {past : List Operation} {d : Detector}

theorem takes_target (hh : Holds dir p past h) (hi : IsFileId id) :
    h.files.Takes (path dir id) (targetPlace p id) := by
  refine ⟨locate_path hh.houses hi, ?_⟩
  rw [hh.target]
  cases envelopeAfter (putsUnder id past) <;> exact nofun

theorem takes_draft (hh : Holds dir p past h) (hi : IsFileId id) :
    h.files.Takes (draftPath dir id) (draftPlace p id) := by
  refine ⟨locate_draftPath hh.houses hi, ?_⟩
  rw [hh.draft]
  exact nofun

theorem envelope? (hh : Holds dir p past h) (hs : ∀ op ∈ past, op.Storable) (hi : IsFileId id) :
    File.envelope? h.files dir id = .ok (envelopeAfter (putsUnder id past)) := by
  have ht := hh.target id
  cases hp : putsUnder id past
  case nil =>
    rw [hp] at ht
    have hr : h.files.read (path dir id) = .error .notFound := by
      simp only [FileSystem.read, locate_path hh.houses hi, bind, Except.bind, ht]
      rfl
    simp only [File.envelope?, hr, envelopeAfter]
  case cons d ds =>
    rw [hp] at ht
    have hd : IsReadFrom d 126 := by
      cases hs _ (mem_putsUnder (hp ▸ List.mem_cons_self))
      assumption
    have hr : h.files.read (path dir id) = .ok (Envelope.content ⟨_, documentOf d⟩) :=
      FileSystem.read_eq_ok.mpr ⟨_, locate_path hh.houses hi, ht⟩
    simp only [File.envelope?, hr, Envelope.ofContent_content d.isSorted_documentOf
      (Envelope.readsBack_documentOf hd.floats _), hd.depth_lt, if_true]
    rfl

theorem get (hh : Holds dir p past h) (hs : ∀ op ∈ past, op.Storable) (hi : IsFileId id) :
    File.get h.files dir id =
      .ok (.of ((envelopeAfter (putsUnder id past)).map Envelope.stored)) := by
  rw [File.get, if_pos hi.valid, hh.envelope? hs hi]
  rfl

theorem put_eq (hh : Holds dir p past h) (hs : ∀ op ∈ past, op.Storable) (hi : IsFileId id)
    (hl : (putsUnder id past).length + 1 < UInt64.size) :
    h.put dir id d = (.ok (.ofNat ((putsUnder id past).length + 1)),
      ⟨h.files.replacing (draftPlace p id) (targetPlace p id)
        (Envelope.content ⟨.ofNat ((putsUnder id past).length + 1), documentOf d⟩), false⟩) :=
  Handle.put_of_sound hh.sound <| put_of_takes hi.valid (hh.envelope? hs hi)
    (nextVersion_envelopeAfter hl) (hh.takes_draft hi) (hh.takes_target hi)

-- Behind the last version nothing is put, and the lock is spoilt.
theorem put_last (hh : Holds dir p past h) (hs : ∀ op ∈ past, op.Storable) (hi : IsFileId id)
    (hl : (putsUnder id past).length < UInt64.size)
    (hn : ¬(putsUnder id past).length + 1 < UInt64.size) :
    h.put dir id d = (.error (.task .overflow), ⟨h.files, true⟩) :=
  Handle.put_of_sound hh.sound <|
    put_of_last hi.valid (hh.envelope? hs hi) (versionOf_envelopeAfter hl ▸ hn)

theorem put (hh : Holds dir p past h) (hi : IsFileId id) : Holds dir p (past ++ [.put id d])
    ⟨h.files.replacing (draftPlace p id) (targetPlace p id)
      (Envelope.content ⟨.ofNat ((putsUnder id past).length + 1), documentOf d⟩), false⟩ where
  houses := hh.houses.keepsDirectories <|
    FileSystem.keepsDirectories_replacing (hh.takes_draft hi).free (hh.takes_target hi).free _
  target other := by
    rw [FileSystem.entry?_replacing (targetPlace_ne_nil p other), putsUnder_put]
    by_cases he : id = other
    case pos => rw [if_pos he, if_pos (targetPlace_inj.mpr he.symm), he]; rfl
    case neg =>
      rw [if_neg he, if_neg fun ht => he (targetPlace_inj.mp ht).symm,
        if_neg (targetPlace_ne_draftPlace p other id), hh.target]
  draft other := by
    rw [FileSystem.entry?_replacing (draftPlace_ne_nil p other),
      if_neg (targetPlace_ne_draftPlace p id other).symm, hh.draft]
    split <;> rfl
  sound := rfl

theorem perform (hh : Holds dir p past h) (hs : ∀ op ∈ past, op.Storable) {op : Operation}
    (ho : op.Storable) (hl : ∀ id, (putsUnder id (past ++ [op])).length < UInt64.size) :
    Holds dir p (past ++ [op]) (File.perform dir h op).2 := by
  cases ho
  case get =>
    exact ⟨hh.houses, fun id => by rw [putsUnder_get]; exact hh.target id, hh.draft, hh.sound⟩
  case put id d hi _ =>
    have hl := hl id
    rw [putsUnder_put, if_pos rfl] at hl
    rw [File.perform_put (hh.put_eq hs hi hl)]
    exact hh.put hi

-- A directory is empty before anything is put.
theorem after {fs : FileSystem} (hp : fs.Houses dir p)
    (he : ∀ name, fs.entry? (p ++ [name]) = none) (hs : ∀ op ∈ past, op.Storable)
    (hl : ∀ id, (putsUnder id past).length < UInt64.size) :
    Holds dir p past (Store.after (File.perform dir) ⟨fs, false⟩ past) := by
  induction past using List.reverseRecOn
  case nil => exact ⟨hp, fun id => he _, fun id => he _, rfl⟩
  case append_singleton past op hi =>
    have ⟨hs, ho⟩ := List.forall_mem_append.mp hs
    rw [after_append]
    exact (hi hs fun id => Nat.lt_of_le_of_lt length_putsUnder_le (hl id)).perform hs
      (ho op (List.mem_singleton_self op)) hl

end File.Holds

namespace Memory.Holds

variable {m : Memory} {id : String} {past : List Operation} {d : Detector}

theorem get (h : Memory.Holds past m) (authority : Authority) :
    (m.get authority id).1 = .of (storedAfter (putsUnder id past)) :=
  congrArg Answer.of (h id)

theorem put_eq (h : Memory.Holds past m) (hl : (putsUnder id past).length + 1 < UInt64.size) :
    m.put id d = (some (.ofNat ((putsUnder id past).length + 1)),
      { m with
        entries := (id, ⟨Text.encode d.toJson.compact, .ofNat ((putsUnder id past).length + 1)⟩) ::
          m.entries.filter (·.1 ≠ id) }) := by
  have hi := h id
  cases hp : putsUnder id past
  case nil =>
    rw [hp] at hi
    simp only [Memory.put, insert, hi]
    rfl
  case cons d' ds =>
    rw [hp] at hi hl
    have hv : succ? (.ofNat (ds.length + 1)) = some (.ofNat ((d' :: ds).length + 1)) :=
      succ?_eq_some.mpr <| by
        rw [version_envelopeAfter (Nat.lt_of_succ_lt hl), UInt64.toNat_ofNat_of_lt' hl]
    simp only [Memory.put, insert, hi, storedAfter, hv]

theorem put_last (h : Memory.Holds past m) (hl : (putsUnder id past).length < UInt64.size)
    (hn : ¬(putsUnder id past).length + 1 < UInt64.size) : m.put id d = (none, m) := by
  have hi := h id
  cases hp : putsUnder id past
  case nil => rw [hp] at hn; exact absurd (by decide) hn
  case cons d' ds =>
    rw [hp] at hi hl hn
    have hv : succ? (.ofNat (ds.length + 1)) = none :=
      succ?_eq_none.mpr (version_envelopeAfter hl ▸ hn)
    simp only [Memory.put, insert, hi, storedAfter, hv]

theorem put (h : Memory.Holds past m) (hl : (putsUnder id past).length + 1 < UInt64.size) :
    Memory.Holds (past ++ [.put id d]) (m.put id d).2 := by
  intro other
  rw [h.put_eq hl, putsUnder_put]
  refine (Table.lookup_replace ..).trans ?_
  by_cases he : id = other
  case pos => rw [if_pos he, if_pos he.symm, he]; rfl
  case neg => rw [if_neg he, if_neg (Ne.symm he), h]

theorem perform (h : Memory.Holds past m) {op : Operation}
    (hl : ∀ id, (putsUnder id (past ++ [op])).length < UInt64.size) :
    Memory.Holds (past ++ [op]) (m.perform op).2 := by
  cases op
  case get => exact fun id => by rw [putsUnder_get]; exact h id
  case put id d =>
    have hl := hl id
    rw [putsUnder_put, if_pos rfl] at hl
    exact h.put hl

theorem after (past : List Operation) (hl : ∀ id, (putsUnder id past).length < UInt64.size) :
    Memory.Holds past (Store.after Memory.perform .empty past) := by
  induction past using List.reverseRecOn
  case nil => exact fun id => rfl
  case append_singleton past op hi =>
    rw [after_append]
    exact (hi fun id => Nat.lt_of_le_of_lt length_putsUnder_le (hl id)).perform hl

end Memory.Holds

-- Replies that say the same to an operation on an id, under which some detectors have been put
-- before, the last one first. Documents may differ, but both are the last detector, under the id
-- and the version that it has. Where all versions have been used, both crash.
inductive Agree (ds : List Detector) : Operation → Reply → Reply → Prop
  | put {id : String} {d : Detector} {version : UInt64} : version.toNat = ds.length + 1 →
    Agree ds (.put id d) (.put (.ok version)) (.put (.ok version))
  | last {id : String} {d : Detector} : ds.length + 1 = UInt64.size →
    Agree ds (.put id d) (.put (.error (.task .overflow))) .crashed
  | missing {id : String} : ds = [] →
    Agree ds (.get id) (.got (.ok .missing)) (.got (.ok .missing))
  | found {id : String} {d : Detector} {version : UInt64} {source source' : Octets} :
    ds.head? = some d → version.toNat = ds.length →
    Detector.ofDocument source id (some version) =
      .ok { d with id := some id, version := some version } →
    Detector.ofDocument source' id (some version) =
      .ok { d with id := some id, version := some version } →
    Agree ds (.get id) (.got (.ok (.holding ⟨source, version⟩)))
      (.got (.ok (.holding ⟨source', version⟩)))

theorem agree_get {ds : List Detector} {id : String} (hd : ∀ d ∈ ds, IsReadFrom d 126)
    (hl : ds.length < UInt64.size) :
    Agree ds (.get id) (.got (.ok (.of ((envelopeAfter ds).map Envelope.stored))))
      (.got (.ok (.of (storedAfter ds)))) := by
  cases ds
  case nil => exact .missing rfl
  case cons d ds =>
    have hr := hd d List.mem_cons_self
    have hf : d.Fits 124 := hr.fits.mono (Nat.le_succ 123)
    exact .found rfl (version_envelopeAfter hl)
      (Envelope.ofDocument_documentOf hf (Nat.le_of_lt hr.depth_lt)
        (Envelope.readsBack_documentOf hr.floats 0) id _)
      (Detector.ofDocument_toJson hf hr.floats id _)

-- Neither store gives another id a new answer, not even as it crashes.
theorem get_other {h : File.Handle} {m : Memory} {dir id : String} {p : Place}
    {past : List Operation} {op : Operation} (hh : File.Holds dir p past h)
    (hm : Memory.Holds past m) (hs : ∀ o ∈ past, o.Storable) (ho : op.Storable)
    (hl : ∀ id, (putsUnder id past).length < UInt64.size) (hi : IsFileId id) (hn : id ≠ op.id) :
    File.get (File.perform dir h op).2.files dir id = File.get h.files dir id ∧
    ((m.perform op).2.get .system id).1 = (m.get .system id).1 := by
  cases ho
  case get => exact ⟨rfl, rfl⟩
  case put other d ho hr =>
    have ho' : other ≠ id := Ne.symm hn
    by_cases hv : (putsUnder other past).length + 1 < UInt64.size
    case pos =>
      have hs' : ∀ o ∈ past ++ [.put other d], o.Storable :=
        List.forall_mem_append.mpr ⟨hs, List.forall_mem_singleton.mpr (.put ho hr)⟩
      rw [File.perform_put (hh.put_eq hs ho hv), (hh.put ho).get hs' hi, hh.get hs hi,
        putsUnder_put, if_neg ho']
      refine ⟨rfl, ?_⟩
      have hm' : Memory.Holds (past ++ [.put other d]) (m.put other d).2 := hm.put hv
      exact (hm'.get .system).trans <| by rw [putsUnder_put, if_neg ho', hm.get]
    case neg =>
      rw [File.perform_put (hh.put_last hs ho (hl other) hv), Memory.perform,
        hm.put_last (hl other) hv]
      exact ⟨rfl, rfl⟩

-- Both stores start empty, the one in a directory whose path leaves room for the names of its
-- files. They agree as long as versions do, and still in that they crash behind the last one.
theorem file_simulates_memory {fs : FileSystem} {dir : String} {p : Place} {past : List Operation}
    {op : Operation} (hp : fs.Houses dir p) (he : ∀ name, fs.entry? (p ++ [name]) = none)
    (hs : ∀ o ∈ past ++ [op], o.Storable)
    (hl : ∀ id, (putsUnder id past).length < UInt64.size) :
    let onDisk := after (File.perform dir) ⟨fs, false⟩ past
    let inMemory := after Memory.perform .empty past
    Agree (putsUnder op.id past) op (File.perform dir onDisk op).1 (inMemory.perform op).1 ∧
    ∀ id, IsFileId id → id ≠ op.id →
      File.get (File.perform dir onDisk op).2.files dir id = File.get onDisk.files dir id ∧
      ((inMemory.perform op).2.get .system id).1 = (inMemory.get .system id).1 := by
  intro onDisk inMemory
  have ⟨hs', ho⟩ := List.forall_mem_append.mp hs
  have ho := ho op (List.mem_singleton_self op)
  have hd : File.Holds dir p past onDisk := .after hp he hs' hl
  have hm : Memory.Holds past inMemory := .after past hl
  refine ⟨?agree, fun id hi hn => get_other hd hm hs' ho hl hi hn⟩
  cases ho
  case get id hi =>
    simp only [File.perform, Memory.perform, hd.get hs' hi, hm.get]
    refine agree_get (fun d hd => ?_) (hl id)
    cases hs' _ (mem_putsUnder hd)
    assumption
  case put id d hi _ =>
    by_cases hv : (putsUnder id past).length + 1 < UInt64.size
    case pos =>
      rw [File.perform_put (hd.put_eq hs' hi hv), Memory.perform, hm.put_eq hv]
      exact .put (UInt64.toNat_ofNat_of_lt' hv)
    case neg =>
      rw [File.perform_put (hd.put_last hs' hi (hl id) hv), Memory.perform,
        hm.put_last (hl id) hv]
      exact .last (Nat.le_antisymm (hl id) (Nat.not_lt.mp hv))

-- Two ids in a directory of the root, one of them with one detector after another.
theorem file_simulates_memory_two_ids :
    let first : Detector :=
      { Detector.blank with name := "n", timeField := "t", interval := ⟨1, .days⟩ }
    let second : Detector := { first with name := "m", filter := some (.object []) }
    let fs : FileSystem := ⟨[(["d"], .directory)], []⟩
    let past : List Operation := [.put "a" first, .put "b" first, .put "a" second]
    let onDisk := after (File.perform "d") ⟨fs, false⟩ past
    let inMemory := after Memory.perform .empty past
    fs.Houses "d" ["d"] ∧ (∀ name, fs.entry? (["d"] ++ [name]) = none) ∧
    (∀ o ∈ past ++ [.get "a"], o.Storable) ∧
    (∀ id, (putsUnder id past).length < UInt64.size) ∧
    Agree [second, first] (.get "a") (File.perform "d" onDisk (.get "a")).1
      (inMemory.perform (.get "a")).1 := by
  intro first second fs past onDisk inMemory
  have hp : fs.Houses "d" ["d"] :=
    ⟨Outcome.eq_ok_of_toOption (by decide +kernel), rfl, by decide +kernel⟩
  have he (name : String) : fs.entry? (["d"] ++ [name]) = none := by
    simp [fs, FileSystem.entry?, List.lookup_cons]
  have ha : IsFileId "a" := ⟨by decide +kernel, by decide⟩
  have hb : IsFileId "b" := ⟨by decide +kernel, by decide⟩
  have hr₁ : IsReadFrom first 126 := by
    refine ⟨⟨.text, .ofValue first.toJson, by decide +kernel,
      Outcome.eq_ok_of_toOption (by decide +kernel)⟩, ?_⟩
    rintro x (⟨_, hj, _⟩ | ⟨_, hf, _⟩) <;> contradiction
  have hr₂ : IsReadFrom second 126 := by
    refine ⟨⟨.text, .ofValue second.toJson, by decide +kernel,
      Outcome.eq_ok_of_toOption (by decide +kernel)⟩, ?_⟩
    rintro x (⟨j, hj, hm⟩ | ⟨_, hf, _⟩)
    case inl => cases hj; cases hm; contradiction
    case inr => contradiction
  have hs : ∀ o ∈ past ++ [.get "a"], o.Storable := by
    simp only [past, List.cons_append, List.nil_append, List.forall_mem_cons]
    exact ⟨.put ha hr₁, .put hb hr₁, .put ha hr₂, .get ha, List.forall_mem_nil _⟩
  have hl (id : String) : (putsUnder id past).length < UInt64.size :=
    Nat.lt_of_le_of_lt (List.length_filterMap_le ..) (by decide)
  exact ⟨hp, he, hs, hl, (file_simulates_memory hp he hs hl).left⟩

-- The root may be written with any number of slashes, as long as the path is not too long. With one
-- that leaves no room for a name, nothing can be put into it, though it is as empty as any. And
-- where there is room, a number may come out of a document as its neighbour, in memory as in a
-- directory.
theorem file_fails_where_memory_does_not :
    let dir := String.ofList (List.replicate 4090 '/')
    let fs : FileSystem := ⟨[], []⟩
    let d : Detector :=
      { Detector.blank with name := "n", timeField := "t", interval := ⟨1, .days⟩ }
    let x : Float := 1.6747030734736856e-40
    let e : Detector := { d with filter := some (.number (.float x)) }
    (fs.locate dir = .ok [] ∧ fs.entry? [] = some .directory ∧
      (∀ name, fs.entry? ([] ++ [name]) = none) ∧ Operation.Storable (.put "a" d) ∧
      (File.perform dir ⟨fs, false⟩ (.put "a" d)).1 = .put (.error (.file .nameTooLong)) ∧
      (Memory.empty.perform (.put "a" d)).1 = .put (.ok 1) ∧
      ¬Agree [] (.put "a" d) (File.perform dir ⟨fs, false⟩ (.put "a" d)).1
        (Memory.empty.perform (.put "a" d)).1) ∧
    ¬(Json.Number.float x).ReadsBack ∧
    ∀ reply, ¬Agree [e] (.get "a") reply
      ((after Memory.perform .empty [.put "a" e]).perform (.get "a")).1 := by
  intro dir fs d x e
  have ha : IsFileId "a" := ⟨by decide +kernel, by decide⟩
  have hr : IsReadFrom d 126 := by
    refine ⟨⟨.text, .ofValue d.toJson, by decide +kernel,
      Outcome.eq_ok_of_toOption (by decide +kernel)⟩, ?_⟩
    rintro x (⟨_, hj, _⟩ | ⟨_, hf, _⟩) <;> contradiction
  have long (n : Nat) (hn : n ≠ 0) (hl : Files.pathLimit < n + 6) :
      File.Handle.put ⟨fs, false⟩ (String.ofList (List.replicate n '/')) "a" d =
        (.error (.file .nameTooLong), ⟨fs, false⟩) := by
    refine File.Handle.put_of_sound rfl (File.put_of_long (by simp [hn]) (by simp) ha ?_)
    rw [Files.utf8ByteSize_replicate]
    exact (Nat.mul_one n).symm ▸ hl
  have hp : File.perform dir ⟨fs, false⟩ (.put "a" d) = _ :=
    File.perform_put (long 4090 (by decide) (by decide))
  refine ⟨⟨FileSystem.locate_slashes fs (by decide) (by decide), rfl, fun _ => rfl, .put ha hr,
    by rw [hp], rfl, by rw [hp]; exact nofun⟩, ?number, ?detector⟩
  case number =>
    rintro ⟨l, hl, _, hv⟩
    have hn : (Json.Numeral.ofText? (Json.Number.float x).text).bind (·.value?) ≠
        some (.float x) := by
      decide +kernel
    exact hn (by rw [hl, Option.bind_some, hv])
  case detector =>
    have hs : ((Detector.ofDocument (Text.encode e.toJson.compact) "a" (some 1)).toOption.bind
        (·.filter)) ≠ e.filter := by
      decide +kernel
    have honest (source : Octets) (version : UInt64) (reply : Reply)
        (h : Agree [e] (.get "a") reply (.got (.ok (.holding ⟨source, version⟩)))) :
        ((Detector.ofDocument source "a" (some version)).toOption.bind (·.filter)) = e.filter := by
      cases h
      case found hd _ _ h =>
        cases hd
        rw [h]
        rfl
    exact fun reply h => hs (honest _ 1 reply h)

end AnomalyDetection.Store

import AnomalyDetection.Proofs.Files
import AnomalyDetection.Proofs.Store.Envelope

namespace AnomalyDetection.Store

-- The fault of a file whose document leaves no room for the envelope around it.
def Envelope.tooDeep : Fault := .json (.inside "source" .malformed)

namespace File

open Envelope (documentOf tooDeep)
open Json (nestingLimit)

variable {fs fs' : FileSystem} {dir id : String} {d : Detector} {version : UInt64}
  {before : Option Envelope} {fault : Fault}

-- The number of the version that a write goes on from.
def versionOf (before : Option Envelope) : Nat := before.elim 0 (·.version.toNat)

theorem nextVersion_eq_ok :
    nextVersion before = .ok version ↔ version.toNat = versionOf before + 1 := by
  cases before
  case none =>
    simp only [nextVersion, versionOf, Option.elim_none, Except.ok.injEq]
    exact eq_comm.trans UInt64.toNat_inj.symm
  case some e =>
    rw [versionOf, Option.elim_some, ← succ?_eq_some, nextVersion]
    cases succ? e.version <;> simp

theorem nextVersion_eq_error : nextVersion before = .error fault ↔
    ¬versionOf before + 1 < UInt64.size ∧ fault = .task .overflow := by
  cases before
  case none => exact ⟨nofun, fun h => absurd (by decide) h.left⟩
  case some e =>
    rw [versionOf, Option.elim_some, ← succ?_eq_none, nextVersion]
    cases succ? e.version <;> simp [eq_comm]

-- The envelope of a detector is read as it was written, if there is room for its document.
theorem envelope?_of_content
    (hr : fs.read (path dir id) = .ok (Envelope.content ⟨version, documentOf d⟩))
    (hn : Envelope.ReadsBack ⟨version, documentOf d⟩) :
    envelope? fs dir id =
      if (documentOf d).depth < nestingLimit then .ok (some ⟨version, documentOf d⟩)
      else .error tooDeep := by
  simp only [envelope?, hr, Envelope.ofContent_content d.isSorted_documentOf hn]
  split
  case isTrue => rfl
  case isFalse => rfl

-- All that the directory holds under an id are envelopes.
def HoldsEnvelopes (fs : FileSystem) (dir id : String) : Prop :=
  ∀ target ∈ [path dir id, draftPath dir id], ∀ content, fs.read target = .ok content →
    ∃ e : Envelope, e.ReadsBack ∧ e.content = content

-- What a write that was successful has found, and what it leaves behind.
structure Wrote (fs : FileSystem) (dir id : String) (d : Detector) (version : UInt64)
    (fs' : FileSystem) (p q : Files.Place) : Prop where
  valid : isValidId id
  found : ∃ before, envelope? fs dir id = .ok before ∧ nextVersion before = .ok version
  draft : fs.Takes (draftPath dir id) p
  target : fs.Takes (path dir id) q
  after : fs' = fs.replacing p q (Envelope.content ⟨version, documentOf d⟩)

theorem wrote_of_put (h : put fs dir id d = (.ok version, fs')) :
    ∃ p q, Wrote fs dir id d version fs' p q := by
  unfold put at h
  split at h
  case isTrue => cases h
  case isFalse hv =>
    split at h
    case h_1 => cases h
    case h_2 before he =>
      split at h
      case h_1 => cases h
      case h_2 next hn =>
        split at h
        case h_1 => cases h
        case h_2 drafted hw =>
          split at h
          case h_1 => cases h
          case h_2 hr =>
            cases h
            have hv : isValidId id := by simpa using hv
            have ⟨p, q, hp, hq, ha⟩ := FileSystem.takes_of_replace (Outcome.mapError_eq_ok hw)
              (Outcome.mapError_eq_ok hr)
            exact ⟨p, q, hv, ⟨before, he, hn⟩, hp, hq, ha⟩

theorem put_of_takes {p q : Files.Place} (hv : isValidId id)
    (he : envelope? fs dir id = .ok before) (hn : nextVersion before = .ok version)
    (hp : fs.Takes (draftPath dir id) p) (hq : fs.Takes (path dir id) q) :
    put fs dir id d =
      (.ok version, fs.replacing p q (Envelope.content ⟨version, documentOf d⟩)) := by
  simp only [put, hv, he, hn, draft, commit, hp.write, Except.mapError, hp.replace hq,
    Bool.not_true, Bool.false_eq_true, if_false]

theorem put_of_fault (hv : isValidId id) (he : envelope? fs dir id = .error fault) :
    put fs dir id d = (.error fault, fs) := by
  simp only [put, hv, he, Bool.not_true, Bool.false_eq_true, if_false]

-- Where there is no next version, the write crashes before it has written anything.
theorem put_of_last (hv : isValidId id) (he : envelope? fs dir id = .ok before)
    (hn : ¬versionOf before + 1 < UInt64.size) :
    put fs dir id d = (.error (.task .overflow), fs) := by
  have hf : nextVersion before = .error (.task .overflow) := nextVersion_eq_error.mpr ⟨hn, rfl⟩
  simp only [put, hv, he, hf, Bool.not_true, Bool.false_eq_true, if_false]

-- A store whose lock is sound writes, and keeps it so unless the write crashes.
theorem Handle.put_of_sound {h : Handle} {answer : Except Fault UInt64} (hs : h.poisoned = false)
    (hw : File.put h.files dir id d = (answer, fs')) :
    h.put dir id d = (answer, ⟨fs', crashed answer⟩) := by
  rw [put, hs, hw, Bool.and_false]
  rfl

namespace Wrote

variable {p q : Files.Place}

theorem keepsDirectories (h : Wrote fs dir id d version fs' p q) : fs.KeepsDirectories fs' :=
  h.after ▸ FileSystem.keepsDirectories_replacing h.draft.free h.target.free _

-- Files that are no files of the store are left alone.
theorem read {path : String} {source : Octets} (h : Wrote fs dir id d version fs' p q)
    (hr : fs.read path = .ok source)
    (hn : ∀ target ∈ [File.path dir id, draftPath dir id], fs.read target ≠ .ok source) :
    fs'.read path = .ok source := by
  rw [h.after]
  exact FileSystem.read_replacing_other h.draft h.target hr (hn _ (by simp)) (hn _ (by simp))

theorem read_target (h : Wrote fs dir id d version fs' p q) :
    fs'.read (path dir id) = .ok (Envelope.content ⟨version, documentOf d⟩) := by
  rw [h.after]
  exact FileSystem.read_replacing_target h.draft h.target

theorem envelope? (h : Wrote fs dir id d version fs' p q)
    (hn : Envelope.ReadsBack ⟨version, documentOf d⟩) :
    File.envelope? fs' dir id =
      if (documentOf d).depth < nestingLimit then .ok (some ⟨version, documentOf d⟩)
      else .error tooDeep :=
  envelope?_of_content h.read_target hn

theorem get (h : Wrote fs dir id d version fs' p q)
    (hn : Envelope.ReadsBack ⟨version, documentOf d⟩) :
    File.get fs' dir id =
      if (documentOf d).depth < nestingLimit then
        .ok (.holding ⟨Text.encode (documentOf d).compact, version⟩)
      else .error tooDeep := by
  rw [File.get, if_pos h.valid, h.envelope? hn]
  split
  case isTrue => rfl
  case isFalse => rfl

-- The next write under the id goes on from the version that is there, if it can be read and is not
-- the last.
theorem put (h : Wrote fs dir id d version fs' p q)
    (hn : Envelope.ReadsBack ⟨version, documentOf d⟩) (d' : Detector) :
    if (documentOf d).depth < nestingLimit then
      if version.toNat + 1 < UInt64.size then (File.put fs' dir id d').1 = .ok (version + 1)
      else File.put fs' dir id d' = (.error (.task .overflow), fs')
    else File.put fs' dir id d' = (.error tooDeep, fs') := by
  have he := h.envelope? hn
  split
  case isTrue hd =>
    rw [if_pos hd] at he
    split
    case isTrue hl =>
      have ht : fs'.Takes (path dir id) q := h.after ▸ h.target.replacing h.draft h.target _
      have hs : fs'.Takes (draftPath dir id) p := h.after ▸ h.draft.replacing h.draft h.target _
      have hv : nextVersion (some ⟨version, documentOf d⟩) = .ok (version + 1) :=
        nextVersion_eq_ok.mpr (toNat_succ hl)
      exact congrArg Prod.fst (put_of_takes h.valid he hv hs ht)
    case isFalse hl => exact put_of_last h.valid he hl
  case isFalse hd =>
    rw [if_neg hd] at he
    exact put_of_fault h.valid he

end Wrote
end File
end AnomalyDetection.Store

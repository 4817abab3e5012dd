import AnomalyDetection.Proofs.Store.Simulation
import AnomalyDetection.Proofs.Store.Untouched

namespace AnomalyDetection.Store

-- Whether something has been put. A write that fails puts nothing.
def Reply.isStored : Reply → Bool
  | put (.ok _) => true
  | _ => false

-- An operation in a directory, for which a store may be opened anew.
structure Visit where
  anew : Bool
  op : Operation

namespace File

open Files (Place TooLong)

variable {fs fs' : FileSystem} {h : Handle} {dir id other : String} {p : Place} {d : Detector}
  {version : UInt64} {past : List Visit}

-- Nobody has had the lock of a store that has just been opened.
def Handle.renewed (h : Handle) (anew : Bool) : Handle := if anew then ⟨h.files, false⟩ else h

theorem Handle.files_renewed (h : Handle) (anew : Bool) : (h.renewed anew).files = h.files := by
  cases anew <;> rfl

def visit (dir : String) (h : Handle) (v : Visit) : Reply × Handle :=
  perform dir (h.renewed v.anew) v.op

-- The ids under which something has been put.
def idsPut (dir : String) (h : Handle) : List Visit → List String
  | [] => []
  | v :: past =>
    let (reply, h') := visit dir h v
    if reply.isStored then v.op.id :: idsPut dir h' past else idsPut dir h' past

theorem mem_idsPut (hm : id ∈ idsPut dir h past) : ∃ anew d, ⟨anew, .put id d⟩ ∈ past := by
  induction past generalizing h
  case nil => cases hm
  case cons v past hi =>
    have later (hm : id ∈ idsPut dir (visit dir h v).2 past) :
        ∃ anew d, ⟨anew, .put id d⟩ ∈ v :: past :=
      (hi hm).imp fun _ => Exists.imp fun _ => List.mem_cons_of_mem v
    unfold idsPut at hm
    dsimp only at hm
    split at hm
    case isFalse => exact later hm
    case isTrue hs =>
      rcases List.mem_cons.mp hm with rfl | h
      case inr => exact later h
      case inl =>
        obtain ⟨anew, op⟩ := v
        cases op
        case get => cases hs
        case put id d => exact ⟨anew, d, List.mem_cons_self⟩

-- A directory that has no file for an id.
structure Lacks (dir : String) (p : Place) (id : String) (fs : FileSystem) : Prop where
  admits : fs.Admits dir p
  target : fs.entry? (targetPlace p id) = none

namespace Lacks

theorem put (h : Lacks dir p id fs) (hw : put fs dir other d = (.ok version, fs'))
    (hn : id ≠ other) : Lacks dir p id fs' := by
  have ⟨_, _, hw⟩ := wrote_of_put hw
  exact ⟨h.admits.keepsDirectories hw.keepsDirectories,
    (hw.entry?_target_of_ne h.admits hn).trans h.target⟩

theorem perform (hl : Lacks dir p id h.files) {op : Operation}
    (hn : (perform dir h op).1.isStored → id ≠ op.id) :
    Lacks dir p id (perform dir h op).2.files := by
  cases op
  case get => exact hl
  case put other d =>
    rcases hw : h.put dir other d with ⟨_ | version, h'⟩
    all_goals rw [perform_put hw] at hn ⊢
    case error => exact Handle.files_of_put_error hw ▸ hl
    case ok =>
      have ⟨_, _, hw⟩ := Handle.put_eq_ok hw
      exact hl.put hw (hn rfl)

theorem visit (hl : Lacks dir p id h.files) {v : Visit}
    (hn : (visit dir h v).1.isStored → id ≠ v.op.id) :
    Lacks dir p id (visit dir h v).2.files := by
  rw [← h.files_renewed v.anew] at hl
  exact hl.perform hn

theorem after (hl : Lacks dir p id h.files) (hn : id ∉ idsPut dir h past) :
    Lacks dir p id (after (File.visit dir) h past).files := by
  induction past generalizing h
  case nil => exact hl
  case cons v past hi =>
    unfold idsPut at hn
    dsimp only at hn
    split at hn
    case isTrue =>
      have ⟨ho, hn⟩ := not_or.mp (mt List.mem_cons.mpr hn)
      exact hi (hl.visit fun _ => ho) hn
    case isFalse hs => exact hi (hl.visit fun ho => absurd ho hs) hn

theorem get (h : Lacks dir p id fs) : File.get fs dir id =
    if isValidId id ∧ TooLong dir (id ++ ".json") then .error (.file .nameTooLong)
    else .ok .missing := by
  by_cases hv : isValidId id
  case neg => rw [File.get, if_neg hv, if_neg fun ht => hv ht.left]
  case pos =>
    have hl : fs.locate (Files.join dir (id ++ ".json")) = _ :=
      locate_of_admits h.admits hv rfl (by decide)
    have he := h.target
    rw [File.get, if_pos hv, envelope?, path, FileSystem.read, hl]
    by_cases ht : TooLong dir (id ++ ".json")
    case pos => rw [if_pos ht, if_pos ⟨hv, ht⟩]; rfl
    case neg =>
      rw [if_neg ht, if_neg fun h => ht h.right]
      simp only [bind, Except.bind]
      unfold targetPlace at he
      rw [he]
      rfl

end Lacks

end File
end AnomalyDetection.Store

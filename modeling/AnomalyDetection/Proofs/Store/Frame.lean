import AnomalyDetection.Files.Disk
import AnomalyDetection.Proofs.Engine.Window
import AnomalyDetection.Proofs.Store.Layout

namespace AnomalyDetection

open Files

namespace FileSystem

variable {fs fs' : FileSystem} {p : Place} {path : String}

-- Entries that are the same for a path that goes on.
inductive Alike : Option Entry → Option Entry → Prop
  | missing : Alike none none
  | directory : Alike (some .directory) (some .directory)
  | file (content content' : Octets) : Alike (some (.file content)) (some (.file content'))

theorem Alike.refl (e : Option Entry) : Alike e e := by
  rcases e with _ | _ | _
  case none => exact .missing
  case some.file content => exact .file content content
  case some.directory => exact .directory

theorem follow_congr {names : List String}
    (h : ∀ q ∈ placesTo.go p names, Alike (fs.entry? q) (fs'.entry? q)) :
    fs'.follow p names = fs.follow p names := by
  induction names generalizing p
  case nil => rfl
  case cons name rest hi =>
    unfold placesTo.go at h
    unfold follow
    split at h
    case isTrue hn => rw [if_pos hn, if_pos hn, hi h]
    case isFalse hn =>
      rw [if_neg hn, if_neg hn]
      split at h
      case isTrue hb => rw [if_pos hb, if_pos hb, hi h]
      case isFalse hb =>
        obtain ⟨ha, h⟩ := List.forall_mem_cons.mp h
        rw [if_neg hb, if_neg hb]
        dsimp only
        rw [hi h]
        generalize fs.entry? (p ++ [name]) = e at ha
        generalize fs'.entry? (p ++ [name]) = e' at ha
        cases ha <;> rfl

theorem locate_congr (hh : fs'.here = fs.here)
    (h : ∀ q ∈ placesTo fs.here path, Alike (fs.entry? q) (fs'.entry? q)) :
    fs'.locate path = fs.locate path := by
  unfold locate
  rw [hh, follow_congr h]

end FileSystem

namespace Extract

theorem getLast?_of_locate {fs : FileSystem} {series index : String} {p : Place}
    (h : fs.locate (indexPath series index) = .ok p) :
    ∃ name, p.getLast? = some (name ++ ".jsonl") := by
  have ⟨s, hs⟩ := join_append series index ".jsonl"
  have ⟨front, name, hn⟩ : ∃ front name, names (s ++ ".jsonl") = front ++ [name ++ ".jsonl"] :=
    names_append s (by decide)
  have ⟨_, _, hl⟩ := FileSystem.leads_of_locate h
  rw [indexPath, hs, hn] at hl
  exact ⟨name, hl.getLast? (not_or.mpr ⟨append_ne (by decide), append_ne (by decide)⟩)
    (append_ne (by decide))⟩

end Extract

namespace Store

variable {fs fs' : FileSystem} {dir id path : String} {d : Detector} {version : UInt64}
  {p q r : Place}

-- A path that a write under an id leaves alone. It leads through no file that the write makes, and
-- through no draft that was left behind before and that the write takes away.
def Steady (fs : FileSystem) (dir id path : String) : Prop :=
  ∀ r ∈ placesTo fs.here path,
    (fs.locate (File.path dir id) = .ok r → fs.entry? r ≠ none) ∧
    (fs.locate (File.draftPath dir id) = .ok r → fs.entry? r = none)

instance : Decidable (Steady fs dir id path) :=
  inferInstanceAs (Decidable (∀ r ∈ placesTo fs.here path, _))

namespace File.Wrote

theorem alike (h : Wrote fs dir id d version fs' p q) (ht : r = q → fs.entry? r ≠ none)
    (hd : r = p → fs.entry? r = none) : FileSystem.Alike (fs.entry? r) (fs'.entry? r) := by
  by_cases hn : r = []
  case pos => exact hn ▸ .directory
  case neg =>
    rw [h.after, FileSystem.entry?_replacing hn]
    split
    case isTrue hq =>
      subst hq
      have hf := h.target.free
      rcases he : fs.entry? r with _ | _ | _
      case none => exact absurd he (ht rfl)
      case some.file content => exact .file content _
      case some.directory => exact absurd he hf
    case isFalse =>
      split
      case isTrue hp => rw [hd hp]; exact .missing
      case isFalse => exact .refl _

theorem locate (h : Wrote fs dir id d version fs' p q) (hs : Steady fs dir id path) :
    fs'.locate path = fs.locate path := by
  have hh : fs'.here = fs.here := h.keepsDirectories.here
  refine FileSystem.locate_congr hh fun r hr => ?_
  have ⟨ht, hd⟩ := hs r hr
  refine h.alike (fun hq => ht (hq ▸ h.target.located)) (fun hp => hd (hp ▸ h.draft.located))

-- No index has the name of a file of the store.
theorem ne_of_index {series index : String} (h : Wrote fs dir id d version fs' p q)
    (hr : fs.locate (Extract.indexPath series index) = .ok r) : r ≠ p ∧ r ≠ q := by
  have ⟨name, hn⟩ := Extract.getLast?_of_locate hr
  constructor
  case left =>
    rintro rfl
    have hl := congrArg (·.toList.getLast?) (Option.some.inj (hn.symm.trans h.getLast?_draft))
    simp at hl
  case right =>
    rintro rfl
    have hl := congrArg (·.toList.getLast?) (Option.some.inj (hn.symm.trans h.getLast?_target))
    simp at hl

theorem indexLines {series index : String} (h : Wrote fs dir id d version fs' p q)
    (hs : Steady fs dir id (Extract.indexPath series index)) :
    Extract.indexLines fs' series index = Extract.indexLines fs series index := by
  have hr : fs'.read (Extract.indexPath series index) =
      fs.read (Extract.indexPath series index) := by
    refine FileSystem.read_congr (h.locate hs) fun r hr => ?_
    have ⟨hp, hq⟩ := h.ne_of_index hr
    by_cases hn : r = []
    case pos => rw [hn]; rfl
    case neg => rw [h.after, FileSystem.entry?_replacing hn, if_neg hq, if_neg hp]
  unfold Extract.indexLines FileSystem.readText
  rw [hr]

end File.Wrote
end Store
end AnomalyDetection

import AnomalyDetection.Proofs.Paths
import AnomalyDetection.Proofs.Store.File

namespace AnomalyDetection.Store

open Files (Plain Place TooLong nameLimit append_ne)

-- An id whose files have names that are not too long.
structure IsFileId (id : String) : Prop where
  valid : isValidId id
  short : id.utf8ByteSize ≤ 246

theorem notMem_append {id ending : String} (hv : isValidId id)
    (he : ending.toList.all isIdChar) {c : Char} (hc : isIdChar c = false) :
    c ∉ (id ++ ending).toList := by
  simp only [isValidId, Bool.and_eq_true] at hv
  intro hm
  rw [String.toList_append] at hm
  cases List.mem_append.mp hm
  case inl hm => exact absurd (List.all_eq_true.mp hv.right c hm) (hc ▸ Bool.false_ne_true)
  case inr hm => exact absurd (List.all_eq_true.mp he c hm) (hc ▸ Bool.false_ne_true)

-- Ids may be of any length.
theorem isValidId_replicate {n : Nat} (h : 0 < n) :
    isValidId (String.ofList (List.replicate n 'a')) := by
  have hn : (String.ofList (List.replicate n 'a')).toList = List.replicate n 'a' :=
    String.toList_ofList
  have ha : (List.replicate n 'a').all isIdChar :=
    List.all_eq_true.mpr fun c hc => by rw [List.eq_of_mem_replicate hc]; rfl
  have other (s : String) (hs : 'a' ∉ s.toList) : String.ofList (List.replicate n 'a') ≠ s := by
    rintro rfl
    rw [hn] at hs
    exact hs (List.mem_replicate.mpr ⟨Nat.ne_of_gt h, rfl⟩)
  simp only [isValidId, hn, ha, Bool.and_true, bne_iff_ne.mpr (other "" (by decide)),
    bne_iff_ne.mpr (other "." (by decide)), bne_iff_ne.mpr (other ".." (by decide))]

namespace IsFileId

variable {id : String}

theorem plain_append (h : IsFileId id) {ending : String} (hc : ending.toList.all isIdChar)
    (hl : 2 < ending.utf8ByteSize) (hs : ending.utf8ByteSize ≤ 9) : Plain (id ++ ending) where
  ne_empty := append_ne (Nat.zero_lt_of_lt hl)
  ne_here := append_ne (Nat.lt_of_succ_lt hl)
  ne_around := append_ne hl
  slash := notMem_append h.valid hc rfl
  zero := notMem_append h.valid hc rfl
  short := by
    have hb := h.short
    rw [String.utf8ByteSize_append, nameLimit]
    omega

theorem plain_target (h : IsFileId id) : Plain (id ++ ".json") :=
  h.plain_append rfl (by decide) (by decide)

theorem plain_draft (h : IsFileId id) : Plain (id ++ ".json.tmp") :=
  h.plain_append rfl (by decide) (by decide)

end IsFileId

namespace File

variable {fs : FileSystem} {dir id other : String} {p : Place}

def targetPlace (p : Place) (id : String) : Place := p ++ [id ++ ".json"]

def draftPlace (p : Place) (id : String) : Place := p ++ [id ++ ".json.tmp"]

theorem targetPlace_inj : targetPlace p id = targetPlace p other ↔ id = other := by
  simp [targetPlace, String.append_left_inj]

theorem target_ne_draft (id other : String) : id ++ ".json" ≠ other ++ ".json.tmp" := by
  intro h
  have h := congrArg (·.toList.getLast?) h
  simp at h

theorem targetPlace_ne_draftPlace (p : Place) (id other : String) :
    targetPlace p id ≠ draftPlace p other := by
  intro h
  exact target_ne_draft id other (by simpa [targetPlace, draftPlace] using h)

theorem targetPlace_ne_nil (p : Place) (id : String) : targetPlace p id ≠ [] :=
  List.append_ne_nil_of_right_ne_nil p (List.cons_ne_nil _ _)

theorem draftPlace_ne_nil (p : Place) (id : String) : draftPlace p id ≠ [] :=
  List.append_ne_nil_of_right_ne_nil p (List.cons_ne_nil _ _)

theorem locate_path (h : fs.Houses dir p) (hi : IsFileId id) :
    fs.locate (path dir id) = .ok (targetPlace p id) :=
  h.locate hi.plain_target

theorem locate_draftPath (h : fs.Houses dir p) (hi : IsFileId id) :
    fs.locate (draftPath dir id) = .ok (draftPlace p id) :=
  h.locate hi.plain_draft

theorem locate_of_admits {ending : String} (h : fs.Admits dir p) (hv : isValidId id)
    (he : ending.toList.all isIdChar) (hl : 2 < ending.utf8ByteSize) :
    fs.locate (Files.join dir (id ++ ending)) =
      if TooLong dir (id ++ ending) then .error .nameTooLong else .ok (p ++ [id ++ ending]) := by
  have hs : '/' ∉ (id ++ ending).toList := notMem_append hv he rfl
  have hz : '\x00' ∉ (id ++ ending).toList := notMem_append hv he rfl
  have hk : ¬(id ++ ending = "" ∨ id ++ ending = ".") :=
    not_or.mpr ⟨append_ne (Nat.zero_lt_of_lt hl), append_ne (Nat.lt_of_succ_lt hl)⟩
  rw [FileSystem.locate_join dir (Files.not_startsWith_of_notMem hs) (not_or.mp hk).left,
    if_neg (Files.zero_notMem_join h.zero hz), h.entered, Files.names_of_notMem hs]
  simp only [bind, Except.bind, FileSystem.follow_singleton fs p hk (append_ne hl)]
  by_cases ht : TooLong dir (id ++ ending)
  case pos =>
    rw [if_pos ht]
    split
    case isTrue => rfl
    case isFalse hp => rw [if_pos (ht.resolve_right hp)]
  case neg => rw [if_neg ht, if_neg (not_or.mp ht).right, if_neg (not_or.mp ht).left]

theorem admits_of_locate {ending : String} {q : Place} (hv : isValidId id)
    (he : ending.toList.all isIdChar) (hl : 2 < ending.utf8ByteSize)
    (hq : fs.locate (Files.join dir (id ++ ending)) = .ok q) :
    ∃ p, fs.Admits dir p ∧ ¬TooLong dir (id ++ ending) := by
  have hs : '/' ∉ (id ++ ending).toList := notMem_append hv he rfl
  have hr := Files.not_startsWith_of_notMem hs
  have hk : ¬(id ++ ending = "" ∨ id ++ ending = ".") :=
    not_or.mpr ⟨append_ne (Nat.zero_lt_of_lt hl), append_ne (Nat.lt_of_succ_lt hl)⟩
  rw [FileSystem.locate_join dir hr (not_or.mp hk).left] at hq
  split at hq
  case isTrue => cases hq
  case isFalse hz =>
  split at hq
  case isTrue => cases hq
  case isFalse hp =>
  have ⟨p, hd, hf⟩ := Outcome.bind_eq_ok hq
  rw [Files.names_of_notMem hs, FileSystem.follow_singleton fs p hk (append_ne hl)] at hf
  split at hf
  case isTrue => cases hf
  case isFalse hn => exact ⟨p, ⟨hd, Files.zero_notMem_of_join hr hz⟩, not_or.mpr ⟨hn, hp⟩⟩

theorem place_of_locate {ending : String} {q : Place} (h : fs.Admits dir p) (hv : isValidId id)
    (he : ending.toList.all isIdChar) (hl : 2 < ending.utf8ByteSize)
    (hq : fs.locate (Files.join dir (id ++ ending)) = .ok q) : q = p ++ [id ++ ending] := by
  rw [locate_of_admits h hv he hl] at hq
  split at hq <;> cases hq
  rfl

theorem getLast?_of_locate {ending : String} (hv : isValidId id)
    (he : ending.toList.all isIdChar) (hl : 2 < ending.utf8ByteSize)
    (h : fs.locate (Files.join dir (id ++ ending)) = .ok p) : p.getLast? = some (id ++ ending) :=
  FileSystem.getLast?_of_locate h
    (not_or.mpr ⟨append_ne (Nat.zero_lt_of_lt hl), append_ne (Nat.lt_of_succ_lt hl)⟩)
    (append_ne hl) (notMem_append hv he rfl)

namespace Wrote

variable {d : Detector} {version : UInt64} {fs' : FileSystem} {q r : Place}

theorem admits (h : Wrote fs dir id d version fs' p q) : ∃ r, fs.Admits dir r :=
  have ⟨r, ha, _⟩ := admits_of_locate h.valid rfl (by decide) h.target.located
  ⟨r, ha⟩

-- All that is changed are the two files of the id.
theorem entry? (h : Wrote fs dir id d version fs' p q) (ha : fs.Admits dir r) (s : Place) :
    fs'.entry? s =
      if s = targetPlace r id then some (.file (Envelope.content ⟨version, Envelope.documentOf d⟩))
      else if s = draftPlace r id then none else fs.entry? s := by
  have hp : p = draftPlace r id := place_of_locate ha h.valid rfl (by decide) h.draft.located
  have hq : q = targetPlace r id := place_of_locate ha h.valid rfl (by decide) h.target.located
  by_cases hs : s = []
  case pos =>
    rw [hs, if_neg (targetPlace_ne_nil r id).symm, if_neg (draftPlace_ne_nil r id).symm]
    rfl
  case neg => rw [h.after, FileSystem.entry?_replacing hs, hp, hq]

theorem entry?_target_of_ne (h : Wrote fs dir id d version fs' p q) (ha : fs.Admits dir r)
    (hn : other ≠ id) : fs'.entry? (targetPlace r other) = fs.entry? (targetPlace r other) := by
  rw [h.entry? ha, if_neg (mt targetPlace_inj.mp hn), if_neg (targetPlace_ne_draftPlace r other id)]

-- What there is under other ids is found as before.
theorem get_of_ne (h : Wrote fs dir id d version fs' p q) (hn : other ≠ id) :
    File.get fs' dir other = File.get fs dir other := by
  by_cases hv : isValidId other
  case neg => rw [File.get, File.get, if_neg hv, if_neg hv]
  case pos =>
    obtain ⟨r, ha⟩ := h.admits
    have hl : fs'.locate (path dir other) = fs.locate (path dir other) := by
      rw [path, locate_of_admits (ha.keepsDirectories h.keepsDirectories) hv rfl (by decide),
        locate_of_admits ha hv rfl (by decide)]
    have hr : fs'.read (path dir other) = fs.read (path dir other) := by
      refine FileSystem.read_congr hl fun s hs => ?_
      cases place_of_locate ha hv rfl (by decide) hs
      exact h.entry?_target_of_ne ha hn
    rw [File.get, File.get, File.envelope?, hr, File.envelope?]

theorem getLast?_draft (h : Wrote fs dir id d version fs' p q) :
    p.getLast? = some (id ++ ".json.tmp") :=
  getLast?_of_locate h.valid rfl (by decide) h.draft.located

theorem getLast?_target (h : Wrote fs dir id d version fs' p q) :
    q.getLast? = some (id ++ ".json") :=
  getLast?_of_locate h.valid rfl (by decide) h.target.located

-- Wherever the directory is, the two files of an id are two.
theorem apart (h : Wrote fs dir id d version fs' p q) : p ≠ q := by
  rintro rfl
  exact target_ne_draft id id (Option.some.inj (h.getLast?_target.symm.trans h.getLast?_draft))

end Wrote

-- Nothing can be got from a directory whose path leaves no room for the name, nor put into it.

theorem envelope?_of_long (hd : dir ≠ "") (hz : '\x00' ∉ dir.toList) (hi : IsFileId id)
    (hl : Files.pathLimit < dir.utf8ByteSize + (id ++ ".json").utf8ByteSize) :
    envelope? fs dir id = .error (.file .nameTooLong) := by
  have hs : Files.pathLimit < (path dir id).utf8ByteSize :=
    Nat.lt_of_lt_of_le hl (Files.le_size_join hd hi.plain_target)
  have hr : fs.read (path dir id) = .error .nameTooLong :=
    FileSystem.read_of_long (Files.zero_notMem_join hz hi.plain_target.zero) hs
  simp only [envelope?, hr]

theorem put_of_long {d : Detector} (hd : dir ≠ "") (hz : '\x00' ∉ dir.toList) (hi : IsFileId id)
    (hl : Files.pathLimit < dir.utf8ByteSize + (id ++ ".json").utf8ByteSize) :
    put fs dir id d = (.error (.file .nameTooLong), fs) :=
  put_of_fault hi.valid (envelope?_of_long hd hz hi hl)

end File
end AnomalyDetection.Store

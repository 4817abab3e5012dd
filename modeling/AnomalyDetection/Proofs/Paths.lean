import AnomalyDetection.Proofs.Files

namespace AnomalyDetection

theorem Text.split_append (c : Char) (s t : List Char) :
    split c (s ++ c :: t) = split c s ++ split c t := by
  induction s
  case nil => simp [split]
  case cons d s hi =>
    by_cases h : d = c
    case pos => simp [split, h, hi]
    case neg =>
      simp only [List.cons_append, split, h, if_false, hi]
      cases hs : split c s
      case nil => exact absurd hs (split_ne_nil c s)
      case cons => rfl

theorem Text.split_of_notMem {c : Char} {s : List Char} (h : c ∉ s) : split c s = [s] := by
  induction s
  case nil => rfl
  case cons d s hi =>
    have ⟨hd, hs⟩ := not_or.mp (fun hc => h (List.mem_cons.mpr hc))
    simp only [split, Ne.symm hd, if_false, hi hs]

theorem Text.split_append_of_notMem {c : Char} {t : List Char} (s : List Char) (h : c ∉ t) :
    ∃ front part, split c (s ++ t) = front ++ [part ++ t] := by
  induction s
  case nil => exact ⟨[], [], split_of_notMem h⟩
  case cons d s hi =>
    have ⟨front, part, he⟩ := hi
    by_cases hd : d = c
    case pos => exact ⟨[] :: front, part, by simp [split, hd, he]⟩
    case neg =>
      cases front
      case nil => exact ⟨[], d :: part, by simp [split, hd, he]⟩
      case cons first front => exact ⟨(d :: first) :: front, part, by simp [split, hd, he]⟩

open Files

namespace Files

variable {dir name : String}

-- A name that is too long for a file, or that makes too long a path of a directory's.
def TooLong (dir name : String) : Prop :=
  nameLimit < name.utf8ByteSize ∨ pathLimit < (join dir name).utf8ByteSize

instance (dir name : String) : Decidable (TooLong dir name) := inferInstanceAs (Decidable (_ ∨ _))

-- A name that can be that of a file in any directory.
structure Plain (name : String) : Prop where
  ne_empty : name ≠ ""
  ne_here : name ≠ "."
  ne_around : name ≠ ".."
  slash : '/' ∉ name.toList
  zero : '\x00' ∉ name.toList
  short : name.utf8ByteSize ≤ nameLimit

theorem append_ne {ending other : String} (h : other.utf8ByteSize < ending.utf8ByteSize) :
    name ++ ending ≠ other := by
  intro he
  have he := congrArg String.utf8ByteSize he
  rw [String.utf8ByteSize_append] at he
  omega

theorem names_append_slash (front : List Char) (path : String) :
    names (String.ofList front ++ "/" ++ path) = names (String.ofList front) ++ names path := by
  simp [names, Text.split_append]

theorem names_of_notMem (hn : '/' ∉ name.toList) : names name = [name] := by
  simp [names, Text.split_of_notMem hn]

theorem not_startsWith_of_notMem (hn : '/' ∉ name.toList) : name.startsWith "/" = false := by
  rw [String.startsWith_string_eq_false_iff]
  rintro ⟨rest, hr⟩
  exact hn (hr ▸ List.mem_cons_self)

-- What is put behind a path is put behind its last name.
theorem names_append (path : String) {ending : String} (he : '/' ∉ ending.toList) :
    ∃ front name, names (path ++ ending) = front ++ [name ++ ending] := by
  have ⟨front, part, hp⟩ := Text.split_append_of_notMem path.toList he
  refine ⟨front.map String.ofList, String.ofList part, ?_⟩
  rw [names, String.toList_append, hp]
  simp

theorem join_append (dir path ending : String) :
    ∃ s, join dir (path ++ ending) = s ++ ending := by
  unfold join
  split
  case isTrue => exact ⟨path, rfl⟩
  case isFalse =>
    split
    case isTrue => exact ⟨dir ++ path, (String.append_assoc ..).symm⟩
    case isFalse => exact ⟨dir ++ "/" ++ path, (String.append_assoc ..).symm⟩

theorem startsWith_slash_append (hd : dir ≠ "") (rest : String) :
    (dir ++ rest).startsWith "/" = dir.startsWith "/" := by
  rw [Bool.eq_iff_iff, String.startsWith_string_iff, String.startsWith_string_iff,
    String.toList_append]
  cases hl : dir.toList
  case nil => exact absurd (String.toList_eq_nil_iff.mp hl) hd
  case cons => simp

theorem join_append_of_ne {path : String} (hp : path ≠ "") (dir ending : String) :
    join dir (path ++ ending) = join dir path ++ ending := by
  unfold join
  rw [startsWith_slash_append hp]
  split
  case isTrue => rfl
  case isFalse => split <;> simp only [String.append_assoc]

theorem TooLong.append (h : TooLong dir name) (hn : name ≠ "") (ending : String) :
    TooLong dir (name ++ ending) := by
  rw [TooLong, join_append_of_ne hn, String.utf8ByteSize_append, String.utf8ByteSize_append]
  exact h.imp (Nat.lt_add_right _) (Nat.lt_add_right _)

theorem join_empty (path : String) : join "" path = path := by
  rw [join, if_pos (by simp)]

section

variable {path : String} (hs : path.startsWith "/" = false)

include hs

theorem join_eq (hd : dir ≠ "") :
    join dir path = if dir.endsWith "/" then dir ++ path else dir ++ "/" ++ path := by
  simp only [join, hs, hd, decide_false, Bool.or_self, Bool.false_eq_true, if_false]

theorem startsWith_join (dir : String) :
    (join dir path).startsWith "/" = dir.startsWith "/" := by
  by_cases hd : dir = ""
  case pos => rw [hd, join_empty, hs]; rfl
  case neg =>
    rw [join_eq hs hd]
    split
    case isTrue => exact startsWith_slash_append hd path
    case isFalse => rw [String.append_assoc]; exact startsWith_slash_append hd _

theorem zero_notMem_of_join (h : '\x00' ∉ (join dir path).toList) : '\x00' ∉ dir.toList := by
  by_cases hd : dir = ""
  case pos => rw [hd]; exact List.not_mem_nil
  case neg =>
    rw [join_eq hs hd] at h
    intro hm
    refine h ?_
    split <;> simp [hm]

theorem size_join_le (dir : String) :
    (join dir path).utf8ByteSize ≤ dir.utf8ByteSize + 1 + path.utf8ByteSize := by
  have h₁ : "/".utf8ByteSize = 1 := rfl
  by_cases hd : dir = ""
  case pos => rw [hd, join_empty]; omega
  case neg =>
    rw [join_eq hs hd]
    split <;> simp only [String.utf8ByteSize_append, h₁] <;> omega

end

theorem le_size_join (hd : dir ≠ "") (hn : Plain name) :
    dir.utf8ByteSize + name.utf8ByteSize ≤ (join dir name).utf8ByteSize := by
  rw [join_eq (not_startsWith_of_notMem hn.slash) hd]
  split <;> simp only [String.utf8ByteSize_append] <;> omega

-- A slash at the end of the directory's path gives it an empty last name.
theorem names_join (dir : String) : ∃ front,
    (names dir = front ∨ names dir = front ++ [""]) ∧
    ∀ path, path.startsWith "/" = false → names (join dir path) = front ++ names path := by
  by_cases hd : dir = ""
  case pos => exact ⟨[], .inr (by rw [hd]; rfl), fun path hs => by rw [hd, join_empty]; rfl⟩
  case neg =>
    by_cases he : dir.endsWith "/"
    case pos =>
      have ⟨front, hf⟩ := String.Slice.endsWith_string_iff.mp he
      rw [String.copy_toSlice] at hf
      have hf : dir = String.ofList front ++ "/" ++ "" := by
        rw [← String.ofList_toList (s := dir), ← hf]
        simp
      refine ⟨names (String.ofList front), .inr ?names, fun path hs => ?joined⟩
      case names => rw [hf]; exact names_append_slash front ""
      case joined =>
        rw [join_eq hs hd, if_pos he, hf, String.append_empty]
        exact names_append_slash front path
    case neg =>
      refine ⟨names dir, .inl rfl, fun path hs => ?_⟩
      rw [join_eq hs hd, if_neg he, ← String.ofList_toList (s := dir)]
      exact names_append_slash dir.toList path

end Files

namespace FileSystem

variable {fs fs' : FileSystem} {dir name : String} {p q : Place} {front : List String}

-- Names that lead to a directory go on to lead there.
theorem Leads.here (h : fs.Leads p front q) (hq : fs.entry? q = some .directory) :
    fs.Leads p (front ++ ["."]) q := by
  induction h
  case nil => exact .stay (.inr rfl) (.nil _)
  case stay hs _ hi => exact .stay hs (hi hq)
  case back hi => exact .back (hi hq)
  case last hm hb hs =>
    -- The last name so far is that of the directory.
    exact .enter hm hb hs (List.cons_ne_nil _ _) hq (.stay (.inr rfl) (.nil _))
  case enter hm hb hs hr he _ hi =>
    exact .enter hm hb hs (List.append_ne_nil_of_left_ne_nil hr _) he (hi hq)

-- More names go on from the directory that the first ones lead into.
theorem follow_append {rest : List String} (hr : rest ≠ []) :
    fs.follow p (front ++ rest) = fs.follow p (front ++ ["."]) >>= (fs.follow · rest) := by
  induction front generalizing p
  case nil => rfl
  case cons name front hi =>
    have h₁ : front ++ rest ≠ [] := List.append_ne_nil_of_right_ne_nil front hr
    have h₂ : front ++ ["."] ≠ [] := List.append_ne_nil_of_right_ne_nil front (List.cons_ne_nil _ _)
    simp only [List.cons_append, follow, h₁, h₂, if_false, hi]
    repeat' split
    all_goals rfl

theorem follow_singleton (fs : FileSystem) (p : Place) (hk : ¬(name = "" ∨ name = "."))
    (hb : name ≠ "..") : fs.follow p [name] =
      if nameLimit < name.utf8ByteSize then .error .nameTooLong else .ok (p ++ [name]) := by
  simp only [follow, hk, hb, if_true, if_false]

theorem follow_of_plain (fs : FileSystem) (p : Place) (hn : Plain name) :
    fs.follow p [name] = .ok (p ++ [name]) := by
  rw [follow_singleton fs p (not_or.mpr ⟨hn.ne_empty, hn.ne_here⟩) hn.ne_around,
    if_neg (Nat.not_lt_of_le hn.short)]

-- The last name of a path is that of the place, if it is the name of anything.
theorem Leads.getLast? (h : fs.Leads p (front ++ [name]) q) (hk : ¬(name = "" ∨ name = "."))
    (hb : name ≠ "..") : q.getLast? = some name := by
  generalize hf : front ++ [name] = names at h
  induction h generalizing front
  case nil => exact absurd hf (List.append_ne_nil_of_right_ne_nil front (List.cons_ne_nil _ _))
  case stay hs _ hi =>
    cases front
    case nil => exact absurd ((List.cons.inj hf).left ▸ hs) hk
    case cons => exact hi (List.cons.inj hf).right
  case back hi =>
    cases front
    case nil => exact absurd (List.cons.inj hf).left hb
    case cons => exact hi (List.cons.inj hf).right
  case last =>
    cases front
    case nil => rw [(List.cons.inj hf).left, List.getLast?_concat]
    case cons rest =>
      exact absurd (List.cons.inj hf).right
        (List.append_ne_nil_of_right_ne_nil rest (List.cons_ne_nil _ _))
  case enter hr _ _ hi =>
    cases front
    case nil => exact absurd (List.cons.inj hf).right.symm hr
    case cons => exact hi (List.cons.inj hf).right

-- The root may be written with any number of slashes.
theorem locate_slashes (fs : FileSystem) {n : Nat} (h : n ≠ 0) (hn : n ≤ pathLimit) :
    fs.locate (String.ofList (List.replicate n '/')) = .ok [] := by
  have leads (n : Nat) :
      fs.Leads [] ((Text.split '/' (List.replicate n '/')).map String.ofList) [] := by
    induction n
    case zero => exact .stay (.inl rfl) (.nil [])
    case succ n hi =>
      rw [List.replicate_succ, Text.split, if_pos rfl, List.map_cons]
      exact .stay (.inl rfl) hi
  have hs : (String.ofList (List.replicate n '/')).startsWith "/" := by
    obtain ⟨n, rfl⟩ := Nat.exists_eq_succ_of_ne_zero h
    exact String.startsWith_string_iff.mpr ⟨List.replicate n '/', by simp [List.replicate_succ]⟩
  have hl : ¬pathLimit < (String.ofList (List.replicate n '/')).utf8ByteSize := by
    rw [utf8ByteSize_replicate]
    exact Nat.not_lt_of_le ((Nat.mul_one n).symm ▸ hn)
  simp only [locate, names, String.toList_ofList, hl, hs, if_true, if_false,
    follow_eq_ok.mpr (leads n)]
  simp [h]

theorem leads_of_locate {path : String} (h : fs.locate path = .ok p) :
    '\x00' ∉ path.toList ∧ path ≠ "" ∧
    fs.Leads (if path.startsWith "/" then [] else fs.here) (names path) p := by
  unfold locate at h
  split at h
  case isTrue => cases h
  case isFalse hz =>
    split at h
    case isTrue => cases h
    case isFalse hd =>
      split at h
      case isTrue => cases h
      case isFalse => exact ⟨hz, hd, follow_eq_ok.mp h⟩

-- A name below a directory is the last one of its place.
theorem getLast?_of_locate (h : fs.locate (join dir name) = .ok p)
    (hk : ¬(name = "" ∨ name = ".")) (hb : name ≠ "..") (hn : '/' ∉ name.toList) :
    p.getLast? = some name := by
  have ⟨_, _, hl⟩ := leads_of_locate h
  have ⟨front, _, hj⟩ := names_join dir
  rw [hj name (not_startsWith_of_notMem hn), names_of_notMem hn] at hl
  exact hl.getLast? hk hb

-- The directory into which a path leads, and from which the names below it go on.
def enter (fs : FileSystem) (dir : String) : Except FileFault Place :=
  fs.follow (if dir.startsWith "/" then [] else fs.here) (names dir ++ ["."])

theorem enter_of_locate (h : fs.locate dir = .ok p) (hp : fs.entry? p = some .directory) :
    fs.enter dir = .ok p := by
  have ⟨_, _, hl⟩ := leads_of_locate h
  exact follow_eq_ok.mpr (hl.here hp)

-- A plain name behind the path of a directory leads to the place of that name in it, whichever way
-- the path is written.
theorem locate_join {path : String} (dir : String) (hs : path.startsWith "/" = false)
    (hn : path ≠ "") :
    fs.locate (join dir path) =
      if '\x00' ∈ (join dir path).toList then .error .zeroInName
      else if pathLimit < (join dir path).utf8ByteSize then .error .nameTooLong
      else fs.enter dir >>= (fs.follow · (names path)) := by
  have ⟨front, hf, hj⟩ := names_join dir
  have hr : names path ≠ [] := by simp [names, Text.split_ne_nil]
  have he : fs.enter dir =
      fs.follow (if dir.startsWith "/" then [] else fs.here) (front ++ ["."]) := by
    cases hf
    case inl hf => rw [enter, hf]
    case inr hf =>
      have hb : [""] ++ ["."] ≠ [] := List.cons_ne_nil _ _
      rw [enter, hf, List.append_assoc, follow_append hb]
      cases fs.follow _ (front ++ ["."]) <;> rfl
  have hd : join dir path ≠ "" := by
    intro hd
    have hl := size_join dir path
    rw [hd] at hl
    exact hn (String.utf8ByteSize_eq_zero_iff.mp (Nat.le_zero.mp hl))
  rw [he, ← follow_append hr, ← hj path hs]
  simp only [locate, hd, if_false, startsWith_join hs]

theorem locate_join_slashes (fs : FileSystem) {n : Nat} (h : n ≠ 0) (hn : Plain name)
    (hl : n + 1 + name.utf8ByteSize ≤ pathLimit) :
    fs.locate (join (String.ofList (List.replicate n '/')) name) = .ok [name] := by
  have hr := not_startsWith_of_notMem hn.slash
  have hz : '\x00' ∉ (String.ofList (List.replicate n '/')).toList := by simp
  have hb : (String.ofList (List.replicate n '/')).utf8ByteSize = n :=
    (utf8ByteSize_replicate '/' n).trans (Nat.mul_one n)
  have hs := size_join_le hr (String.ofList (List.replicate n '/'))
  rw [hb] at hs
  rw [locate_join _ hr hn.ne_empty, if_neg (zero_notMem_join hz hn.zero),
    if_neg (Nat.not_lt_of_le (Nat.le_trans hs hl)),
    enter_of_locate (locate_slashes fs h (by omega)) rfl, names_of_notMem hn.slash]
  exact follow_of_plain fs [] hn

-- A directory that names can be joined to, which may well be too long then.
structure Admits (fs : FileSystem) (dir : String) (p : Place) : Prop where
  entered : fs.enter dir = .ok p
  zero : '\x00' ∉ dir.toList

theorem Admits.keepsDirectories (h : fs.Admits dir p) (hk : fs.KeepsDirectories fs') :
    fs'.Admits dir p := by
  refine ⟨?_, h.zero⟩
  rw [enter, hk.here]
  exact hk.follow h.entered

-- A directory that a path leads to, and the path leaves room for the names of files in it.
structure Houses (fs : FileSystem) (dir : String) (p : Place) : Prop where
  located : fs.locate dir = .ok p
  directory : fs.entry? p = some .directory
  room : dir.utf8ByteSize + 1 + nameLimit ≤ pathLimit

namespace Houses

theorem locate (h : fs.Houses dir p) (hn : Plain name) :
    fs.locate (join dir name) = .ok (p ++ [name]) := by
  have ⟨hz, _, _⟩ := leads_of_locate h.located
  have hr := not_startsWith_of_notMem hn.slash
  have hs : ¬pathLimit < (join dir name).utf8ByteSize := by
    have h₁ := size_join_le hr dir
    have h₂ := h.room
    have h₃ := hn.short
    omega
  rw [locate_join dir hr hn.ne_empty, if_neg (zero_notMem_join hz hn.zero), if_neg hs,
    enter_of_locate h.located h.directory, names_of_notMem hn.slash]
  exact follow_of_plain fs p hn

theorem keepsDirectories (h : fs.Houses dir p) (hk : fs.KeepsDirectories fs') :
    fs'.Houses dir p where
  located := hk.locate h.located
  directory := hk.entry p h.directory
  room := h.room

theorem takes (h : fs.Houses dir p) (hn : Plain name)
    (hf : fs.entry? (p ++ [name]) ≠ some .directory) :
    fs.Takes (join dir name) (p ++ [name]) :=
  ⟨h.locate hn, hf⟩

end Houses
end FileSystem
end AnomalyDetection

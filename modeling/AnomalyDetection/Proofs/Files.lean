import AnomalyDetection.Files.System
import AnomalyDetection.Proofs.Outcome

namespace AnomalyDetection

open Files

namespace Files

variable {dir path : String}

theorem size_join (dir path : String) : path.utf8ByteSize ≤ (join dir path).utf8ByteSize := by
  unfold join
  split
  case isTrue => exact Nat.le_refl _
  case isFalse => split <;> simp only [String.utf8ByteSize_append] <;> omega

theorem utf8ByteSize_replicate (c : Char) (n : Nat) :
    (String.ofList (List.replicate n c)).utf8ByteSize = n * c.utf8Size := by
  induction n
  case zero => rw [Nat.zero_mul]; rfl
  case succ n hi =>
    rw [List.replicate_succ', String.ofList_append, String.utf8ByteSize_append, hi, Nat.succ_mul]
    simp

theorem zero_notMem_join (hd : '\x00' ∉ dir.toList) (hp : '\x00' ∉ path.toList) :
    '\x00' ∉ (join dir path).toList := by
  unfold join
  split
  case isTrue => exact hp
  case isFalse => split <;> simp [hd, hp]

end Files

-- Tables whose rows are replaced by putting another one in front of what is left of the old ones.
namespace Table

variable {κ α : Type} [BEq κ] [LawfulBEq κ] [DecidableEq κ]

theorem lookup_cons (p q : κ) (e : α) (entries : List (κ × α)) :
    ((p, e) :: entries).lookup q = if q = p then some e else entries.lookup q := by
  rw [List.lookup_cons]
  split
  case h_1 h => rw [if_pos (beq_iff_eq.mp h)]
  case h_2 h => rw [if_neg (beq_eq_false_iff_ne.mp h)]

theorem lookup_filter (entries : List (κ × α)) (p q : κ) :
    (entries.filter (·.1 ≠ p)).lookup q = if q = p then none else entries.lookup q := by
  induction entries
  case nil => simp
  case cons m entries hi =>
    obtain ⟨k, e⟩ := m
    by_cases hk : k = p
    case pos =>
      rw [List.filter_cons_of_neg (by simp [hk]), hi, lookup_cons, hk]
      split
      case isTrue => rfl
      case isFalse => rfl
    case neg =>
      rw [List.filter_cons_of_pos (by simp [hk]), lookup_cons, lookup_cons, hi]
      split
      case isTrue h => rw [if_neg (h ▸ hk)]
      case isFalse => rfl

theorem lookup_replace (entries : List (κ × α)) (p q : κ) (e : α) :
    ((p, e) :: entries.filter (·.1 ≠ p)).lookup q = if q = p then some e else entries.lookup q := by
  rw [lookup_cons, lookup_filter]
  split
  case isTrue => rfl
  case isFalse => rfl

end Table

namespace FileSystem

variable {fs : FileSystem} {path : String}

theorem read_of_long (hz : '\x00' ∉ path.toList) (hl : pathLimit < path.utf8ByteSize) :
    fs.read path = .error .nameTooLong := by
  have hn : path ≠ "" := by rintro rfl; simp at hl
  have he : fs.locate path = .error .nameTooLong := by
    simp only [locate, hz, hn, hl, if_true, if_false]
  simp only [read, he]
  rfl

theorem readText_of_long (hz : '\x00' ∉ path.toList) (hl : pathLimit < path.utf8ByteSize) :
    fs.readText path = .error .nameTooLong := by
  simp only [readText, read_of_long hz hl]
  rfl

section Entries

variable {p q : Place} {e : Entry}

theorem entry?_set (fs : FileSystem) (p q : Place) (e : Entry) (hq : q ≠ []) :
    entry? (fs.set p e) q = if q = p then some e else fs.entry? q := by
  simp only [ entry?, set, hq, if_false, Table.lookup_replace]

theorem entry?_remove (fs : FileSystem) (p q : Place) (hq : q ≠ []) :
    entry? (fs.remove p) q = if q = p then none else fs.entry? q := by
  simp only [ entry?, remove, hq, if_false, Table.lookup_filter]

end Entries

-- The way of names to a place.
inductive Leads (fs : FileSystem) : Place → List String → Place → Prop
  | nil (p : Place) : fs.Leads p [] p
  | stay {p q : Place} {name : String} {rest : List String} : name = "" ∨ name = "." →
    fs.Leads p rest q → fs.Leads p (name :: rest) q
  | back {p q : Place} {rest : List String} : fs.Leads p.dropLast rest q →
    fs.Leads p (".." :: rest) q
  | last {p : Place} {name : String} : ¬(name = "" ∨ name = ".") → name ≠ ".." →
    name.utf8ByteSize ≤ nameLimit → fs.Leads p [name] (p ++ [name])
  | enter {p q : Place} {name : String} {rest : List String} : ¬(name = "" ∨ name = ".") →
    name ≠ ".." → name.utf8ByteSize ≤ nameLimit → rest ≠ [] →
    fs.entry? (p ++ [name]) = some .directory → fs.Leads (p ++ [name]) rest q →
    fs.Leads p (name :: rest) q

theorem follow_eq_ok {p q : Place} {names : List String} :
    fs.follow p names = .ok q ↔ fs.Leads p names q := by
  constructor
  case mp =>
    intro h
    induction names generalizing p
    case nil => cases h; exact .nil _
    case cons name rest hi =>
      unfold follow at h
      split at h
      case isTrue hn => exact .stay hn (hi h)
      case isFalse hn =>
        split at h
        case isTrue hb => subst hb; exact .back (hi h)
        case isFalse hb =>
          split at h
          case isTrue => cases h
          case isFalse hs =>
            dsimp only at h
            split at h
            case isTrue hr => subst hr; cases h; exact .last hn hb (Nat.le_of_not_lt hs)
            case isFalse hr =>
              split at h
              case h_1 he => exact .enter hn hb (Nat.le_of_not_lt hs) hr he (hi h)
              case h_2 => cases h
              case h_3 => cases h
  case mpr =>
    intro h
    induction h
    case nil => rfl
    case stay hn _ hi => rw [follow, if_pos hn, hi]
    case back hi => exact hi
    case last hn hb hs =>
      rw [follow, if_neg hn, if_neg hb, if_neg (Nat.not_lt_of_le hs)]
      rfl
    case enter hn hb hs hr he _ hi =>
      rw [follow, if_neg hn, if_neg hb, if_neg (Nat.not_lt_of_le hs)]
      simp only [hr, if_false, he, hi]

-- All directories are still there.
structure KeepsDirectories (fs fs' : FileSystem) : Prop where
  here : fs'.here = fs.here
  entry : ∀ p, fs.entry? p = some .directory → fs'.entry? p = some .directory

namespace KeepsDirectories

variable {fs fs' fs'' : FileSystem} {p q : Place}

theorem trans (h : fs.KeepsDirectories fs') (h' : fs'.KeepsDirectories fs'') :
    fs.KeepsDirectories fs'' :=
  ⟨h'.here.trans h.here, fun p hp => h'.entry p (h.entry p hp)⟩

theorem leads (h : fs.KeepsDirectories fs') {names : List String} (hl : fs.Leads p names q) :
    fs'.Leads p names q := by
  induction hl
  case nil => exact .nil _
  case stay hn _ hi => exact .stay hn hi
  case back hi => exact .back hi
  case last hn hb hs => exact .last hn hb hs
  case enter hn hb hs hr he _ hi => exact .enter hn hb hs hr (h.entry _ he) hi

theorem follow (h : fs.KeepsDirectories fs') {names : List String}
    (hf : fs.follow p names = .ok q) : fs'.follow p names = .ok q :=
  follow_eq_ok.mpr (h.leads (follow_eq_ok.mp hf))

theorem locate (h : fs.KeepsDirectories fs') {path : String} (hl : fs.locate path = .ok p) :
    fs'.locate path = .ok p := by
  unfold FileSystem.locate at hl ⊢
  rw [h.here]
  split at hl
  case isTrue => cases hl
  case isFalse hz =>
    rw [if_neg hz]
    split at hl
    case isTrue => cases hl
    case isFalse he =>
      rw [if_neg he]
      split at hl
      case isTrue => cases hl
      case isFalse hn => exact (if_neg hn).trans (h.follow hl)

theorem isDirectory (h : fs.KeepsDirectories fs') {path : String} (hd : fs.isDirectory path) :
    fs'.isDirectory path := by
  unfold FileSystem.isDirectory at hd ⊢
  split at hd
  case h_1 p hl =>
    rw [h.locate hl]
    exact beq_iff_eq.mpr (h.entry p (beq_iff_eq.mp hd))
  case h_2 => cases hd

end KeepsDirectories

-- Everything is still there as it was.
structure Extends (fs fs' : FileSystem) : Prop where
  here : fs'.here = fs.here
  entry : ∀ p e, fs.entry? p = some e → fs'.entry? p = some e

namespace Extends

variable {fs fs' fs'' : FileSystem} {p : Place}

theorem refl (fs : FileSystem) : fs.Extends fs := ⟨rfl, fun _ _ => id⟩

theorem trans (h : fs.Extends fs') (h' : fs'.Extends fs'') : fs.Extends fs'' :=
  ⟨h'.here.trans h.here, fun p e hp => h'.entry p e (h.entry p e hp)⟩

theorem keepsDirectories (h : fs.Extends fs') : fs.KeepsDirectories fs' :=
  ⟨h.here, fun p => h.entry p .directory⟩

theorem set (hp : fs.entry? p = none) (e : Entry) : fs.Extends (fs.set p e) := by
  refine ⟨rfl, fun q e' hq => ?_⟩
  by_cases hn : q = []
  case pos => exact hn ▸ (hn ▸ hq : fs.entry? [] = some e')
  case neg =>
    rw [entry?_set fs p q e hn, if_neg, hq]
    rintro rfl
    rw [hp] at hq
    cases hq

end Extends

section Read

variable {fs fs' : FileSystem} {path : String} {content : Octets}

theorem read_eq_ok : fs.read path = .ok content ↔
    ∃ p, fs.locate path = .ok p ∧ fs.entry? p = some (.file content) := by
  constructor
  case mp =>
    intro h
    have ⟨p, hl, h⟩ := Outcome.bind_eq_ok h
    split at h
    case h_1 he => cases h; exact ⟨p, hl, he⟩
    case h_2 => cases h
    case h_3 => cases h
  case mpr =>
    rintro ⟨p, hl, he⟩
    simp only [read, hl, bind, Except.bind, he]
    rfl

theorem read_congr (hl : fs'.locate path = fs.locate path)
    (he : ∀ p, fs.locate path = .ok p → fs'.entry? p = fs.entry? p) :
    fs'.read path = fs.read path := by
  unfold read
  rw [hl]
  cases hp : fs.locate path
  case error => rfl
  case ok p => simp only [bind, Except.bind, he p hp]

theorem Extends.read (h : fs.Extends fs') (hr : fs.read path = .ok content) :
    fs'.read path = .ok content := by
  have ⟨p, hl, he⟩ := read_eq_ok.mp hr
  exact read_eq_ok.mpr ⟨p, h.keepsDirectories.locate hl, h.entry p _ he⟩

end Read

section Directories

variable {fs fs' : FileSystem} {path dir : String} {outer : List String}

theorem makeDirectory_eq_ok (h : fs.makeDirectory path = .ok fs') :
    ∃ p, fs.locate path = .ok p ∧ fs.entry? p = none ∧ fs' = fs.set p .directory := by
  have ⟨p, hl, h⟩ := Outcome.bind_eq_ok h
  split at h
  case h_1 => cases h
  case h_2 he => cases h; exact ⟨p, hl, he, rfl⟩

theorem extends_of_makeDirectory (h : fs.makeDirectory path = .ok fs') : fs.Extends fs' := by
  have ⟨p, _, hp, he⟩ := makeDirectory_eq_ok h
  exact he ▸ .set hp _

theorem isDirectory_of_makeDirectory (h : fs.makeDirectory path = .ok fs') :
    fs'.isDirectory path := by
  have ⟨p, hl, hp, he⟩ := makeDirectory_eq_ok h
  have hn : p ≠ [] := by rintro rfl; cases hp
  have hl := (extends_of_makeDirectory h).keepsDirectories.locate hl
  simp only [isDirectory, hl, beq_iff_eq]
  rw [he, entry?_set fs p p _ hn, if_pos rfl]

-- Whichever way the directories have come to be there, the innermost of them is.
theorem makeDirectories_eq_ok {paths : List String} (h : fs.makeDirectories paths = .ok fs') :
    fs.Extends fs' ∧ ∀ path ∈ paths.head?, fs'.isDirectory path := by
  induction paths generalizing fs'
  case nil => cases h; exact ⟨.refl fs, nofun⟩
  case cons path outer hi =>
    simp only [List.head?_cons, Option.mem_some_iff, forall_eq']
    unfold makeDirectories at h
    split at h
    case h_1 hm =>
      cases h
      exact ⟨extends_of_makeDirectory hm, isDirectory_of_makeDirectory hm⟩
    case h_2 =>
      have ⟨fs₁, h₁, h⟩ := Outcome.bind_eq_ok h
      have he := (hi h₁).left
      split at h
      case h_1 hm =>
        cases h
        exact ⟨he.trans (extends_of_makeDirectory hm), isDirectory_of_makeDirectory hm⟩
      case h_2 =>
        split at h
        case isTrue hd => cases h; exact ⟨he, hd⟩
        case isFalse => cases h
    case h_3 =>
      split at h
      case isTrue hd => cases h; exact ⟨.refl fs, hd⟩
      case isFalse => cases h

theorem makeDirectories_of_isDirectory (h : fs.isDirectory path) :
    fs.makeDirectories (path :: outer) = .ok fs := by
  have hm : fs.makeDirectory path = .error .alreadyThere := by
    unfold isDirectory at h
    split at h
    case h_1 hl =>
      simp only [makeDirectory, hl, bind, Except.bind, beq_iff_eq.mp h]
      rfl
    case h_2 => cases h
  simp only [makeDirectories, hm, h, if_true]

theorem extends_of_ensureDirectory (h : fs.ensureDirectory dir = .ok fs') : fs.Extends fs' :=
  (makeDirectories_eq_ok h).left

-- A directory that has been made is there for good.
theorem ensureDirectory_again {made : FileSystem} (h : fs.ensureDirectory dir = .ok made)
    (hk : made.KeepsDirectories fs') : fs'.ensureDirectory dir = .ok fs' := by
  have hd := (makeDirectories_eq_ok h).right
  unfold ensureDirectory
  cases hp : ancestry dir
  case nil => rfl
  case cons path outer =>
    rw [hp] at hd
    exact makeDirectories_of_isDirectory (hk.isDirectory (hd path rfl))

end Directories

-- A place that a path leads to and where a file may stand.
structure Takes (fs : FileSystem) (path : String) (p : Place) : Prop where
  located : fs.locate path = .ok p
  free : fs.entry? p ≠ some .directory

-- The file system once a file has been moved from one place to another.
def moving (fs : FileSystem) (p q : Place) (content : Octets) : FileSystem :=
  (fs.remove p).set q (.file content)

-- The file system once a file has been written to one place and moved from there to another.
def replacing (fs : FileSystem) (p q : Place) (content : Octets) : FileSystem :=
  (fs.set p (.file content)).moving p q content

section Replace

variable {fs fs' drafted : FileSystem} {p q r : Place} {source target path : String}
  {content : Octets}

theorem Takes.ne_nil (h : fs.Takes path p) : p ≠ [] := by
  rintro rfl
  exact h.free rfl

theorem entry?_moving (hr : r ≠ []) : entry? (fs.moving p q content) r =
    if r = q then some (.file content) else if r = p then none else fs.entry? r := by
  rw [moving, entry?_set _ q r _ hr, entry?_remove _ p r hr]

theorem entry?_replacing (hr : r ≠ []) : entry? (fs.replacing p q content) r =
    if r = q then some (.file content) else if r = p then none else fs.entry? r := by
  rw [replacing, entry?_moving hr, entry?_set fs p r _ hr]
  split
  case isTrue => rfl
  case isFalse =>
    split
    case isTrue => rfl
    case isFalse => rfl

theorem keepsDirectories_set (hp : fs.entry? p ≠ some .directory) (e : Entry) :
    fs.KeepsDirectories (fs.set p e) := by
  refine ⟨rfl, fun r hr => ?_⟩
  by_cases hn : r = []
  case pos => exact hn ▸ rfl
  case neg =>
    rw [entry?_set fs p r e hn, if_neg, hr]
    rintro rfl
    exact hp hr

theorem keepsDirectories_of_set (fs : FileSystem) (p : Place) (content : Octets) :
    (fs.set p (.file content)).KeepsDirectories fs := by
  refine ⟨rfl, fun r hr => ?_⟩
  by_cases hn : r = []
  case pos => exact hn ▸ rfl
  case neg =>
    rw [entry?_set fs p r _ hn] at hr
    split at hr
    case isTrue => cases hr
    case isFalse => exact hr

theorem keepsDirectories_moving (hp : fs.entry? p ≠ some .directory)
    (hq : fs.entry? q ≠ some .directory) (content : Octets) :
    fs.KeepsDirectories (fs.moving p q content) := by
  refine ⟨rfl, fun r hr => ?_⟩
  by_cases hn : r = []
  case pos => exact hn ▸ rfl
  case neg =>
    have hrp : r ≠ p := by rintro rfl; exact hp hr
    have hrq : r ≠ q := by rintro rfl; exact hq hr
    rw [entry?_moving hn, if_neg hrq, if_neg hrp, hr]

theorem keepsDirectories_replacing (hp : fs.entry? p ≠ some .directory)
    (hq : fs.entry? q ≠ some .directory) (content : Octets) :
    fs.KeepsDirectories (fs.replacing p q content) :=
  have hk := keepsDirectories_of_set fs p content
  (keepsDirectories_set hp _).trans
    (keepsDirectories_moving (hp <| hk.entry p ·) (hq <| hk.entry q ·) content)

theorem entry?_of_replacing (hr : entry? (fs.replacing p q content) r = some .directory) :
    fs.entry? r = some .directory := by
  by_cases hn : r = []
  case pos => exact hn ▸ rfl
  case neg =>
    rw [entry?_replacing hn] at hr
    split at hr
    case isTrue => cases hr
    case isFalse =>
      split at hr
      case isTrue => cases hr
      case isFalse => exact hr

theorem takes_of_write (h : fs.write path content = .ok fs') :
    ∃ p, fs.Takes path p ∧ fs' = fs.set p (.file content) := by
  have ⟨p, hl, h⟩ := Outcome.bind_eq_ok h
  split at h
  case h_1 => cases h
  case h_2 he => cases h; exact ⟨p, ⟨hl, he⟩, rfl⟩

theorem Takes.write (h : fs.Takes path p) (content : Octets) :
    fs.write path content = .ok (fs.set p (.file content)) := by
  simp only [FileSystem.write, h.located, bind, Except.bind]
  split
  case h_1 he => exact absurd he h.free
  case h_2 => rfl

-- What a file replaces has to be no directory.
theorem takes_of_replace (hw : fs.write source content = .ok drafted)
    (hr : drafted.rename source target = .ok fs') :
    ∃ p q, fs.Takes source p ∧ fs.Takes target q ∧ fs' = fs.replacing p q content := by
  have ⟨p, hp, he⟩ := takes_of_write hw
  subst he
  -- The draft lies where it was put, since putting it there took no directory away.
  have hs := (keepsDirectories_set hp.free (.file content)).locate hp.located
  have hf : entry? (fs.set p (.file content)) p = some (.file content) := by
    rw [entry?_set fs p p _ hp.ne_nil, if_pos rfl]
  have ⟨p', hl, hr⟩ := Outcome.bind_eq_ok hr
  have ⟨q, ht, hr⟩ := Outcome.bind_eq_ok hr
  rw [hs] at hl
  cases hl
  split at hr
  case h_1 => cases hr
  case h_2 => cases hr
  case h_3 => cases hr
  case h_4 e he hnf _ =>
    have hc : e = .file content := Option.some.inj (he.symm.trans hf)
    cases hr
    subst hc
    refine ⟨p, q, hp, ⟨(keepsDirectories_of_set fs p content).locate ht, fun hd => ?_⟩, rfl⟩
    exact hnf content ((keepsDirectories_set hp.free _).entry q hd) rfl

theorem Takes.rename (hp : fs.locate source = .ok p) (hf : fs.entry? p = some (.file content))
    (hq : fs.Takes target q) : fs.rename source target = .ok (fs.moving p q content) := by
  simp only [FileSystem.rename, hp, hq.located, bind, Except.bind, hf]
  split
  case h_1 he => cases he
  case h_2 hd => exact absurd hd hq.free
  case h_3 he _ => cases he
  case h_4 he _ _ => cases he; rfl

theorem rename_of_missing (hp : fs.locate source = .ok p) (hf : fs.entry? p = none)
    (hq : fs.locate target = .ok q) : fs.rename source target = .error .notFound := by
  simp only [rename, hp, hq, bind, Except.bind, hf]
  rfl

theorem Takes.replace (hp : fs.Takes source p) (hq : fs.Takes target q) (content : Octets) :
    (fs.set p (.file content)).rename source target = .ok (fs.replacing p q content) := by
  have hk := keepsDirectories_set hp.free (.file content)
  have hf : entry? (fs.set p (.file content)) p = some (.file content) := by
    rw [entry?_set fs p p _ hp.ne_nil, if_pos rfl]
  refine Takes.rename (hk.locate hp.located) hf ⟨hk.locate hq.located, ?_⟩
  rw [entry?_set fs p q _ hq.ne_nil]
  split
  case isTrue => exact nofun
  case isFalse => exact hq.free

-- What was free stays free.
theorem Takes.replacing (hr : fs.Takes path r) (hp : fs.Takes source p) (hq : fs.Takes target q)
    (content : Octets) : (fs.replacing p q content).Takes path r where
  located := (keepsDirectories_replacing hp.free hq.free content).locate hr.located
  free hd := hr.free (entry?_of_replacing hd)

theorem read_replacing_target (hp : fs.Takes source p) (hq : fs.Takes target q) :
    (fs.replacing p q content).read target = .ok content := by
  refine read_eq_ok.mpr ⟨q, (hq.replacing hp hq content).located, ?_⟩
  rw [entry?_replacing hq.ne_nil, if_pos rfl]

theorem read_replacing_other {other : Octets} (hp : fs.Takes source p) (hq : fs.Takes target q)
    (h : fs.read path = .ok other) (hs : fs.read source ≠ .ok other)
    (ht : fs.read target ≠ .ok other) : (fs.replacing p q content).read path = .ok other := by
  have ⟨r, hl, he⟩ := read_eq_ok.mp h
  have hrp : r ≠ p := by rintro rfl; exact hs (read_eq_ok.mpr ⟨r, hp.located, he⟩)
  have hrq : r ≠ q := by rintro rfl; exact ht (read_eq_ok.mpr ⟨r, hq.located, he⟩)
  have hn : r ≠ [] := by rintro rfl; cases he
  refine read_eq_ok.mpr ⟨r, (keepsDirectories_replacing hp.free hq.free content).locate hl, ?_⟩
  rw [entry?_replacing hn, if_neg hrq, if_neg hrp, he]

end Replace

end FileSystem
end AnomalyDetection

import AnomalyDetection.Proofs.Reasons
import AnomalyDetection.Proofs.Store.Layout

namespace AnomalyDetection

-- What is in the way of a file at a path.
inductive FileSystem.Blocked (fs : FileSystem) (path : String) : FileFault → Prop
  | nowhere {fault : FileFault} : fs.locate path = .error fault → Blocked fs path fault
  | directory {p : Files.Place} : fs.locate path = .ok p → fs.entry? p = some .directory →
    Blocked fs path .isADirectory

theorem FileSystem.write_eq_error {fs : FileSystem} {path : String} {content : Octets}
    {fault : FileFault} : fs.write path content = .error fault ↔ fs.Blocked path fault := by
  cases hl : fs.locate path
  case error e =>
    simp only [write, hl]
    constructor
    case mp => rintro ⟨⟩; exact .nowhere hl
    case mpr =>
      intro h
      cases h
      case nowhere h => cases hl.symm.trans h; rfl
      case directory h _ => cases hl.symm.trans h
  case ok p =>
    simp only [write, hl, bind, Except.bind]
    constructor
    case mp =>
      intro h
      split at h
      case h_1 hd => cases h; exact .directory hl hd
      case h_2 => cases h
    case mpr =>
      intro h
      cases h
      case nowhere h => cases hl.symm.trans h
      case directory h hd =>
        cases hl.symm.trans h
        rw [hd]
        rfl

namespace Store.File

open Envelope (documentOf)
open Files (Place TooLong)

variable {fs drafted : FileSystem} {dir id : String} {d : Detector} {before : Option Envelope}
  {p q : Place}

theorem envelope?_of_directory (hl : fs.locate (path dir id) = .ok q)
    (hd : fs.entry? q = some .directory) : envelope? fs dir id = .error (.file .isADirectory) := by
  simp only [envelope?, FileSystem.read, hl, bind, Except.bind, hd]
  rfl

-- The longer of two names is that of the draft, and a directory in the envelope's place would have
-- been in the way of reading it.
theorem takes_target_of_draft (hv : isValidId id) (he : envelope? fs dir id = .ok before)
    (hp : fs.Takes (draftPath dir id) p) : ∃ q, fs.Takes (path dir id) q := by
  have ⟨r, hr, ht⟩ := admits_of_locate hv rfl (by decide) hp.located
  have hn : ¬TooLong dir (id ++ ".json") := by
    intro h
    have hd : id ++ ".json.tmp" = id ++ ".json" ++ ".tmp" := by rw [String.append_assoc]; rfl
    exact ht (hd ▸ h.append (Files.append_ne (by decide)) ".tmp")
  have hq : fs.locate (path dir id) = .ok (targetPlace r id) := by
    rw [path, locate_of_admits hr hv rfl (by decide), if_neg hn]
    rfl
  refine ⟨_, hq, fun hd => ?_⟩
  cases he.symm.trans (envelope?_of_directory hq hd)

-- What has been drafted gets into its place.
theorem commit_of_draft {e : Envelope} (hv : isValidId id)
    (he : envelope? fs dir id = .ok before) (hd : draft fs dir id e = .ok drafted) :
    ∃ done, commit drafted dir id = .ok done := by
  have ⟨p, hp, hw⟩ := FileSystem.takes_of_write (Outcome.mapError_eq_ok hd)
  have ⟨q, hq⟩ := takes_target_of_draft hv he hp
  refine ⟨fs.replacing p q e.content, ?_⟩
  rw [commit, hw, hp.replace hq]
  rfl

namespace Handle

variable {h h' : Handle} {e : Fault} {version : UInt64}

-- A write that does everything or nothing. It differs from a write of the store in what would be
-- left behind if a draft did not get into its place.
def attempt (h : Handle) (dir id : String) (d : Detector) :
    Except Fault (UInt64 × FileSystem) :=
  if ¬isValidId id then .error (.invalidId id)
  else if h.poisoned then .error (.task .poisonedLock)
  else do
    let before ← envelope? h.files dir id
    let version ← nextVersion before
    let drafted ← draft h.files dir id ⟨version, documentOf d⟩
    let done ← commit drafted dir id
    return (version, done)

theorem put_eq_attempt (h : Handle) (dir id : String) (d : Detector) :
    h.put dir id d = ((h.attempt dir id d).map Prod.fst,
      ⟨((h.attempt dir id d).toOption.map Prod.snd).getD h.files,
        h.poisoned || crashed ((h.attempt dir id d).map Prod.fst)⟩) := by
  obtain ⟨fs, poisoned⟩ := h
  by_cases hv : isValidId id
  case neg =>
    simp only [put, File.put, attempt, hv, Bool.not_false, Bool.false_and, Bool.false_eq_true,
      not_false_eq_true, if_true, if_false]
    rfl
  case pos =>
  cases poisoned
  case true =>
    simp only [put, attempt, hv, Bool.and_self, not_true_eq_false, if_true, if_false]
    rfl
  case false =>
    simp only [put, File.put, attempt, hv, Bool.and_false, Bool.not_true, Bool.false_eq_true,
      not_true_eq_false, if_false]
    cases he : envelope? fs dir id
    case error => rfl
    case ok before =>
    simp only [bind, Except.bind]
    cases nextVersion before
    case error => rfl
    case ok version =>
    dsimp only
    cases hd : draft fs dir id ⟨version, documentOf d⟩
    case error => rfl
    case ok drafted =>
      obtain ⟨done, hc⟩ := commit_of_draft hv he hd
      simp only [hc]
      rfl

theorem files_of_put_error (hw : h.put dir id d = (.error e, h')) : h'.files = h.files := by
  rw [put_eq_attempt] at hw
  cases hx : h.attempt dir id d <;> rw [hx] at hw <;> cases hw
  rfl

-- A write that is successful has had the lock, and leaves it as it was.
theorem put_eq_ok (hw : h.put dir id d = (.ok version, h')) :
    h.poisoned = false ∧ h'.poisoned = false ∧
      File.put h.files dir id d = (.ok version, h'.files) := by
  unfold put at hw
  split at hw
  case isTrue => cases hw
  case isFalse hn =>
    have ⟨ha, hh⟩ := Prod.mk.inj hw
    have hs : File.put h.files dir id d = (.ok version, _) := Prod.ext ha rfl
    have ⟨_, _, hs'⟩ := wrote_of_put hs
    have hp : h.poisoned = false := by simpa [hs'.valid] using hn
    subst hh
    exact ⟨hp, by rw [hp, ha]; rfl, hs⟩

variable (h dir id) in
-- What a write fails for. The detector is none of it.
def putReasons : List (Fault → Prop) := [
  fun e => ¬isValidId id ∧ e = .invalidId id,
  fun e => h.poisoned ∧ e = .task .poisonedLock,
  fun e => envelope? h.files dir id = .error e,
  fun e => (∃ last, envelope? h.files dir id = .ok (some last) ∧
    ¬last.version.toNat + 1 < UInt64.size) ∧ e = .task .overflow,
  fun e => ∃ fault, h.files.Blocked (draftPath dir id) fault ∧ e = .file fault]

theorem attempt_failsBy : FailsBy (h.putReasons dir id) (h.attempt dir id d) := by
  refine .guard fun hv => .guard fun _ => ?_
  refine .cons (fun e => Iff.rfl) fun before he => ?_
  refine .cons (fun e => ?version) fun version _ => ?_
  case version =>
    rw [nextVersion_eq_error, he]
    cases before
    case none => simp [versionOf, UInt64.size]
    case some last => simp [versionOf]
  refine .cons (fun e => ?draft) fun drafted hd => ?commit
  case draft => simp only [draft, Outcome.mapError_eq_error, FileSystem.write_eq_error]
  case commit =>
    obtain ⟨done, hc⟩ := commit_of_draft (not_not.mp hv) he hd
    rw [hc]
    exact .ok _

end Handle

-- A write that fails has a reason that was there before it, and leaves every file and every answer
-- as they were.
theorem put_all_or_nothing (h : Handle) (dir id : String) (d : Detector) :
    FailsBy (h.putReasons dir id) (h.put dir id d).1 ∧
    ∀ e h', h.put dir id d = (.error e, h') →
      h'.files = h.files ∧ ∀ other, get h'.files dir other = get h.files dir other := by
  constructor
  case left =>
    have hf : failure (h.put dir id d).1 = failure (h.attempt dir id d) := by
      rw [h.put_eq_attempt]
      cases h.attempt dir id d <;> rfl
    exact fun r => hf ▸ Handle.attempt_failsBy r
  case right =>
    intro e h' hw
    have hs : h'.files = h.files := Handle.files_of_put_error hw
    exact ⟨hs, fun other => by rw [hs]⟩

-- A directory where the next envelope should be written, beside an envelope that could be replaced,
-- another one that cannot be read, and one with the last version there is.
theorem put_all_or_nothing_directory :
    let fs : FileSystem := ⟨[(["d"], .directory),
      (["d", "a.json"], .file (Text.octets "\x7b\"version\":1,\"source\":null\x7d")),
      (["d", "a.json.tmp"], .directory), (["d", "b.json"], .file (Text.octets "[")),
      (["d", "c.json"],
        .file (Text.octets "\x7b\"version\":18446744073709551615,\"source\":null\x7d"))], []⟩
    let h : Handle := ⟨fs, false⟩
    (∃ h', h.put "d" "a" .blank = (.error (.file .isADirectory), h') ∧ h'.files = fs ∧
      ∀ other, get h'.files "d" other = get fs "d" other) ∧
    ∃ h', h.put "d" "c" .blank = (.error (.task .overflow), h') ∧ h'.poisoned ∧ h'.files = fs ∧
      ∀ other, get h'.files "d" other = get fs "d" other := by
  intro fs h
  have he : envelope? fs "d" "a" = .ok (some ⟨1, .null⟩) :=
    Outcome.eq_ok_of_toOption (by decide +kernel)
  have hl : fs.locate (draftPath "d" "a") = .ok ["d", "a.json.tmp"] :=
    Outcome.eq_ok_of_toOption (by decide +kernel)
  have he' : envelope? fs "d" "c" = .ok (some ⟨18446744073709551615, .null⟩) :=
    Outcome.eq_ok_of_toOption (by decide +kernel)
  have ⟨hf, hu⟩ := put_all_or_nothing h "d" "a" .blank
  have ⟨hf', hu'⟩ := put_all_or_nothing h "d" "c" .blank
  have ha : failure (h.put "d" "a" .blank).1 = some (.file .isADirectory) := by
    refine (hf _).mp (.later (fun e h => h.left (by decide)) (.later (fun e h => nomatch h.left)
      (.later (fun e h => nomatch he.symm.trans h)
        (.later (fun e h => ?overflow) (.here ?target)))))
    case overflow =>
      obtain ⟨⟨last, hl, hn⟩, _⟩ := h
      cases he.symm.trans hl
      exact hn (by decide)
    case target => exact ⟨_, .directory hl (by decide), rfl⟩
  have hc : failure (h.put "d" "c" .blank).1 = some (.task .overflow) :=
    (hf' _).mp (.later (fun e h => h.left (by decide)) (.later (fun e h => nomatch h.left)
      (.later (fun e h => nomatch he'.symm.trans h) (.here ⟨⟨_, he', by decide⟩, rfl⟩))))
  have hp : h.put "d" "a" .blank = (.error (.file .isADirectory), _) :=
    Prod.ext (failure_eq_some.mp ha) rfl
  have hp' : h.put "d" "c" .blank = (.error (.task .overflow), _) :=
    Prod.ext (failure_eq_some.mp hc) rfl
  have hq : (h.put "d" "c" .blank).2.poisoned = true := by
    rw [Handle.put_eq_attempt] at hp' ⊢
    simp only [(Prod.mk.inj hp').left]
    rfl
  exact ⟨⟨_, hp, hu _ _ hp⟩, _, hp', hq, hu' _ _ hp'⟩

end Store.File
end AnomalyDetection

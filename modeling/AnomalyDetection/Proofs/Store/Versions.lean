import AnomalyDetection.Proofs.Store.Absent

namespace AnomalyDetection.Store.File

open Envelope (documentOf tooDeep)
open Json (nestingLimit)

variable {fs fs' : FileSystem} {h h' : Handle} {dir id other : String} {d : Detector}
  {answer : Answer} {version next : UInt64} {p q : Files.Place} {past : List Visit} {n : Nat}

theorem Wrote.version_of_get (h : Wrote fs dir id d version fs' p q)
    (hg : File.get fs' dir id = .ok answer) : answer.version = some version := by
  rw [File.get, if_pos h.valid, File.envelope?, h.read_target] at hg
  obtain ⟨found, hf, ha⟩ := Outcome.map_eq_ok hg
  obtain ⟨e, he, hs⟩ := Outcome.map_eq_ok (Outcome.mapError_eq_ok hf)
  subst ha hs
  exact congrArg some (Envelope.version_of_ofContent he)

-- An answer with a version comes out of an envelope.
theorem envelope?_of_get (hg : get fs dir id = .ok answer) (hv : answer.version = some version) :
    isValidId id ∧ ∃ e, envelope? fs dir id = .ok (some e) ∧ e.version = version := by
  unfold get at hg
  split at hg
  case isFalse => cases hg; cases hv
  case isTrue hi =>
    have ⟨found, hf, ha⟩ := Outcome.map_eq_ok hg
    subst ha
    cases found
    case none => cases hv
    case some e => exact ⟨hi, e, hf, Option.some.inj hv⟩

-- Files out of which nothing but one version, here by its number, is handed out under an id.
def HandsOut (dir id : String) (n : Nat) (fs : FileSystem) : Prop :=
  ∀ answer, get fs dir id = .ok answer → answer.version.map UInt64.toNat = some n

namespace HandsOut

theorem of_get (hg : get fs dir id = .ok answer) (hv : answer.version = some version) :
    HandsOut dir id version.toNat fs := by
  intro answer' hg'
  cases hg.symm.trans hg'
  rw [hv, Option.map_some]

theorem of_wrote (hw : Wrote fs dir id d version fs' p q) :
    HandsOut dir id version.toNat fs' := by
  intro answer hg
  rw [hw.version_of_get hg, Option.map_some]

-- What a write goes on from is what would have been handed out.
theorem toNat_next (ho : HandsOut dir id n fs) (hw : Wrote fs dir id d next fs' p q) :
    next.toNat = n + 1 := by
  have ⟨before, hb, hn⟩ := hw.found
  have hg : get fs dir id = .ok (.of (before.map Envelope.stored)) := by
    rw [get, if_pos hw.valid, hb]
    rfl
  have hv := ho _ hg
  cases before
  case none => cases hv
  case some e => rw [nextVersion_eq_ok.mp hn, ← Option.some.inj hv]; rfl

theorem perform (ho : HandsOut dir id n h.files) (op : Operation) :
    HandsOut dir id
      (if (perform dir h op).1.isStored ∧ op.id = id then n + 1 else n)
      (perform dir h op).2.files := by
  cases op
  case get => exact ho
  case put other d =>
    rcases hw : h.put dir other d with ⟨_ | next, h'⟩
    all_goals rw [perform_put hw]
    case error => exact Handle.files_of_put_error hw ▸ ho
    case ok =>
      have ⟨_, _, hf⟩ := Handle.put_eq_ok hw
      have ⟨p, q, hw⟩ := wrote_of_put hf
      by_cases hi : other = id
      case pos =>
        subst hi
        rw [if_pos ⟨rfl, rfl⟩, ← ho.toNat_next hw]
        exact of_wrote hw
      case neg =>
        rw [if_neg fun hs => hi hs.right]
        exact fun answer hg => ho answer ((hw.get_of_ne (Ne.symm hi)).symm.trans hg)

theorem visit (ho : HandsOut dir id n h.files) (v : Visit) :
    HandsOut dir id
      (if (visit dir h v).1.isStored ∧ v.op.id = id then n + 1 else n) (visit dir h v).2.files := by
  rw [← h.files_renewed v.anew] at ho
  exact ho.perform v.op

-- The version grows by one with every write under the id, and with nothing else.
theorem after (ho : HandsOut dir id n h.files) (past : List Visit) :
    HandsOut dir id (n + (idsPut dir h past).count id) (after (File.visit dir) h past).files := by
  induction past generalizing h n
  case nil => exact ho
  case cons v past hi =>
    have hi := hi (ho.visit v)
    have hc : n + (idsPut dir h (v :: past)).count id =
        (if (File.visit dir h v).1.isStored ∧ v.op.id = id then n + 1 else n) +
          (idsPut dir (File.visit dir h v).2 past).count id := by
      rw [idsPut]
      dsimp only
      split
      case isTrue hs =>
        simp only [List.count_cons, hs, true_and, beq_iff_eq]
        split <;> omega
      case isFalse hs => simp [hs]
    rw [hc]
    exact hi

end HandsOut

-- Behind the last version no write is successful. If it gets the lock, it spoils it.
theorem put_at_last (hg : get h.files dir id = .ok answer) (hv : answer.version = some version)
    (hl : ¬version.toNat + 1 < UInt64.size) :
    h.put dir id d =
      (.error (.task (if h.poisoned then .poisonedLock else .overflow)), ⟨h.files, true⟩) := by
  have ⟨hi, e, he, hv⟩ := envelope?_of_get hg hv
  obtain ⟨fs, poisoned⟩ := h
  subst hv
  cases poisoned
  case true => rw [Handle.put, hi]; rfl
  case false => exact Handle.put_of_sound rfl (put_of_last hi he hl)

-- A write under an id that has a version. If it is successful, it has the next one. Whatever is
-- done later, what is handed out has the version of this write and one more for each write since.
-- Right behind the write it is handed out, unless its document leaves no room for the envelope; the
-- numbers are assumed to be written in a way that gives them back. No other file is touched. Behind
-- the last version a write is never successful.
theorem versions_go_up_by_one (hg : get h.files dir id = .ok answer)
    (hv : answer.version = some version) (d : Detector) :
    (∀ next h', h.put dir id d = (.ok next, h') →
      next.toNat = version.toNat + 1 ∧ version < next ∧
      (∀ later answer', get (after (visit dir) h' later).files dir id = .ok answer' →
        answer'.version.map UInt64.toNat =
          some (next.toNat + (idsPut dir h' later).count id)) ∧
      ((∀ x, d.Mentions (.float x) → (Json.Number.float x).ReadsBack) →
        get h'.files dir id = if (documentOf d).depth < nestingLimit then
          .ok (.holding ⟨Text.encode (documentOf d).compact, next⟩)
        else .error tooDeep) ∧
      (∃ r, h.files.Admits dir r ∧ ∀ s, s ≠ targetPlace r id → s ≠ draftPlace r id →
        h'.files.entry? s = h.files.entry? s) ∧
      ∀ other, other ≠ id → get h'.files dir other = get h.files dir other) ∧
    (¬version.toNat + 1 < UInt64.size →
      h.put dir id d =
        (.error (.task (if h.poisoned then .poisonedLock else .overflow)), ⟨h.files, true⟩)) := by
  refine ⟨fun next h' hw => ?written, put_at_last hg hv⟩
  have ⟨_, _, hf⟩ := Handle.put_eq_ok hw
  have ⟨p, q, hw⟩ := wrote_of_put hf
  have hn : next.toNat = version.toNat + 1 := (HandsOut.of_get hg hv).toNat_next hw
  refine ⟨hn, UInt64.lt_iff_toNat_lt.mpr (hn ▸ Nat.lt_succ_self _), (HandsOut.of_wrote hw).after,
    fun hf => hw.get (Envelope.readsBack_documentOf hf next), ?frame,
    fun other => hw.get_of_ne⟩
  have ⟨r, ha⟩ := hw.admits
  exact ⟨r, ha, fun s ht hd => by rw [hw.entry? ha, if_neg ht, if_neg hd]⟩

-- One id at the last version there is, and one at another.
theorem versions_go_up_by_one_last :
    let fs : FileSystem := ⟨[(["d"], .directory),
      (["d", "a.json"],
        .file (Text.octets "\x7b\"version\":18446744073709551615,\"source\":null\x7d")),
      (["d", "b.json"], .file (Text.octets "\x7b\"version\":7,\"source\":null\x7d"))], []⟩
    let null := Text.octets "null"
    get fs "d" "a" = .ok (.holding ⟨null, 18446744073709551615⟩) ∧
    get fs "d" "b" = .ok (.holding ⟨null, 7⟩) ∧
    Handle.put ⟨fs, false⟩ "d" "a" .blank = (.error (.task .overflow), ⟨fs, true⟩) ∧
    Handle.put ⟨fs, true⟩ "d" "a" .blank = (.error (.task .poisonedLock), ⟨fs, true⟩) ∧
    ∃ h', Handle.put ⟨fs, false⟩ "d" "b" .blank = (.ok 8, h') ∧
      get h'.files "d" "b" = .ok (.holding ⟨Text.encode (documentOf .blank).compact, 8⟩) ∧
      get h'.files "d" "a" = .ok (.holding ⟨null, 18446744073709551615⟩) := by
  intro fs null
  have ha : get fs "d" "a" = .ok (.holding ⟨null, 18446744073709551615⟩) :=
    Outcome.eq_ok_of_toOption (by decide +kernel)
  have hb : get fs "d" "b" = .ok (.holding ⟨null, 7⟩) :=
    Outcome.eq_ok_of_toOption (by decide +kernel)
  have hf : ∀ x, Detector.blank.Mentions (.float x) → (Json.Number.float x).ReadsBack := by
    rintro x (⟨_, hj, _⟩ | ⟨_, hf, _⟩) <;> contradiction
  have hd : (documentOf .blank).depth < nestingLimit := by decide +kernel
  have hp : Handle.put ⟨fs, false⟩ "d" "b" .blank = (.ok 8, _) :=
    Prod.ext (Outcome.eq_ok_of_toOption (by decide +kernel)) rfl
  have last (poisoned : Bool) : Handle.put ⟨fs, poisoned⟩ "d" "a" .blank = _ :=
    (versions_go_up_by_one (h := ⟨fs, poisoned⟩) ha rfl .blank).right (by decide)
  obtain ⟨_, _, _, gb, _, ob⟩ :=
    (versions_go_up_by_one (h := ⟨fs, false⟩) hb rfl .blank).left _ _ hp
  exact ⟨ha, hb, last false, last true, _, hp, (gb hf).trans (if_pos hd),
    (ob "a" (by decide)).trans ha⟩

end AnomalyDetection.Store.File

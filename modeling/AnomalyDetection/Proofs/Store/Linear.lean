import AnomalyDetection.Proofs.Store.Orderly

namespace AnomalyDetection.Store.Traffic

open Envelope (documentOf)
open Files (Place TooLong)
open Json (nestingLimit)

variable {dir id : String} {p : Place} {calls : Nat → Operation} {t : Traffic} {c c' : Nat}
  {past : List Nat}

-- What has taken effect stays so, in its order.
theorem past_step (t : Traffic) (e : Event) : t.past <+: (t.step dir calls e).past := by
  obtain ⟨c, e⟩ := e
  unfold step stepPut stepGet
  dsimp only
  repeat' split
  all_goals first | exact List.prefix_rfl | exact List.prefix_append ..

theorem past_run (fs : FileSystem) (es es' : List Event) :
    (run dir calls fs es).past <+: (run dir calls fs (es ++ es')).past := by
  induction es' using List.reverseRecOn
  case nil => exact (List.append_nil es).symm ▸ List.prefix_rfl
  case append_singleton es' e hi =>
    rw [← List.append_assoc]
    unfold run at hi ⊢
    rw [List.foldl_append (l := es ++ es')]
    exact hi.trans (past_step _ e)

-- What a get may answer after some puts of its id, the last one first.
inductive Tells (dir id : String) : List Detector → Except Fault Answer → Prop
  | refused {ds : List Detector} : TooLong dir (id ++ ".json") →
    Tells dir id ds (.error (.file .nameTooLong))
  | missing : ¬TooLong dir (id ++ ".json") → Tells dir id [] (.ok .missing)
  -- It has all that the last put has written, and nothing else.
  | found {d : Detector} {ds : List Detector} {version : UInt64} {a : Except Fault Answer} :
    ¬TooLong dir (id ++ ".json") → version.toNat = (d :: ds).length →
    a = File.answerOf (.ok (Envelope.content ⟨version, documentOf d⟩)) →
    ((documentOf d).depth < nestingLimit →
      (∀ x, d.Mentions (.float x) → (Json.Number.float x).ReadsBack) →
      a = .ok (.holding ⟨Text.encode (documentOf d).compact, version⟩)) →
    Tells dir id (d :: ds) a

theorem tells_answerOf {ds : List Detector} (hl : ds.length < UInt64.size) :
    Tells dir id ds (File.answerOf (readAfter dir id ds)) := by
  rw [readAfter]
  split
  case isTrue ht => exact .refused ht
  case isFalse ht =>
    cases ds
    case nil => exact .missing ht
    case cons d ds =>
      refine .found ht (version_envelopeAfter hl) rfl fun hd hf => ?_
      simp only [envelopeAfter, File.answerOf, File.envelopeOf,
        Envelope.ofContent_content d.isSorted_documentOf (Envelope.readsBack_documentOf hf _), hd,
        if_true]
      rfl

-- The answers of a store whose calls take effect one after another.
structure Linear (dir : String) (calls : Nat → Operation) (t : Traffic) : Prop where
  once : t.past.Nodup
  later : ∀ c, t.stage c = .begun → c ∉ t.past
  -- No id is put more often than it can have versions.
  room : ∀ id, (putsOf calls id t.past).length < UInt64.size
  -- The puts that have taken effect are those that are successful.
  counted : ∀ c id d, calls c = .put id d → c ∈ t.past →
    ∃ v, t.stage c = .leaving (.ok v) ∨ t.stage c = .wrote (.ok v)
  wrote : ∀ c v, t.stage c = .wrote (.ok v) → ∃ id d front, calls c = .put id d ∧
    front ++ [c] <+: t.past ∧ v.toNat = (putsOf calls id front).length + 1
  told : ∀ c a, t.stage c = .told a → ∃ id front, calls c = .get id ∧
    front ++ [c] <+: t.past ∧ Tells dir id (putsOf calls id front) a

theorem Orderly.length_putsOf_lt (h : Orderly dir p calls t) {front : List Nat}
    (hf : front <+: t.past) : (putsOf calls id front).length < UInt64.size := by
  obtain ⟨back, hb⟩ := hf
  refine Nat.lt_of_le_of_lt ?_ (h.counted id)
  rw [← hb, putsOf_append, List.length_append]
  exact Nat.le_add_left ..

theorem Orderly.told (h : Orderly dir p calls t) {a : Except Fault Answer}
    (hs : t.stage c = .told a) : ∃ id front, calls c = .get id ∧ front ++ [c] <+: t.past ∧
      a = File.answerOf (readAfter dir id (putsOf calls id front)) := by
  have hc := hs ▸ h.call c
  cases hc
  case told id front hc hp => exact ⟨id, front, hc, hp, rfl⟩

theorem Orderly.linear (h : Orderly dir p calls t) : Linear dir calls t where
  once := h.nodup
  later c hs := by
    have hc := hs ▸ h.call c
    cases hc
    assumption
  room := h.counted
  counted c id d hc hm := by
    have hs := h.call c
    cases ht : t.stage c <;> rw [ht] at hs <;> cases hs
    case begun hn => exact absurd hm hn
    case locked hi => exact absurd hm hi.new
    case writing hi _ _ => exact absurd hm hi.new
    case drafted hi _ _ _ => exact absurd hm hi.new
    case leaving he =>
      cases he
      case ok => exact ⟨_, .inl rfl⟩
      case error hn => exact absurd hm hn
    case wrote he =>
      cases he
      case ok => exact ⟨_, .inr rfl⟩
      case error hn => exact absurd hm hn
    case reading hg _ _ _ _ _ => cases hc.symm.trans hg
    case told hg _ => cases hc.symm.trans hg
  wrote c v hs := by
    have hc := hs ▸ h.call c
    cases hc
    case wrote he =>
    cases he
    case ok id d front hc hp hv => exact ⟨id, d, front, hc, hp, hv⟩
  told c a hs := by
    have ⟨id, front, hc, hp, ha⟩ := h.told hs
    have hl : (putsOf calls id front).length < UInt64.size :=
      h.length_putsOf_lt ((List.prefix_append ..).trans hp)
    exact ⟨id, front, hc, hp, ha ▸ tells_answerOf hl⟩

-- Calls that have not begun when another takes effect come after it.
theorem prefix_front {front front' past' : List Nat} (h : front ++ [c] <+: past)
    (h' : front' ++ [c'] <+: past') (hp : past <+: past') (hn : c' ∉ past) : front <+: front' := by
  have hs : front <+: past := (List.prefix_append ..).trans h
  cases List.prefix_or_prefix_of_prefix h' hp
  case inl hl => exact absurd (hl.mem (by simp)) hn
  case inr hl =>
    cases List.prefix_concat_iff.mp hl
    case inl hl => exact absurd (hl ▸ by simp) hn
    case inr hl => exact hs.trans hl

theorem version_le {ds more : List Detector} {v : UInt64}
    (hv : (envelopeAfter ds).map Envelope.version = some v)
    (hl : (more ++ ds).length < UInt64.size) :
    ∃ v', (envelopeAfter (more ++ ds)).map Envelope.version = some v' ∧ v ≤ v' := by
  have version {ds : List Detector} (hn : ds ≠ []) :
      (envelopeAfter ds).map Envelope.version = some (.ofNat ds.length) := by
    cases ds
    case nil => exact absurd rfl hn
    case cons => rfl
  have hn : ds ≠ [] := by rintro rfl; cases hv
  have hs : ds.length ≤ (more ++ ds).length := by simp
  cases (version hn).symm.trans hv
  refine ⟨_, version (List.append_ne_nil_of_right_ne_nil more hn), ?_⟩
  rw [UInt64.le_iff_toNat_le, UInt64.toNat_ofNat_of_lt' hl,
    UInt64.toNat_ofNat_of_lt' (by omega)]
  exact hs

-- Whatever the steps of calls come to be, every put answers with the number of puts that its id has
-- had by then, and every get with the envelope of the last one before it.
theorem linearizable {fs : FileSystem} (hp : fs.Admits dir p)
    (he : ∀ name, fs.entry? (p ++ [name]) = none) (hv : ∀ c, isValidId (calls c).id)
    (es : List Event) :
    let t := run dir calls fs es
    Linear dir calls t ∧ ∀ es',
      let t' := run dir calls fs (es ++ es')
      t.past <+: t'.past ∧
      -- Of two gets of an id, the one that begins after the other has ended sees no older version.
      ∀ c c' id a a' v, calls c = .get id → calls c' = .get id →
        t.stage c = .told (.ok a) → a.version = some v →
        t.stage c' = .begun → t'.stage c' = .told (.ok a') →
          ∃ v', a'.version = some v' ∧ v ≤ v' := by
  intro t
  have h : Orderly dir p calls t := .run hp he hv es
  refine ⟨h.linear, fun es' => ⟨past_run fs es es', ?_⟩⟩
  intro c c' id a a' v hc hc' hs ha hb hs'
  have h' : Orderly dir p calls (run dir calls fs (es ++ es')) := .run hp he hv _
  have ⟨id₁, front, hc₁, hf, hr⟩ := h.told hs
  have ⟨id₂, front', hc₂, hf', hr'⟩ := h'.told hs'
  cases hc.symm.trans hc₁
  cases hc'.symm.trans hc₂
  obtain ⟨rest, rfl⟩ := prefix_front hf hf' (past_run fs es es') (h.linear.later c' hb)
  have hn : (putsOf calls id (front ++ rest)).length < UInt64.size :=
    h'.length_putsOf_lt ((List.prefix_append ..).trans hf')
  rw [version_answerOf hr'.symm]
  rw [version_answerOf hr.symm] at ha
  rw [putsOf_append] at hn ⊢
  exact version_le ha hn

-- One put after another, the second while a get takes what the first has left. It takes that to its
-- end, and only the get after it sees the second.
theorem linearizable_two_puts :
    let first : Detector :=
      { Detector.blank with name := "n", timeField := "t", interval := ⟨1, .days⟩ }
    let second : Detector := { first with name := "m" }
    let fs : FileSystem := ⟨[(["d"], .directory)], []⟩
    let calls : Nat → Operation
      | 0 => .put "a" first
      | 1 => .put "a" second
      | _ => .get "a"
    let put (c : Nat) : List Event :=
      [(c, .lock), (c, .read), (c, .append 3), (c, .finish), (c, .commit), (c, .unlock)]
    let es : List Event := [(2, .look)] ++ put 0 ++ [(3, .look), (3, .take 5)] ++ put 1 ++
      [(3, .take 500), (3, .tell), (4, .look), (4, .take 500), (4, .tell)]
    let t := run "d" calls fs es
    let told (c : Nat) : Option Answer := match t.stage c with
      | .told a => a.toOption
      | _ => none
    fs.Admits "d" ["d"] ∧ (∀ name, fs.entry? (["d"] ++ [name]) = none) ∧
    (∀ c, isValidId (calls c).id) ∧ Linear "d" calls t ∧ t.past = [2, 0, 3, 1, 4] ∧
    told 2 = some .missing ∧
    told 3 = some (.holding ⟨Text.encode (documentOf first).compact, 1⟩) ∧
    told 4 = some (.holding ⟨Text.encode (documentOf second).compact, 2⟩) := by
  intro first second fs calls put es t told
  have hp : fs.Admits "d" ["d"] := ⟨Outcome.eq_ok_of_toOption (by decide +kernel), by decide⟩
  have he (name : String) : fs.entry? (["d"] ++ [name]) = none := by
    simp [fs, FileSystem.entry?, List.lookup_cons]
  have hv (c : Nat) : isValidId (calls c).id := by
    have hc : (calls c).id = "a" := by rcases c with _ | _ | c <;> rfl
    rw [hc]
    decide +kernel
  exact ⟨hp, he, hv, (linearizable hp he hv es).left, by decide +kernel⟩

-- The path of a directory may leave no room for the names of its files. Nothing is in it, and yet
-- nobody is told that an id is missing.

theorem look_of_long {fs : FileSystem} (hp : fs.Admits dir p) (hv : isValidId id)
    (ht : TooLong dir (id ++ ".json")) :
    run dir (fun _ => .get id) fs [(0, .look)] =
      { (start fs).go 0 (.told (.error (.file .nameTooLong))) with past := [0] } := by
  have ho : fs.openFile (File.path dir id) = .error .nameTooLong := by
    rw [FileSystem.openFile, File.path, File.locate_of_admits hp hv rfl (by decide), if_pos ht]
    rfl
  simp only [run, List.foldl, step, stepGet.eq_def, start, hv, Bool.not_true, Bool.false_eq_true,
    if_false, ho, List.nil_append]
  rfl

-- Where there is room, what a get answers may still not be the document that was put: a number is
-- read as its neighbour.
theorem get_fails_or_differs :
    let dir := String.ofList (List.replicate 4090 '/')
    let bare : FileSystem := ⟨[], []⟩
    let far := run dir (fun _ => .get "a") bare [(0, .look)]
    let fs : FileSystem := ⟨[(["d"], .directory)], []⟩
    let d : Detector :=
      { Detector.blank with
        name := "n", timeField := "t", interval := ⟨1, .days⟩
        filter := some (.number (.float 1.6747030734736856e-40)) }
    let calls : Nat → Operation
      | 0 => .put "a" d
      | _ => .get "a"
    let t := run "d" calls fs [(0, .lock), (0, .read), (0, .finish), (0, .commit), (0, .unlock),
      (1, .look), (1, .take 500), (1, .tell)]
    let told := match t.stage 1 with
      | .told a => a.toOption
      | _ => none
    (bare.Admits dir [] ∧ (∀ name, bare.entry? ([] ++ [name]) = none) ∧ isValidId "a" ∧
      far.past = [0] ∧ far.stage 0 = .told (.error (.file .nameTooLong))) ∧
    t.past = [0, 1] ∧ (told.bind (·.version)) = some 1 ∧
    (told.bind (·.source)) ≠ some (Text.encode (documentOf d).compact) := by
  intro dir bare far fs d calls t told
  have slashes (n : Nat) (hn : n ≠ 0) (hl : n ≤ Files.pathLimit) :
      bare.Admits (String.ofList (List.replicate n '/')) [] :=
    ⟨FileSystem.enter_of_locate (FileSystem.locate_slashes bare hn hl) rfl, by simp⟩
  have long (n : Nat) (hn : n ≠ 0) (hl : Files.pathLimit < n + 6) :
      TooLong (String.ofList (List.replicate n '/')) ("a" ++ ".json") := by
    have ha : IsFileId "a" := ⟨by decide +kernel, by decide⟩
    refine .inr (Nat.lt_of_lt_of_le ?_ (Files.le_size_join (by simp [hn]) ha.plain_target))
    rw [Files.utf8ByteSize_replicate]
    exact (Nat.mul_one n).symm ▸ hl
  have hp : bare.Admits dir [] := slashes 4090 (by decide) (by decide)
  have hv : isValidId "a" := by decide +kernel
  have hs : far = _ := look_of_long hp hv (long 4090 (by decide) (by decide))
  exact ⟨⟨hp, fun _ => rfl, hv, by rw [hs], by rw [hs]; rfl⟩, by decide +kernel⟩

end AnomalyDetection.Store.Traffic

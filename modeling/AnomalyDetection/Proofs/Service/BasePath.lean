import AnomalyDetection.Proofs.Service.Routing
import AnomalyDetection.Proofs.Text.Blank
import AnomalyDetection.Service.Server
import Mathlib.Data.List.DropRight

namespace AnomalyDetection

namespace Text

variable {s : List Char}

def endsBlank (s : List Char) : Bool := s.getLast?.any isBlank

theorem trimEnd_eq_self_iff : trimEnd s = s ↔ endsBlank s = false := by
  rw [show trimEnd s = s.rdropWhile isBlank from rfl, List.rdropWhile_eq_self_iff]
  cases s using List.reverseRecOn
  case nil => simp [endsBlank]
  case append_singleton => simp [endsBlank]

theorem endsBlank_trim (s : List Char) : endsBlank (trim s) = false :=
  trimEnd_eq_self_iff.mp (List.rdropWhile_idempotent isBlank (trimStart s))

end Text

namespace BasePath

variable {s : List Char}

-- What of a text is left without the blanks around it, and then without the slashes behind it.
def core (s : List Char) : List Char := (Text.trim s).rdropWhile (· == '/')

-- Blanks around a base path are dropped before the slashes behind it, so that a blank in front of
-- these stays. Without anything but slashes there is one slash.
theorem normalBasePath_eq (s : List Char) :
    normalBasePath s = if (core s).head? = some '/' then core s else '/' :: core s := by
  have hc : ((Text.trim s).reverse.dropWhile (· == '/')).reverse = core s := rfl
  simp only [normalBasePath, hc]
  split
  case h_1 h => exact (if_pos (congrArg List.head? h)).symm
  case h_2 h =>
    refine (if_neg fun hh => ?_).symm
    obtain ⟨rest, hr⟩ := List.head?_eq_some_iff.mp hh
    exact h rest hr

theorem exists_cons (s : List Char) : ∃ rest, normalBasePath s = '/' :: rest := by
  rw [normalBasePath_eq]
  split
  case isTrue h => exact List.head?_eq_some_iff.mp h
  case isFalse => exact ⟨_, rfl⟩

theorem core_eq_nil_iff : core s = [] ↔ ∀ c ∈ Text.trim s, c = '/' := by
  simp [core, List.rdropWhile_eq_nil_iff]

theorem getLast?_core_ne (s : List Char) : (core s).getLast? ≠ some '/' := by
  intro h
  have hn : core s ≠ [] := fun hn => by simp [hn] at h
  refine List.rdropWhile_last_not (· == '/') (Text.trim s) hn ?_
  rw [beq_iff_eq, ← Option.some_inj, ← h, List.getLast?_eq_some_getLast hn]
  rfl

theorem getLast?_eq (s : List Char) :
    (normalBasePath s).getLast? = some ((core s).getLast?.getD '/') := by
  rw [normalBasePath_eq]
  split
  case isTrue h =>
    obtain ⟨rest, hr⟩ := List.head?_eq_some_iff.mp h
    rw [hr, List.getLast?_cons, Option.getD_some]
  case isFalse => exact List.getLast?_cons

theorem endsBlank_eq (s : List Char) :
    Text.endsBlank (normalBasePath s) = Text.endsBlank (core s) := by
  rw [Text.endsBlank, Text.endsBlank, getLast?_eq]
  cases (core s).getLast?
  case none => decide
  case some => rfl

-- A slash at the end is the only character.
theorem getLast?_eq_slash_iff : (normalBasePath s).getLast? = some '/' ↔ core s = [] := by
  rw [getLast?_eq, Option.some_inj]
  constructor
  case mp =>
    intro h
    by_contra hn
    have hl := List.getLast?_eq_some_getLast hn
    rw [hl, Option.getD_some] at h
    exact getLast?_core_ne s (h ▸ hl)
  case mpr => intro h; rw [h]; rfl

theorem eq_slash_iff : normalBasePath s = ['/'] ↔ core s = [] :=
  ⟨fun h => getLast?_eq_slash_iff.mp (congrArg List.getLast? h),
    fun h => by rw [normalBasePath_eq, h]; rfl⟩

-- Slashes behind a text are dropped, however many.
theorem rdropWhile_append_slashes (s : List Char) (n : Nat) :
    (s ++ List.replicate n '/').rdropWhile (· == '/') = s.rdropWhile (· == '/') := by
  induction n
  case zero => rw [List.replicate_zero, List.append_nil]
  case succ n hi =>
    rw [List.replicate_succ', ← List.append_assoc, List.rdropWhile_concat_pos _ _ _ (by decide), hi]

theorem exists_slashes (s : List Char) : ∃ n, Text.trim s = core s ++ List.replicate n '/' := by
  refine ⟨((Text.trim s).rtakeWhile (· == '/')).length, ?_⟩
  have ht : ∀ c ∈ (Text.trim s).rtakeWhile (· == '/'), c = '/' := fun c hc =>
    beq_iff_eq.mp (List.mem_rtakeWhile_imp (p := (· == '/')) hc)
  rw [← List.eq_replicate_of_mem ht, core, List.rdropWhile_append_rtakeWhile]

-- A blank at the end is one with slashes behind it.
theorem endsBlank_core_iff : Text.endsBlank (core s) ↔ ∃ front c n,
    Text.trim s = front ++ c :: List.replicate (n + 1) '/' ∧ Text.isBlank c := by
  constructor
  case mp =>
    intro h
    have ⟨c, hc, hb⟩ := (Option.any_eq_true ..).mp h
    obtain ⟨front, hf⟩ := List.getLast?_eq_some_iff.mp hc
    have ⟨n, hn⟩ := exists_slashes s
    cases n
    case zero =>
      rw [List.replicate_zero, List.append_nil] at hn
      rw [← hn, Text.endsBlank_trim] at h
      cases h
    case succ n => exact ⟨front, c, n, by rw [hn, hf, List.append_assoc]; rfl, hb⟩
  case mpr =>
    rintro ⟨front, c, n, hs, hb⟩
    have hc : c ≠ '/' := fun h => absurd (h ▸ hb) (by decide)
    have hs' : Text.trim s = (front ++ [c]) ++ List.replicate (n + 1) '/' := by
      rw [hs, List.append_assoc]; rfl
    rw [core, hs', rdropWhile_append_slashes, List.rdropWhile_concat, if_neg (mt beq_iff_eq.mp hc),
      Text.endsBlank, List.getLast?_concat]
    exact hb

theorem trim_normalBasePath (s : List Char) :
    Text.trim (normalBasePath s) = Text.trimEnd (normalBasePath s) := by
  have ⟨rest, hs⟩ := exists_cons s
  have hb : Text.trimStart ('/' :: rest) = '/' :: rest := by rw [Text.trimStart_cons]; rfl
  rw [hs, Text.trim, hb]

theorem trim_eq_self_iff :
    Text.trim (normalBasePath s) = normalBasePath s ↔ Text.endsBlank (core s) = false := by
  rw [trim_normalBasePath, Text.trimEnd_eq_self_iff, endsBlank_eq]

-- Without a blank at the end there is nothing to be done a second time.
theorem normalBasePath_eq_self_iff :
    normalBasePath (normalBasePath s) = normalBasePath s ↔ Text.endsBlank (core s) = false := by
  have ⟨rest, hs⟩ := exists_cons s
  rw [← trim_eq_self_iff]
  generalize hb : normalBasePath s = base at hs
  have ht : Text.trim base = Text.trimEnd base := hb ▸ trim_normalBasePath s
  have hp : Text.trim base <+: base := ht ▸ List.rdropWhile_prefix Text.isBlank _
  have hc : core base <+: Text.trim base := List.rdropWhile_prefix _ _
  constructor
  case mp =>
    intro h
    rw [normalBasePath_eq] at h
    split at h
    case isTrue =>
      have hl := hc.length_le
      rw [h] at hl
      exact hp.eq_of_length_le hl
    case isFalse hn =>
      cases hr : core base
      case nil =>
        rw [hr] at h
        rw [← h]
        decide
      case cons c cs =>
        have ⟨_, he⟩ := hc.trans hp
        rw [hr, hs] at he
        exact absurd (by rw [hr, (List.cons.inj he).left]; rfl) hn
  case mpr =>
    intro h
    by_cases hn : core s = []
    case pos =>
      rw [← hb, eq_slash_iff.mpr hn]
      decide
    case neg =>
      have hl : base.getLast? ≠ some '/' := hb ▸ mt getLast?_eq_slash_iff.mp hn
      have hr : core base = base := by
        rw [core, h, List.rdropWhile_eq_self_iff]
        intro hb hc
        exact hl (by rw [List.getLast?_eq_some_getLast hb, beq_iff_eq.mp hc])
      rw [normalBasePath_eq, hr, if_pos]
      exact congrArg List.head? hs

end BasePath

namespace Service

open Execution (Route)

-- What the configuration makes of a base path, and the routes that are below it. Two things are
-- left over where they should not be: a slash that is alone, and a blank in front of slashes at the
-- end.
theorem base_path_of_configuration (env : Environment) (profile : String) :
    let given := (env.profiled? (Text.upper profile) "ADWATCH_BASE_PATH").getD "/_adwatch/detectors"
    let base := (Server.site (.ofProfile env profile)).basePath.toList
    base.head? = some '/' ∧
    (base.getLast? = some '/' ↔ base = ['/']) ∧
    (base = ['/'] ↔ ∀ c ∈ Text.trim given.toList, c = '/') ∧
    (Text.endsBlank base ↔ ∃ front c n,
      Text.trim given.toList = front ++ c :: List.replicate (n + 1) '/' ∧ Text.isBlank c) ∧
    (Text.trim base = base ↔ Text.endsBlank base = false) ∧
    (normalBasePath base = base ↔ Text.endsBlank base = false) ∧
    ∀ path, (Endpoint.ofPath? (.ofText base) path = some .previewInline ↔
        ∃ ps, Http.Pattern.Fits (.ofText (base ++ "/preview".toList)) path ps) ∧
      ∀ route ps, Endpoint.ofPath? (.ofText base) path = some (.stored route ps) ↔
        Http.Pattern.Fits (.ofText (base ++ "/\x7bdetector_id\x7d/".toList ++ route.name.toList))
          path ps := by
  intro given base
  have hb : base = normalBasePath given.toList := String.toList_ofList
  rw [hb, BasePath.getLast?_eq_slash_iff, BasePath.eq_slash_iff, BasePath.core_eq_nil_iff,
    BasePath.trim_eq_self_iff, BasePath.normalBasePath_eq_self_iff, BasePath.endsBlank_eq,
    BasePath.endsBlank_core_iff]
  have ⟨rest, hs⟩ := BasePath.exists_cons given.toList
  exact ⟨congrArg List.head? hs, .rfl, .rfl, .rfl, .rfl, .rfl,
    fun path => Endpoint.ofPath?_iff_fits _ path⟩

-- A blank stays where slashes have been, and is dropped the second time; and with the base path `/`
-- there are two slashes in front of a route.
theorem base_path_of_configuration_blank :
    let base (given : String) :=
      (Server.site (.ofProfile [("ADWATCH_BASE_PATH", given)] "")).basePath.toList
    base "/x /" = "/x ".toList ∧ normalBasePath (base "/x /") = "/x".toList ∧
    Text.endsBlank (base "/x /") ∧ base "/" = "/".toList ∧
    Endpoint.ofPath? (.ofText (base "/")) "/preview".toList = none ∧
    Endpoint.ofPath? (.ofText (base "/")) "//preview".toList = some .previewInline := by
  intro base
  have ⟨_, _, _, hx, _⟩ := base_path_of_configuration [("ADWATCH_BASE_PATH", "/x /")] ""
  have ⟨_, _, _, _, _, _, hp⟩ := base_path_of_configuration [("ADWATCH_BASE_PATH", "/")] ""
  have hx := hx.mpr ⟨"/x".toList, ' ', 0, by decide +kernel, by decide⟩
  have hr : base "/" = ['/'] := by decide +kernel
  refine ⟨by decide +kernel, by decide +kernel, hx, hr, ?_, ?_⟩
  · rw [hr]; decide
  · exact (hp _).left.mpr ⟨[], by decide +kernel⟩

end Service
end AnomalyDetection

import AnomalyDetection.Proofs.Store.Frame

namespace AnomalyDetection

open Files

-- Names that never lead above the place they start from. `depth` names have led down to there from
-- the place that must not be left.
def Files.staysBelow (depth : Nat) : List String → Bool
  | [] => true
  | name :: rest =>
    if name = "" ∨ name = "." then staysBelow depth rest
    else if name = ".." then 0 < depth && staysBelow (depth - 1) rest
    else staysBelow (depth + 1) rest

namespace FileSystem

variable {fs fs' : FileSystem} {dir path name : String} {p r : Place} {names : List String}

-- Two file systems that hold the same below a directory. Where there is no way into it, there is
-- none in both, and for the same reason.
structure SameBelow (fs fs' : FileSystem) (dir : String) : Prop where
  enter : fs'.enter dir = fs.enter dir
  entry : ∀ p, fs.enter dir = .ok p → ∀ q, p <+: q → fs'.entry? q = fs.entry? q

theorem follow_below (he : ∀ q, p <+: q → fs'.entry? q = fs.entry? q)
    (hs : staysBelow r.length names) :
    fs'.follow (p ++ r) names = fs.follow (p ++ r) names ∧
    ∀ q, fs.follow (p ++ r) names = .ok q → p <+: q := by
  induction names generalizing r
  case nil =>
    refine ⟨rfl, fun q hq => ?_⟩
    cases hq
    exact List.prefix_append p r
  case cons name rest hi =>
    unfold staysBelow at hs
    unfold follow
    split at hs
    case isTrue hn => rw [if_pos hn, if_pos hn]; exact hi hs
    case isFalse hn =>
      rw [if_neg hn, if_neg hn]
      split at hs
      case isTrue hb =>
        rw [if_pos hb, if_pos hb]
        obtain ⟨hr, hs⟩ := Bool.and_eq_true_iff.mp hs
        have hr : r ≠ [] := List.ne_nil_of_length_pos (of_decide_eq_true hr)
        rw [List.dropLast_append_of_ne_nil hr]
        exact hi (by rwa [List.length_dropLast])
      case isFalse hb =>
        rw [if_neg hb, if_neg hb]
        have hi := hi (show staysBelow (r ++ [name]).length rest by simpa using hs)
        dsimp only
        rw [List.append_assoc, he _ (List.prefix_append p _)]
        split
        case isTrue => exact ⟨rfl, fun q hq => by cases hq⟩
        case isFalse =>
          split
          case isTrue =>
            refine ⟨rfl, fun q hq => ?_⟩
            cases hq
            exact List.prefix_append p _
          case isFalse =>
            split
            case h_1 => exact hi
            case h_2 => exact ⟨rfl, fun q hq => by cases hq⟩
            case h_3 => exact ⟨rfl, fun q hq => by cases hq⟩

-- A path that stays below the directory it is joined to.
structure Confined (path : String) : Prop where
  ne_empty : path ≠ ""
  relative : path.startsWith "/" = false
  below : staysBelow 0 (Files.names path)

namespace SameBelow

theorem follow_enter (h : fs.SameBelow fs' dir) (hs : staysBelow 0 names) :
    fs'.enter dir >>= (fs'.follow · names) = fs.enter dir >>= (fs.follow · names) ∧
    ∀ q, fs.enter dir >>= (fs.follow · names) = .ok q → fs'.entry? q = fs.entry? q := by
  rw [h.enter]
  cases hd : fs.enter dir
  case error => exact ⟨rfl, nofun⟩
  case ok p =>
    have ⟨hf, hb⟩ := follow_below (r := []) (h.entry p hd) hs
    rw [List.append_nil] at hf hb
    exact ⟨hf, fun q hq => h.entry p hd q (hb q hq)⟩

theorem read_join (h : fs.SameBelow fs' dir) (hp : Confined path) :
    fs'.read (join dir path) = fs.read (join dir path) := by
  have ⟨hf, he⟩ := h.follow_enter hp.below
  refine read_congr ?locate fun q hq => ?read
  case locate =>
    rw [locate_join dir hp.relative hp.ne_empty, locate_join dir hp.relative hp.ne_empty, hf]
  case read =>
    rw [locate_join dir hp.relative hp.ne_empty] at hq
    split at hq
    case isTrue => cases hq
    case isFalse =>
      split at hq
      case isTrue => cases hq
      case isFalse => exact he q hq

end SameBelow

end FileSystem

namespace Extract

variable {α : Type} [Quantity α] {fs fs' : FileSystem} {dir index name : String} {d : Detector}
  {b : Buckets} {p : Place}

-- An index whose file is one below the directory of series.
def IsConfined (index : String) : Prop := FileSystem.Confined (index ++ ".jsonl")

-- What makes an id of a detector makes an index too.
theorem isConfined_of_isValidId (h : Store.isValidId index) : IsConfined index := by
  have hs : '/' ∉ (index ++ ".jsonl").toList := Store.notMem_append h rfl rfl
  have hb (other : String) (ho : other.utf8ByteSize < 6) : index ++ ".jsonl" ≠ other :=
    append_ne ho
  refine ⟨hb "" (by decide), not_startsWith_of_notMem hs, ?_⟩
  rw [names_of_notMem hs]
  simp [staysBelow, hb "" (by decide), hb "." (by decide), hb ".." (by decide)]

theorem indexLines_of_sameBelow (h : fs.SameBelow fs' dir) (hi : IsConfined index) :
    indexLines fs' dir index = indexLines fs dir index := by
  unfold indexLines FileSystem.readText indexPath
  rw [h.read_join hi]

theorem extract_of_sameBelow (h : fs.SameBelow fs' dir)
    (hd : ∀ index ∈ d.indices, IsConfined index) :
    (extract fs' dir d b : Except Engine.Fault (List (Series α))) = extract fs dir d b :=
  extract_eq fun index hi =>
    indexLines_of_sameBelow h (hd index hi) ▸ .refl _

-- One step up, and the file lies beside the directory of series.
theorem locate_beside (hd : fs.enter dir = .ok p) (hz : '\x00' ∉ dir.toList)
    (hn : Plain (name ++ ".jsonl"))
    (hl : (indexPath dir ("../" ++ name)).utf8ByteSize ≤ pathLimit) :
    fs.locate (indexPath dir ("../" ++ name)) = .ok (p.dropLast ++ [name ++ ".jsonl"]) := by
  have hp : "../" ++ name ++ ".jsonl" = String.ofList ['.', '.'] ++ "/" ++ (name ++ ".jsonl") :=
    String.append_assoc ..
  have hr : ("../" ++ name ++ ".jsonl").startsWith "/" = false := by
    simp [String.startsWith_string_eq_false_iff]
  have hx : names ("../" ++ name ++ ".jsonl") = ["..", name ++ ".jsonl"] := by
    rw [hp, names_append_slash, names_of_notMem hn.slash]
    rfl
  have h₀ : '\x00' ∉ ("../" ++ name ++ ".jsonl").toList := by
    have hz := hn.zero
    rw [String.append_assoc, String.toList_append]
    exact fun hm => (List.mem_append.mp hm).elim (by decide) hz
  unfold indexPath at hl ⊢
  rw [FileSystem.locate_join dir hr (append_ne (by decide)), if_neg (zero_notMem_join hz h₀),
    if_neg (Nat.not_lt_of_le hl), hd, hx]
  exact FileSystem.follow_of_plain fs p.dropLast hn

-- For files that are confined to the directory of series nothing else matters, and ids of detectors
-- would be names of such files. But no index has to be one: the file may lie beside the directory,
-- or anywhere from the root on.
theorem only_confined_indices_stay_below (fs : FileSystem) (dir : String) :
    (∀ fs' d b, fs.SameBelow fs' dir → (∀ index ∈ d.indices, IsConfined index) →
      (extract fs' dir d b : Except Engine.Fault (List (Series α))) = extract fs dir d b) ∧
    (∀ index, Store.isValidId index → IsConfined index) ∧
    (∀ p name, fs.enter dir = .ok p → '\x00' ∉ dir.toList → Plain (name ++ ".jsonl") →
      (indexPath dir ("../" ++ name)).utf8ByteSize ≤ pathLimit →
      fs.locate (indexPath dir ("../" ++ name)) = .ok (p.dropLast ++ [name ++ ".jsonl"])) ∧
    (∀ path, indexPath dir ("/" ++ path) = "/" ++ path ++ ".jsonl") := by
  refine ⟨fun _ _ _ => extract_of_sameBelow, fun _ => isConfined_of_isValidId,
    fun _ _ => locate_beside, fun path => ?_⟩
  have hs : ("/" ++ path ++ ".jsonl").startsWith "/" := by
    simp [String.startsWith_string_iff]
  simp only [indexPath, join, hs, Bool.true_or, if_true]

-- A file that is new beside the directory of series. The index inside of it does not notice, but
-- one that leads to the file does.
theorem only_confined_indices_stay_below_one_row :
    let query : Json := .object [("a", .object [("sum", .object [("field", .string "x")])])]
    let d (index : String) := { Detector.blank with
      timeField := "t", indices := [index], features := [⟨none, "f", true, query⟩] }
    let row : Entry := .file (Text.octets "\x7b\"t\":0,\"x\":2\x7d")
    let fs : FileSystem := ⟨[(["series"], .directory), (["series", "m.jsonl"], row)], []⟩
    let fs' := fs.set ["m.jsonl"] row
    let b : Buckets := ⟨.ofParts 0 0 0, .ofMillis 60000, 1⟩
    let values (fs : FileSystem) (index : String) : Except Engine.Fault (List (Series Float)) :=
      extract fs "series" (d index) b
    fs.SameBelow fs' "series" ∧ Store.isValidId "m" ∧ values fs' "m" = values fs "m" ∧
    fs'.locate (indexPath "series" "../m") = .ok ["m.jsonl"] ∧
    values fs' "../m" ≠ values fs "../m" := by
  intro query d row fs fs' b values
  have hd : fs.enter "series" = .ok ["series"] := Outcome.eq_ok_of_toOption (by decide +kernel)
  have hd' : fs'.enter "series" = .ok ["series"] := Outcome.eq_ok_of_toOption (by decide +kernel)
  have hs : fs.SameBelow fs' "series" := by
    refine ⟨hd'.trans hd.symm, fun p hp q hq => ?_⟩
    cases hd.symm.trans hp
    have hn : q ≠ [] := by rintro rfl; simp at hq
    rw [FileSystem.entry?_set fs _ q _ hn, if_neg]
    rintro rfl
    simp at hq
  have hm : Store.isValidId "m" := by decide
  have hp : Plain ("m" ++ ".jsonl") := by constructor <;> decide
  have ⟨hb, hv, _, _⟩ := only_confined_indices_stay_below (α := Float) fs "series"
  have ⟨_, _, hu, _⟩ := only_confined_indices_stay_below (α := Float) fs' "series"
  refine ⟨hs, hm, hb fs' (d "m") b hs (List.forall_mem_singleton.mpr (hv "m" hm)),
    hu ["series"] "m" hd' (by decide) hp (by decide +kernel), fun h => ?_⟩
  have h := congrArg (fun r => r.toOption.map (List.map fun s => s.values.map Option.isSome)) h
  revert h
  decide +kernel

end Extract
end AnomalyDetection

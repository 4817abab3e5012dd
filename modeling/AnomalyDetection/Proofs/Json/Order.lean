import AnomalyDetection.Json.Basic
import Mathlib.Data.List.Induction

namespace AnomalyDetection.Json

abbrev Members := List (String × Json)

namespace Members

variable {ms ms' : Members} {key : String} {value : Json}

def Ordered (ms : Members) : Prop := ms.Pairwise fun m m' => m.1 < m'.1

def keys (ms : Members) : List String := ms.map Prod.fst

theorem ordered_of_keys (h : ms.keys.Pairwise (· < ·)) : ms.Ordered :=
  List.pairwise_map.mp h

theorem keys_append (ms ms' : Members) : keys (ms ++ ms') = ms.keys ++ ms'.keys :=
  List.map_append

theorem keys_maybe (o : Option α) (key : String) (write : α → Json) :
    (keys (o.map fun a => (key, write a)).toList).Sublist [key] := by
  cases o
  case none => exact List.nil_sublist _
  case some => exact .refl _

theorem forall_maybe {P : String × Json → Prop} {o : Option α} {key : String} {write : α → Json} :
    (∀ m ∈ (o.map fun a => (key, write a)).toList, P m) ↔ ∀ a, o = some a → P (key, write a) := by
  cases o <;> simp

theorem filter_maybe (o : Option α) (k key : String) (write : α → Json) :
    ((o.map fun a => (k, write a)).toList.filter fun m => m.1 != key) =
      if k = key then [] else (o.map fun a => (k, write a)).toList := by
  split
  case isTrue h => cases o <;> simp [h]
  case isFalse h => cases o <;> simp [h]

theorem Ordered.nodup_keys (h : ms.Ordered) : ms.keys.Nodup := by
  refine List.pairwise_map.mpr (h.imp ?_)
  rintro m m' hl he
  exact String.lt_irrefl _ (he ▸ hl)

-- There is one such order, so an object does not depend on how its members came in.
theorem Ordered.eq_of_perm (h : ms.Ordered) (h' : ms'.Ordered) (hp : ms.Perm ms') : ms = ms' :=
  hp.eq_of_pairwise (fun _ _ _ _ hl hg => absurd hg (String.lt_asymm hl)) h h'

theorem mem_insert {m : String × Json} (h : m ∈ insert key value ms) :
    m = (key, value) ∨ m ∈ ms := by
  induction ms
  case nil => exact .inl (List.mem_singleton.mp h)
  case cons m' ms hi =>
    unfold insert at h
    split at h
    case isTrue => exact List.mem_cons.mp h
    case isFalse =>
      split at h
      case isTrue =>
        cases List.mem_cons.mp h
        case inl h => exact .inl h
        case inr h => exact .inr (.tail _ h)
      case isFalse =>
        cases List.mem_cons.mp h
        case inl h => exact .inr (h ▸ .head _)
        case inr h => exact (hi h).imp id (.tail _)

theorem Ordered.insert (h : ms.Ordered) (key : String) (value : Json) :
    Ordered (Json.insert key value ms) := by
  induction ms
  case nil => exact List.pairwise_singleton ..
  case cons m ms hi =>
    have ⟨hm, hs⟩ := List.pairwise_cons.mp h
    unfold Json.insert
    split
    case isTrue hl =>
      refine List.pairwise_cons.mpr ⟨?_, h⟩
      intro m' hm'
      cases List.mem_cons.mp hm'
      case inl he => exact he ▸ hl
      case inr hm' => exact String.lt_trans hl (hm m' hm')
    case isFalse hn =>
      split
      case isTrue he => exact List.pairwise_cons.mpr ⟨fun m' hm' => he ▸ hm m' hm', hs⟩
      case isFalse hne =>
        refine List.pairwise_cons.mpr ⟨?_, hi hs⟩
        intro m' hm'
        cases mem_insert hm'
        case inl he =>
          subst he
          exact Std.lt_of_le_of_ne (String.not_lt.mp hn) (Ne.symm hne)
        case inr hm' => exact hm m' hm'

theorem insert_perm (h : key ∉ ms.keys) : (insert key value ms).Perm ((key, value) :: ms) := by
  induction ms
  case nil => exact .refl _
  case cons m ms hi =>
    have ⟨hn, hs⟩ : key ≠ m.1 ∧ key ∉ keys ms := by simpa [keys] using h
    unfold insert
    split
    case isTrue => exact .refl _
    case isFalse => exact ((hi hs).cons m).trans (.swap ..)

-- The members one after the other, put where they belong.
def arranged (ms : Members) : Members :=
  ms.foldl (fun done (k, v) => insert k v done) []

theorem arranged_append (ms : Members) (m : String × Json) :
    arranged (ms ++ [m]) = insert m.1 m.2 (arranged ms) := by
  simp [arranged]

theorem ordered_arranged (ms : Members) : (arranged ms).Ordered := by
  induction ms using List.reverseRecOn
  case nil => exact .nil
  case append_singleton ms m hi => exact arranged_append ms m ▸ hi.insert m.1 m.2

theorem mem_of_mem_arranged {m : String × Json} (h : m ∈ arranged ms) : m ∈ ms := by
  induction ms using List.reverseRecOn
  case nil => exact h
  case append_singleton ms m' hi =>
    rw [arranged_append] at h
    cases mem_insert h
    case inl he => exact List.mem_append_right _ (he ▸ List.mem_singleton_self _)
    case inr h => exact List.mem_append_left _ (hi h)

theorem arranged_perm (h : ms.keys.Nodup) : (arranged ms).Perm ms := by
  induction ms using List.reverseRecOn
  case nil => exact .refl _
  case append_singleton ms m hi =>
    have ⟨hs, hn⟩ : (keys ms).Nodup ∧ m.1 ∉ keys ms := by
      rw [keys, List.map_append] at h
      have ⟨hs, _, hd⟩ := List.nodup_append.mp h
      exact ⟨hs, fun hm => hd _ hm _ (List.mem_singleton_self _) rfl⟩
    have hp := hi hs
    rw [arranged_append]
    refine (insert_perm fun hm => hn ((hp.map Prod.fst).mem_iff.mp hm)).trans ?_
    exact (hp.cons m).trans (List.perm_append_singleton m ms).symm

theorem arranged_eq_of_perm (h : ms'.Ordered) (hp : ms.Perm ms') : arranged ms = ms' := by
  have hn : ms.keys.Nodup := ((hp.map Prod.fst).nodup_iff).mpr h.nodup_keys
  exact (ordered_arranged ms).eq_of_perm h ((arranged_perm hn).trans hp)

end Members
end AnomalyDetection.Json

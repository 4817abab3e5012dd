import AnomalyDetection.Text.Blank
import Mathlib.Data.List.TakeWhile

namespace AnomalyDetection.Text

theorem trimStart_of_allBlank {s : List Char} (h : allBlank s) : trimStart s = [] := by
  induction s
  case nil => rfl
  case cons c s hi =>
    have ⟨hc, hs⟩ : isBlank c ∧ allBlank s := by simpa [allBlank] using h
    rw [trimStart_cons, if_pos hc]
    exact hi hs

-- What trimming leaves alone is not blank, unless it is empty.
theorem allBlank_eq_false_of_trim {s : List Char} (hn : s ≠ []) (ht : trim s = s) :
    allBlank s = false := by
  refine Bool.eq_false_iff.mpr fun h => hn ?_
  rw [← ht, trim, trimStart_of_allBlank h]
  rfl

theorem trim_ne_nil {s : List Char} (h : allBlank s = false) : trim s ≠ [] := by
  intro ht
  have hb : ∀ c ∈ trimStart s, isBlank c := by
    simpa [trim, trimEnd, List.dropWhile_eq_nil_iff] using ht
  have hs : trimStart s = [] := by
    by_contra hn
    have hf : isBlank ((trimStart s).head hn) = false := List.head_dropWhile_not isBlank hn
    rw [hb _ (List.head_mem hn)] at hf
    cases hf
  exact Bool.eq_false_iff.mp h (List.all_eq_true.mpr (List.dropWhile_eq_nil_iff.mp hs))

theorem trim_of_forall {s : List Char} (h : ∀ c ∈ s, isBlank c = false) : trim s = s := by
  have keep (s : List Char) (h : ∀ c ∈ s, isBlank c = false) : s.dropWhile isBlank = s :=
    List.dropWhile_eq_self_iff.mpr fun hl => by simp [h _ (List.getElem_mem hl)]
  rw [trim, trimStart, keep s h, trimEnd, keep s.reverse fun c hc => h c (List.mem_reverse.mp hc),
    List.reverse_reverse]

-- Blanks around a text are trimmed away.
theorem trim_append {before after : List Char} (s : List Char) (hb : allBlank before)
    (ha : allBlank after) : trim (before ++ s ++ after) = trim s := by
  have hs : trimStart (before ++ s ++ after) = trimStart (s ++ after) := by
    rw [List.append_assoc]
    exact List.dropWhile_append_of_pos (List.all_eq_true.mp hb)
  have he : trimEnd (trimStart s ++ after) = trimEnd (trimStart s) := by
    have hr : ∀ c ∈ after.reverse, isBlank c := fun c hc =>
      List.all_eq_true.mp ha c (List.mem_reverse.mp hc)
    rw [trimEnd, List.reverse_append, List.dropWhile_append_of_pos hr]
    rfl
  rw [trim, trim, hs, ← he]
  have hd : trimStart (s ++ after) =
    if (trimStart s).isEmpty then trimStart after else trimStart s ++ after :=
      List.dropWhile_append
  rw [hd]
  split
  case isFalse => rfl
  case isTrue hn =>
    rw [he, List.isEmpty_iff.mp hn, trimStart_of_allBlank ha]

end AnomalyDetection.Text

import AnomalyDetection.Http.Pattern
import AnomalyDetection.Proofs.Paths

namespace AnomalyDetection

namespace Text

variable {c : Char} {s t : List Char}

-- Whatever stands behind the last separator is the last part.
theorem exists_last_part (h : c ∈ s) : ∃ front last, s = front ++ c :: last ∧ c ∉ last := by
  have ⟨last, front, hs, hn⟩ := List.eq_append_cons_of_mem (List.mem_reverse.mpr h)
  refine ⟨front.reverse, last.reverse, ?_, mt List.mem_reverse.mp hn⟩
  rw [← List.reverse_reverse s, hs]
  simp

theorem getLast?_split_append (h : c ∉ t) (s : List Char) :
    (split c (s ++ c :: t)).getLast? = some t := by
  rw [split_append, split_of_notMem h, List.getLast?_concat]

theorem intercalate_split (c : Char) (s : List Char) : [c].intercalate (split c s) = s := by
  induction s
  case nil => rfl
  case cons d s hi =>
    obtain ⟨part, parts, hs⟩ := List.exists_cons_of_ne_nil (split_ne_nil c s)
    rw [hs] at hi
    by_cases h : d = c
    case pos =>
      subst h
      simp only [split, if_true, hs]
      rw [List.intercalate_cons_cons, hi]
      rfl
    case neg =>
      simp only [split, h, if_false, hs]
      cases parts
      case nil => simpa using hi
      case cons => simpa [List.intercalate_cons_cons] using hi

-- A part is made of what the text is made of, without separators.
theorem of_mem_split {part : List Char} (h : part ∈ split c s) : part ⊆ s ∧ c ∉ part := by
  induction s generalizing part
  case nil =>
    cases List.mem_singleton.mp h
    exact ⟨List.Subset.refl _, List.not_mem_nil⟩
  case cons d s hi =>
    have later {part : List Char} (h : part ∈ split c s) : part ⊆ d :: s ∧ c ∉ part :=
      (hi h).imp_left (List.subset_cons_of_subset d)
    obtain ⟨first, parts, hs⟩ := List.exists_cons_of_ne_nil (split_ne_nil c s)
    have hf : first ∈ split c s := hs ▸ List.mem_cons_self
    simp only [split, hs] at h
    split at h
    case isTrue =>
      rcases List.mem_cons.mp h with rfl | h
      · exact ⟨List.nil_subset _, List.not_mem_nil⟩
      · exact later (hs ▸ h)
    case isFalse hd =>
      rcases List.mem_cons.mp h with rfl | h
      · obtain ⟨hm, hc⟩ := hi hf
        exact ⟨List.cons_subset_cons d hm, List.not_mem_cons_of_ne_of_not_mem (Ne.symm hd) hc⟩
      · exact later (hs ▸ List.mem_cons_of_mem _ h)

-- A text is what its parts make of it.
theorem split_inj : split c s = split c t ↔ s = t :=
  ⟨fun h => by rw [← intercalate_split c s, h, intercalate_split], congrArg _⟩

end Text

namespace Http.Pattern

variable {p q : Pattern} {path s t : List Char} {segments rest : List (List Char)}
  {ps : List Parameter}

-- A path that fits a pattern from its first segment to its last, with its parameters.
def Fits (p : Pattern) (path : List Char) (ps : List Parameter) : Prop :=
  p.front? (Text.split '/' path) = some (ps, [])

instance : Decidable (Fits p path ps) := inferInstanceAs (Decidable (_ = _))

theorem front?_append_eq_some : front? (p ++ q) segments = some (ps, rest) ↔
    ∃ around between own, front? p segments = some (around, between) ∧
      front? q between = some (own, rest) ∧ ps = around ++ own := by
  induction p generalizing segments ps
  case nil => simp [front?, and_assoc]
  case cons first p hi =>
    cases segments
    case nil => simp [front?]
    case cons s segments =>
      simp only [List.cons_append, front?, bind, Option.bind_eq_some_iff, pure, Option.some_inj,
        Prod.mk.injEq, Prod.exists]
      constructor
      case mp =>
        rintro ⟨own, ho, others, _, hf, rfl, rfl⟩
        obtain ⟨around, between, below, hp, hq, he⟩ := hi.mp hf
        exact ⟨_, between, below, ⟨own, ho, around, between, hp, rfl, rfl⟩, hq, by simp [he]⟩
      case mpr =>
        rintro ⟨_, _, below, ⟨own, ho, around, between, hp, rfl, rfl⟩, hq, rfl⟩
        have hf := hi.mpr ⟨around, between, below, hp, hq, rfl⟩
        exact ⟨own, ho, around ++ below, rest, hf, by simp⟩

theorem front?_text {t : List Char} : front? [.text t] segments = some (ps, rest) ↔
    segments = t :: rest ∧ ps = [] := by
  cases segments
  case nil => simp [front?]
  case cons s segments =>
    by_cases hs : s = t
    case pos => simp [front?, Segment.parameters?, hs, eq_comm, and_comm]
    case neg => simp [front?, Segment.parameters?, hs]

-- A name without a text in front of it takes any segment.
theorem front?_parameter {name : List Char} :
    front? (.parameter [] name :: p) segments = some (ps, rest) ↔ ∃ value between own,
      segments = value :: between ∧ front? p between = some (own, rest) ∧
      ps = ⟨name, value⟩ :: own := by
  cases segments
  case nil => simp [front?]
  case cons s segments =>
    constructor
    case mp =>
      intro h
      have ⟨⟨own, _⟩, hf, h⟩ := Option.bind_eq_some_iff.mp h
      cases h
      exact ⟨s, segments, own, rfl, hf, rfl⟩
    case mpr =>
      rintro ⟨value, between, own, hs, hf, rfl⟩
      cases hs
      simp [front?, Segment.parameters?, Text.after?, hf]

theorem ofText_append (s t : List Char) : ofText (s ++ '/' :: t) = ofText s ++ ofText t := by
  rw [ofText, Text.split_append, List.map_append]
  rfl

-- What is left of a path are its last segments.
theorem suffix_of_front? (h : p.front? segments = some (ps, rest)) : rest <:+ segments := by
  induction p generalizing segments ps
  case nil => cases h; exact List.suffix_rfl
  case cons first p hi =>
    cases segments
    case nil => cases h
    case cons s segments =>
      have ⟨own, _, h⟩ := Option.bind_eq_some_iff.mp h
      have ⟨⟨others, rest'⟩, hf, h⟩ := Option.bind_eq_some_iff.mp h
      cases h
      exact (hi hf).trans (List.suffix_cons s segments)

-- A text without names, and without doubled braces.
def IsLiteral (s : List Char) : Prop := '\x7b' ∉ s ∧ '\x7d' ∉ s

instance : Decidable (IsLiteral s) := inferInstanceAs (Decidable (_ ∧ _))

theorem read_of_isLiteral (h : IsLiteral s) (front : List Char) :
    Segment.read front s = .text (front.reverse ++ s) := by
  induction s generalizing front
  case nil => simp [Segment.read]
  case cons c s hi =>
    have ⟨ho, hc⟩ := h
    have ⟨ho, ho'⟩ := List.ne_and_not_mem_of_not_mem_cons ho
    have ⟨hc, hc'⟩ := List.ne_and_not_mem_of_not_mem_cons hc
    rw [Segment.read, hi ⟨ho', hc'⟩, List.reverse_cons, List.append_assoc]
    · rfl
    · exact fun _ he _ => ho he.symm
    · exact fun _ he _ => hc he.symm
    · exact fun he => ho he.symm

theorem ofText_of_isLiteral (h : IsLiteral s) :
    ofText s = (Text.split '/' s).map Segment.text := by
  refine List.map_congr_left fun part hp => ?_
  have ⟨hs, _⟩ := Text.of_mem_split hp
  exact read_of_isLiteral ⟨fun hm => h.left (hs hm), fun hm => h.right (hs hm)⟩ []

theorem front?_map_text (texts segments : List (List Char)) :
    front? (texts.map Segment.text) segments =
      if texts <+: segments then some ([], segments.drop texts.length) else none := by
  induction texts generalizing segments
  case nil => simp [front?]
  case cons t texts hi =>
    cases segments
    case nil => rfl
    case cons s segments =>
      by_cases hs : s = t
      case pos =>
        simp only [List.map_cons, front?, hi, Segment.parameters?, hs, List.cons_prefix_cons]
        by_cases hp : texts <+: segments <;> simp [hp]
      case neg => simp [front?, Segment.parameters?, hs, List.cons_prefix_cons, Ne.symm hs]

-- Behind a text all segments are left over that stand there.
theorem front?_of_isLiteral (h : IsLiteral s) :
    (ofText s).front? (Text.split '/' path) = some (ps, rest) ↔
      ps = [] ∧ Text.split '/' path = Text.split '/' s ++ rest := by
  rw [ofText_of_isLiteral h, front?_map_text]
  constructor
  case mp =>
    intro hf
    split at hf
    case isTrue hp =>
      cases hf
      exact ⟨rfl, (List.prefix_iff_eq_append.mp hp).symm⟩
    case isFalse => cases hf
  case mpr =>
    rintro ⟨rfl, hs⟩
    rw [hs, if_pos (List.prefix_append ..), List.drop_left]

end Http.Pattern
end AnomalyDetection

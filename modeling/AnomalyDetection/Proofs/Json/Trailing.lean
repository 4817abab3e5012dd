import AnomalyDetection.Proofs.Json.Reading

namespace AnomalyDetection.Json

theorem Numeral.step_space (n : Numeral) : n.step ' ' = .over ∨ n.step ' ' = .broken := by
  cases hp : n.place <;> simp only [step, hp]
  case zero | whole | fraction | power => exact .inl rfl
  case sign | point | mark | markSign => exact .inr rfl

namespace Reader

variable {fs : List Frame} {s : State} {next : Expected} {c : Char}

-- What is still to come of a word has no space in it.
def Expected.Lettered : Expected → Prop
  | word rest _ => ∀ c ∈ rest, isSpace c = false
  | _ => True

namespace Lettered

theorem complete (d : Document) (fs : List Frame) : (complete d fs).next.Lettered := by
  rcases fs with _ | ⟨_ | _ | _, fs⟩ <;> trivial

theorem close (c : Char) (fs : List Frame) : (close c fs).next.Lettered := by
  unfold Reader.close
  repeat' split
  all_goals first | exact complete .. | trivial

theorem beginValue (fs : List Frame) (c : Char) : (beginValue fs c).next.Lettered := by
  unfold Reader.beginValue
  repeat' split
  case isTrue => exact (by simp [isSpace] : ∀ c ∈ "ull".toList, isSpace c = false)
  case isFalse.isTrue => exact (by simp [isSpace] : ∀ c ∈ "rue".toList, isSpace c = false)
  case isFalse.isFalse.isTrue => exact (by simp [isSpace] : ∀ c ∈ "alse".toList, isSpace c = false)
  all_goals trivial

theorem stepString (fs : List Frame) (isKey : Bool) (done : List Piece) (e : Escape)
    (g : Text.Glyph) : (stepString fs isKey done e g).next.Lettered := by
  unfold Reader.stepString endString
  repeat' split
  all_goals first | exact complete .. | trivial

theorem stepToken (h : next.Lettered) (fs : List Frame) (c : Char) :
    (stepToken fs c next).next.Lettered := by
  unfold Reader.stepToken
  repeat' split
  all_goals first
    | exact complete .. | exact close .. | exact beginValue ..
    | exact fun c hc => h c (List.mem_cons_of_mem _ hc) | trivial

theorem broken (s : State) : (step.broken s).next.Lettered := by
  unfold step.broken
  split <;> trivial

theorem step (h : s.next.Lettered) (g : Text.Glyph) : (step s g).next.Lettered := by
  obtain ⟨fs, next⟩ := s
  cases next
  case nothing => trivial
  case string isKey done e => exact stepString fs isKey done e g
  case numeral n =>
    cases g
    case none =>
      simp only [Reader.step]
      split
      case h_1 => exact broken _
      case h_2 => trivial
    case some c =>
      simp only [Reader.step]
      split
      case h_1 => trivial
      case h_2 => trivial
      case h_3 => exact stepToken (complete ..) ..
  all_goals
    cases g
    case none => exact broken _
    case some c => exact stepToken h fs c

theorem foldl (h : s.next.Lettered) (gs : List Text.Glyph) :
    (gs.foldl Reader.step s).next.Lettered := by
  induction gs generalizing s
  case nil => exact h
  case cons g gs hi => exact hi (step h g)

end Lettered

-- The value that a reader ends with, if it can end.
def State.value? (s : State) : Option Document :=
  match s.next with
  | .blanks d => some d
  | _ => none

-- A complete value waits for what follows it.
theorem complete_space (h : isSpace c) (d : Document) (fs : List Frame) :
    step (complete d fs) (some c) = complete d fs := by
  rcases fs with _ | ⟨_ | _ | _, fs⟩
  case nil => exact if_pos h
  case cons.object => rfl
  all_goals exact waits_separator _ c h

theorem step_space (h : s.next.Lettered) (hc : isSpace c) :
    (step (step s (some c)) (some ' ')).value? = (step s (some ' ')).value? := by
  obtain ⟨fs, next⟩ := s
  cases next
  case value => rw [waits_value fs c hc]
  case valueOrClose => rw [waits_valueOrClose fs c hc]
  case keyOrClose => rw [waits_keyOrClose fs c hc]
  case key => rw [waits_key fs c hc]
  case separator => rw [waits_separator fs c hc]
  case nothing => rfl
  case blanks d =>
    have hw : step ⟨fs, .blanks d⟩ (some c) = ⟨fs, .blanks d⟩ := if_pos hc
    rw [hw]
  case colon key =>
    rcases fs with _ | ⟨_ | done | _, fs⟩
    case cons.object =>
      have hw : step ⟨.object done :: fs, .colon key⟩ (some c) = ⟨.object done :: fs, .colon key⟩ :=
        if_pos hc
      rw [hw]
    all_goals rfl
  case word rest d =>
    cases rest
    case nil => rfl
    case cons w rest =>
      have hw := h w List.mem_cons_self
      have hf {c : Char} (hc : isSpace c) : step ⟨fs, .word (w :: rest) d⟩ (some c) = fail fs := by
        refine if_neg ?_
        rintro rfl
        rw [hc] at hw
        cases hw
      rw [hf hc, hf rfl]
      rfl
  case numeral n =>
    have hd := Numeral.isDelimiter_of_isSpace hc
    have hn := Numeral.step_delimiter hd n
    rcases n.step_space with ho | hb
    case inl =>
      have hs := settles_numeral ho fs
      rw [hs c hd, hs ' ' (Numeral.isDelimiter_of_isSpace rfl), complete_space hc]
    case inr =>
      have hf {c : Char} (hc : n.step c = .broken) : step ⟨fs, .numeral n⟩ (some c) = fail fs := by
        simp only [step, hc]
      rw [hf (hn.trans hb), hf hb]
      rfl
  case string isKey done e =>
    -- Inside of a string a space is a part of it, or it may not stand there at all.
    simp only [isSpace, Bool.or_eq_true, beq_iff_eq] at hc
    rcases hc with ((rfl | rfl) | rfl) | rfl <;> cases e <;> rfl

end Reader

theorem read?_eq_value? (text : List Text.Glyph) : read? text =
    (Reader.step (text.foldl Reader.step Reader.start) (some ' ')).value?.bind
      (·.value? nestingLimit) := by
  unfold read? Document.read Reader.finish
  generalize Reader.step (text.foldl Reader.step Reader.start) (some ' ') = s
  obtain ⟨fs, next⟩ := s
  cases next
  case colon key => rcases fs with _ | ⟨_ | _ | _, fs⟩ <;> rfl
  all_goals rfl

-- A reader that has come to the end comes to the same end with one more space, since none of its
-- states goes on to a value for a space alone.
theorem read?_space (s : List Char) {c : Char} (h : Reader.isSpace c) :
    read? ((s ++ [c]).map some) = read? (s.map some) := by
  rw [read?_eq_value?, read?_eq_value?, List.map_append, List.foldl_append]
  exact congrArg (·.bind (·.value? nestingLimit))
    (Reader.step_space (Reader.Lettered.foldl (s := Reader.start) trivial _) h)

end AnomalyDetection.Json

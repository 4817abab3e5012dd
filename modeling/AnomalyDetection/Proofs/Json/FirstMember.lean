import AnomalyDetection.Proofs.Json.Reading
import AnomalyDetection.Proofs.Json.Shape

namespace AnomalyDetection.Json

namespace Reader

variable {m : Member} {fs : List Frame}

-- Open arrays and objects, the outermost of which is an object with a first member.
inductive Rooted (m : Member) : List Frame → Prop
  | object (rest : List Member) : Rooted m [.object (rest ++ [m])]
  | member (rest : List Member) (key : Option String) : Rooted m [.member (rest ++ [m]) key]
  | inner {fs : List Frame} (f : Frame) : Rooted m fs → Rooted m (f :: fs)

def Begins (m : Member) (d : Document) : Prop := ∃ rest closed, d = .object (m :: rest) closed

-- Whether there is more to read of the outermost value.
def Expected.inside : Expected → Bool
  | blanks _ => false
  | nothing _ => false
  | _ => true

-- A reader that cannot lose a first member any more.
inductive Holds (m : Member) : State → Prop
  | inside {fs : List Frame} {next : Expected} : next.inside → Rooted m fs → Holds m ⟨fs, next⟩
  | blanks {fs : List Frame} {d : Document} : Begins m d → Holds m ⟨fs, .blanks d⟩
  | nothing {fs : List Frame} {d : Document} : Begins m d → Holds m ⟨fs, .nothing d⟩

namespace Rooted

theorem abandon (h : Rooted m fs) (inner : Document) : Begins m (abandon inner fs) := by
  induction h generalizing inner
  case object rest => exact ⟨rest.reverse, false, by simp [Reader.abandon]⟩
  case member rest key => exact ⟨rest.reverse ++ [(key, inner)], false, by simp [Reader.abandon]⟩
  case inner f _ hi => cases f <;> exact hi _

theorem fail (h : Rooted m fs) : Holds m (fail fs) := .nothing (h.abandon _)

theorem complete (h : Rooted m fs) (d : Document) : Holds m (complete d fs) := by
  cases h
  case object => exact (object _).fail
  case member rest key => exact .inside rfl (object ((key, d) :: rest))
  case inner f h =>
    cases f
    case array => exact .inside rfl (.inner _ h)
    case object => exact (inner _ h).fail
    case member => exact .inside rfl (.inner _ h)

theorem close (h : Rooted m fs) (c : Char) : Holds m (close c fs) := by
  cases h
  case object rest =>
    simp only [Reader.close]
    split
    case isTrue => exact .blanks ⟨rest.reverse, true, by simp⟩
    case isFalse => exact (object rest).fail
  case member => exact (member _ _).fail
  case inner f h =>
    cases f
    case member => exact (inner _ h).fail
    all_goals
      simp only [Reader.close]
      split
      case isTrue => exact h.complete _
      case isFalse => exact (inner _ h).fail

theorem beginValue (h : Rooted m fs) (c : Char) : Holds m (beginValue fs c) := by
  unfold Reader.beginValue
  repeat' split
  case h_2 => exact h.fail
  all_goals exact .inside rfl (by first | exact h | exact .inner _ h)

theorem endString (h : Rooted m fs) (isKey : Bool) (done : List Piece) :
    Holds m (endString fs isKey done) := by
  cases isKey
  case true => exact .inside rfl h
  case false => exact h.complete _

theorem stepString (h : Rooted m fs) (isKey : Bool) (done : List Piece) (e : Escape)
    (g : Text.Glyph) : Holds m (stepString fs isKey done e g) := by
  unfold Reader.stepString
  repeat' split
  all_goals first | exact h.fail | exact h.endString .. | exact .inside rfl h

-- An object that goes on to the value of its next key.
theorem key {done : List Member} (h : Rooted m (.object done :: fs)) (key : Option String) :
    Rooted m (.member done key :: fs) := by
  cases h
  case object rest => exact .member rest key
  case inner h => exact .inner _ h

theorem stepToken (h : Rooted m fs) (c : Char) {next : Expected} (hn : next.inside) :
    Holds m (stepToken fs c next) := by
  cases next
  case blanks => cases hn
  case nothing => cases hn
  case colon key =>
    simp only [Reader.stepToken]
    split
    case h_2 => exact h.fail
    case h_1 =>
      split
      case isTrue => exact .inside rfl h
      case isFalse =>
        split
        case isTrue => exact .inside rfl (h.key key)
        case isFalse => exact (h.key key).fail
  case word rest d =>
    cases rest
    case nil => exact h.fail
    case cons =>
      simp only [Reader.stepToken]
      repeat' split
      all_goals first | exact h.complete d | exact .inside rfl h | exact h.fail
  case numeral => exact .inside rfl h
  case string => exact .inside rfl h
  all_goals
    simp only [Reader.stepToken]
    repeat' split
    all_goals first
      | exact .inside rfl h | exact h.fail | exact h.close c | exact h.beginValue c

theorem broken (h : Rooted m fs) {next : Expected} (hn : next.inside) :
    Holds m (step.broken ⟨fs, next⟩) := by
  cases next
  case blanks => cases hn
  case colon key =>
    cases h
    case object => exact ((object _).key key).fail
    case member => exact (member _ _).fail
    case inner f h =>
      cases f
      case object => exact ((inner _ h).key key).fail
      case array => exact (inner _ h).fail
      case member => exact (inner _ h).fail
  all_goals exact h.fail

-- A numeral ends where the text stops making sense.
theorem broken_complete (h : Rooted m fs) (d : Document) :
    Holds m (step.broken (Reader.complete d fs)) := by
  cases h
  case object => exact (object _).fail
  case member rest key => exact (object ((key, d) :: rest)).fail
  case inner f h => cases f <;> exact (inner _ h).fail

end Rooted

namespace Holds

variable {s : State}

theorem stepToken (h : Holds m s) (c : Char) : Holds m (stepToken s.frames c s.next) := by
  cases h
  case inside hn h => exact h.stepToken c hn
  case blanks h =>
    simp only [Reader.stepToken]
    split
    case isTrue => exact .blanks h
    case isFalse => exact .nothing h
  case nothing h => exact .nothing h

theorem step (h : Holds m s) (g : Text.Glyph) : Holds m (step s g) := by
  cases h
  case blanks h =>
    cases g
    case none => exact .nothing h
    case some c => exact (blanks h).stepToken c
  case nothing h => exact .nothing h
  case inside fs next hn h =>
    cases next
    case blanks => cases hn
    case nothing => cases hn
    case string isKey done e => exact h.stepString isKey done e g
    case numeral n =>
      cases g
      case none =>
        simp only [Reader.step]
        split
        case h_1 => exact h.broken_complete _
        case h_2 => exact h.fail
      case some c =>
        simp only [Reader.step]
        split
        case h_1 => exact .inside rfl h
        case h_2 => exact h.fail
        case h_3 => exact (h.complete _).stepToken c
    all_goals
      cases g
      case none => exact h.broken hn
      case some c => exact h.stepToken c hn

theorem foldl (h : Holds m s) (gs : List Text.Glyph) : Holds m (gs.foldl Reader.step s) := by
  induction gs generalizing s
  case nil => exact h
  case cons g gs hi => exact hi (h.step g)

theorem finish (h : Holds m s) : Begins m (Reader.finish s).1 := by
  have h := h.step (some ' ')
  unfold Reader.finish
  generalize Reader.step s (some ' ') = t at h
  cases h
  case blanks h => exact h
  case nothing h => exact h
  case inside fs next hn h =>
    cases next
    case blanks => cases hn
    case nothing => cases hn
    case colon key =>
      cases h
      case object => exact ((Rooted.object _).key key).abandon _
      case member => exact (Rooted.member _ _).abandon _
      case inner f h =>
        cases f
        case object => exact ((Rooted.inner _ h).key key).abandon _
        case array => exact (Rooted.inner _ h).abandon _
        case member => exact (Rooted.inner _ h).abandon _
    all_goals exact h.abandon _

end Holds

-- An object from its opening brace to the comma behind the first member.
theorem run_first {σ : Spacing} {j : Json} (h : ReadsValue σ j) (level : Nat) (k : String) :
    run start ('\x7b' :: (σ.gap (level + 1) ++ (quoted k ++ ':' :: (σ.colon ++
      (j.spelled σ (level + 1) ++ [',']))))) = ⟨[.object [(some k, .ofValue j)]], .key⟩ := by
  have hb : step start (some '\x7b') = ⟨[.object []], .keyOrClose⟩ := rfl
  have hq : step ⟨[.object []], .keyOrClose⟩ (some '"') =
    ⟨[.object []], .string true [] .none⟩ := rfl
  have hv := h (level + 1) [.member [] (some k)] _ .value
  rw [run_cons, hb, run_append, (waits_keyOrClose _).run (σ.isSpace_gap _), quoted_append,
    run_cons, hq, run_key, run_append, run_cons, hv _ isDelimiter_comma]
  rfl

end Reader

-- The tree of a written object begins with the first member, whatever the other ones look like.
theorem Reader.begins_indented {ms : Members} {j : Json} (k : String)
    (hn : ∀ n, j.Mentions n → n.ReadsBack) (hm : ms ≠ []) (level : Nat) :
    Begins (some k, .ofValue j)
      (Document.read (((object ((k, j) :: ms)).indented level).map some)).1 := by
  obtain ⟨⟨k', j'⟩, ms, rfl⟩ := List.exists_cons_of_ne_nil hm
  have hf := run_first (readsValue (σ := .wide) hn) level k
  rw [indented_eq_spelled, spelled, spelledMembers]
  generalize Spacing.wide.gap (level + 1) ++ (quoted k' ++ ':' :: (Spacing.wide.colon ++
    (j'.spelled .wide (level + 1) ++ spelledMembers .wide level ms))) = rest
  have ha : '\x7b' :: (Spacing.wide.gap (level + 1) ++ (quoted k ++ ':' :: (Spacing.wide.colon ++
      (j.spelled .wide (level + 1) ++ ',' :: rest)))) =
      '\x7b' :: (Spacing.wide.gap (level + 1) ++ (quoted k ++ ':' :: (Spacing.wide.colon ++
        (j.spelled .wide (level + 1) ++ [','])))) ++ rest := by simp
  have hh : Holds (some k, .ofValue j) ⟨[.object [(some k, .ofValue j)]], .key⟩ :=
    .inside rfl (.object [])
  rw [ha, List.map_append, Document.read, List.foldl_append]
  exact (hf ▸ hh).foldl (rest.map some) |>.finish

end AnomalyDetection.Json

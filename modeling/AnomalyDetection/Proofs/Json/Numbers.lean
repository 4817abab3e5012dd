import AnomalyDetection.Json.Reader
import AnomalyDetection.Proofs.Decimal.Finite
import AnomalyDetection.Proofs.Json.Canonical

namespace AnomalyDetection.Json

variable {P : Number → Prop}

-- A tree all of whose numbers have a property.
inductive Document.Sound (P : Number → Prop) : Document → Prop
  | broken : Sound P broken
  | null : Sound P null
  | bool (b : Bool) : Sound P (bool b)
  | number {n : Option Number} : (∀ m, n = some m → P m) → Sound P (number n)
  | string (s : Option String) : Sound P (string s)
  | array {items : List Document} {closed : Bool} :
    (∀ d ∈ items, Sound P d) → Sound P (array items closed)
  | object {ms : List (Option String × Document)} {closed : Bool} :
    (∀ m ∈ ms, Sound P m.2) → Sound P (object ms closed)

namespace Document

theorem exists_of_items? {room : Nat} {ds : List Document} {js : List Json} {j : Json}
    (h : items? room ds = some js) (hj : j ∈ js) : ∃ d ∈ ds, d.value? room = some j := by
  induction ds generalizing js
  case nil => cases h; cases hj
  case cons d ds hi =>
    have ⟨j', hd, h⟩ := Option.bind_eq_some_iff.mp h
    have ⟨js', hs, h⟩ := Option.bind_eq_some_iff.mp h
    cases h
    rcases List.mem_cons.mp hj with rfl | hj
    · exact ⟨d, List.mem_cons_self, hd⟩
    · have ⟨d', hm, hv⟩ := hi hs hj
      exact ⟨d', List.mem_cons_of_mem d hm, hv⟩

theorem exists_of_members? {room : Nat} {ds : List (Option String × Document)} {js : Members}
    {m : String × Json} (h : members? room ds = some js) (hm : m ∈ js) :
    ∃ d ∈ ds, d.2.value? room = some m.2 := by
  induction ds generalizing js
  case nil => cases h; cases hm
  case cons d ds hi =>
    have ⟨k, _, h⟩ := Option.bind_eq_some_iff.mp h
    have ⟨j, hd, h⟩ := Option.bind_eq_some_iff.mp h
    have ⟨js', hs, h⟩ := Option.bind_eq_some_iff.mp h
    cases h
    rcases List.mem_cons.mp hm with rfl | hm
    · exact ⟨d, List.mem_cons_self, hd⟩
    · have ⟨d', hm, hv⟩ := hi hs hm
      exact ⟨d', List.mem_cons_of_mem d hm, hv⟩

-- The value of a tree mentions no other numbers.
theorem Sound.value? {d : Document} (hd : d.Sound P) {room : Nat} {j : Json}
    (h : d.value? room = some j) {n : Number} (hn : j.Mentions n) : P n := by
  induction hd generalizing room j
  case broken => cases h
  case null => cases h; cases hn
  case bool => cases h; cases hn
  case number hp =>
    obtain ⟨m, hm, he⟩ := Option.map_eq_some_iff.mp h
    cases he
    cases hn
    exact hp _ hm
  case string =>
    obtain ⟨s, _, he⟩ := Option.map_eq_some_iff.mp h
    cases he
    cases hn
  case array items closed _ hi =>
    cases room <;> cases closed <;> simp only [Document.value?] at h <;> try cases h
    obtain ⟨js, hs, he⟩ := Option.map_eq_some_iff.mp h
    cases he
    cases hn
    case item hn hj =>
      obtain ⟨d, hm, hv⟩ := exists_of_items? hs hj
      exact hi d hm hv hn
  case object ms closed _ hi =>
    cases room <;> cases closed <;> simp only [Document.value?] at h <;> try cases h
    obtain ⟨js, hs, he⟩ := Option.map_eq_some_iff.mp h
    rw [← he, ofMembers_eq] at hn
    cases hn
    case member m hn hm =>
      obtain ⟨d, hd, hv⟩ := exists_of_members? hs (Members.mem_of_mem_arranged hm)
      exact hi d hd hv hn

end Document

namespace Reader

-- The same of what is open, and of what comes next.
def Frame.Sound (P : Number → Prop) : Frame → Prop
  | array done => ∀ d ∈ done, d.Sound P
  | object done => ∀ m ∈ done, m.2.Sound P
  | member done _ => ∀ m ∈ done, m.2.Sound P

def Expected.Sound (P : Number → Prop) : Expected → Prop
  | word _ d => d.Sound P
  | blanks d => d.Sound P
  | nothing d => d.Sound P
  | _ => True

structure State.Sound (P : Number → Prop) (s : State) : Prop where
  frames : ∀ f ∈ s.frames, f.Sound P
  next : s.next.Sound P

section

variable {fs : List Frame} (h : ∀ f ∈ fs, f.Sound P)

include h

theorem sound_abandon {inner : Document} (hd : inner.Sound P) : (abandon inner fs).Sound P := by
  induction fs generalizing inner
  case nil => exact hd
  case cons f fs hi =>
    have ⟨hf, hs⟩ := List.forall_mem_cons.mp h
    cases f
    case array done =>
      refine hi hs (.array fun d hm => ?_)
      rcases List.mem_cons.mp (List.mem_reverse.mp hm) with rfl | hm
      · exact hd
      · exact hf d hm
    case object done => exact hi hs (.object fun m hm => hf m (List.mem_reverse.mp hm))
    case member done key =>
      refine hi hs (.object fun m hm => ?_)
      rcases List.mem_cons.mp (List.mem_reverse.mp hm) with rfl | hm
      · exact hd
      · exact hf m hm

theorem sound_fail : (fail fs).Sound P := ⟨h, sound_abandon h .broken⟩

theorem sound_complete {d : Document} (hd : d.Sound P) : (complete d fs).Sound P := by
  cases fs
  case nil => exact ⟨h, hd⟩
  case cons f fs =>
    have ⟨hf, hs⟩ := List.forall_mem_cons.mp h
    cases f
    case array => exact ⟨List.forall_mem_cons.mpr ⟨List.forall_mem_cons.mpr ⟨hd, hf⟩, hs⟩, trivial⟩
    case object => exact sound_fail h
    case member => exact ⟨List.forall_mem_cons.mpr ⟨List.forall_mem_cons.mpr ⟨hd, hf⟩, hs⟩, trivial⟩

theorem sound_close (c : Char) : (close c fs).Sound P := by
  cases fs
  case nil => exact sound_fail h
  case cons f fs =>
    have ⟨hf, hs⟩ := List.forall_mem_cons.mp h
    cases f
    case member => exact sound_fail h
    case array =>
      simp only [close]
      split
      case isTrue => exact sound_complete hs (.array fun d hm => hf d (List.mem_reverse.mp hm))
      case isFalse => exact sound_fail h
    case object =>
      simp only [close]
      split
      case isTrue => exact sound_complete hs (.object fun m hm => hf m (List.mem_reverse.mp hm))
      case isFalse => exact sound_fail h

theorem sound_cons {f : Frame} (hf : f.Sound P) : ∀ g ∈ f :: fs, g.Sound P :=
  List.forall_mem_cons.mpr ⟨hf, h⟩

theorem sound_beginValue (c : Char) : (beginValue fs c).Sound P := by
  unfold beginValue
  repeat' split
  case h_2 => exact sound_fail h
  all_goals first
    | exact ⟨h, trivial⟩
    | exact ⟨h, .null⟩
    | exact ⟨h, .bool _⟩
    | exact ⟨sound_cons h (List.forall_mem_nil _), trivial⟩

theorem sound_endString (isKey : Bool) (done : List Piece) : (endString fs isKey done).Sound P := by
  cases isKey
  case true => exact ⟨h, trivial⟩
  case false => exact sound_complete h (.string _)

theorem sound_stepString (isKey : Bool) (done : List Piece) (e : Escape) (g : Text.Glyph) :
    (stepString fs isKey done e g).Sound P := by
  unfold stepString
  repeat' split
  all_goals first | exact sound_fail h | exact sound_endString h .. | exact ⟨h, trivial⟩

theorem sound_stepToken (c : Char) {next : Expected} (hn : next.Sound P) :
    (stepToken fs c next).Sound P := by
  cases next
  case numeral => exact ⟨h, trivial⟩
  case string => exact ⟨h, trivial⟩
  case nothing => exact ⟨h, hn⟩
  case colon key =>
    simp only [stepToken]
    split
    case h_2 => exact sound_fail h
    case h_1 =>
      have ⟨hf, hs⟩ := List.forall_mem_cons.mp h
      repeat' split
      case isTrue => exact ⟨h, trivial⟩
      case isTrue => exact ⟨sound_cons hs hf, trivial⟩
      case isFalse => exact sound_fail (sound_cons hs hf)
  case word rest d =>
    cases rest
    case nil => exact sound_fail h
    case cons =>
      simp only [stepToken]
      repeat' split
      all_goals first | exact sound_complete h hn | exact ⟨h, hn⟩ | exact sound_fail h
  all_goals
    simp only [stepToken]
    repeat' split
    all_goals first
      | exact ⟨h, trivial⟩ | exact ⟨h, hn⟩ | exact sound_fail h | exact sound_close h c
      | exact sound_beginValue h c

theorem sound_broken {next : Expected} (hn : next.Sound P) : (step.broken ⟨fs, next⟩).Sound P := by
  unfold step.broken
  split
  case h_1 h' =>
    cases h'
    exact ⟨h, hn⟩
  case h_2 h' =>
    cases h'
    have ⟨hf, hs⟩ := List.forall_mem_cons.mp h
    exact sound_fail (sound_cons hs hf)
  case h_3 h' =>
    cases h'
    exact sound_fail h

end

namespace State

variable {s : State} (hv : ∀ {l : Numeral} {n : Number}, l.value? = some n → P n)

include hv

theorem Sound.step (h : s.Sound P) (g : Text.Glyph) : (step s g).Sound P := by
  obtain ⟨fs, next⟩ := s
  have ⟨hf, hn⟩ := h
  cases next
  case nothing => exact ⟨hf, hn⟩
  case string isKey done e => exact sound_stepString hf isKey done e g
  case numeral l =>
    have hd : (Document.number l.value?).Sound P := .number fun _ => hv
    have hc := sound_complete hf hd
    cases g
    case none =>
      simp only [Reader.step]
      split
      case h_1 => exact sound_broken hc.frames hc.next
      case h_2 => exact sound_fail hf
    case some c =>
      simp only [Reader.step]
      split
      case h_1 => exact ⟨hf, trivial⟩
      case h_2 => exact sound_fail hf
      case h_3 => exact sound_stepToken hc.frames c hc.next
  all_goals
    cases g
    case none => exact sound_broken hf hn
    case some c => exact sound_stepToken hf c hn

theorem Sound.foldl (h : s.Sound P) (gs : List Text.Glyph) : (gs.foldl Reader.step s).Sound P := by
  induction gs generalizing s
  case nil => exact h
  case cons g gs hi => exact hi (h.step hv g)

theorem Sound.finish (h : s.Sound P) : (finish s).1.Sound P := by
  have h := h.step hv (some ' ')
  unfold Reader.finish
  generalize Reader.step s (some ' ') = t at h
  have ⟨hf, hn⟩ := h
  split
  case h_1 => exact hn
  case h_2 => exact hn
  case h_3 =>
    have ⟨hf, hs⟩ := List.forall_mem_cons.mp hf
    exact sound_abandon (sound_cons (f := .member ..) hs hf) .broken
  case h_4 => exact sound_abandon hf .broken

end State

end Reader

-- Whatever holds of the numbers that literals stand for holds of all numbers that are read.
theorem mentions_read? (hv : ∀ {l : Numeral} {n : Number}, l.value? = some n → P n)
    {text : List Text.Glyph} {j : Json} (h : read? text = some j) {n : Number} (hn : j.Mentions n) :
    P n := by
  have hs : Reader.start.Sound P := ⟨List.forall_mem_nil _, trivial⟩
  have hd : (Document.read text).1.Sound P := (hs.foldl hv text).finish hv
  unfold read? at h
  split at h
  case h_1 hr =>
    rw [hr] at hd
    exact hd.value? h hn
  case h_2 => cases h

namespace Numeral

open Rounding (isFinite_mul isFinite_div isFinite_neg isFinite_toFloat atLeastOne_pow)

theorem isFinite_go {fuel : Nat} {x y : Float} {e : Int} (hx : x.isFinite)
    (h : scaled?.go fuel x e = some y) : y.isFinite := by
  induction fuel generalizing x e
  case zero => exact Option.some_inj.mp h ▸ hx
  case succ fuel hi =>
    have hp {k : Nat} (hk : k ≤ 308) := atLeastOne_pow hk
    unfold scaled?.go at h
    split at h
    case isTrue =>
      split at h
      case isTrue he =>
        simp only at h
        split at h
        case isTrue => cases h
        case isFalse hf =>
          cases h
          exact isFinite_mul hx (hp (by omega)).right (Bool.eq_false_iff.mpr hf)
      case isFalse =>
        split at h
        case isTrue => exact Option.some_inj.mp h ▸ hx
        case isFalse => cases h
    case isFalse =>
      split at h
      case isTrue =>
        cases h
        exact isFinite_div hx (hp (by omega))
      case isFalse =>
        split at h
        case isTrue => exact Option.some_inj.mp h ▸ hx
        case isFalse => exact hi (isFinite_div hx (hp (Nat.le_refl _))) h

theorem isFinite_signed {negative : Bool} {x : Float} (h : x.isFinite) :
    (signed negative x).toFloat.isFinite := by
  cases negative
  case false => exact h
  case true => exact isFinite_neg.mpr h

theorem isFinite_ofInteger (negative : Bool) (n : UInt64) :
    (ofInteger negative n).toFloat.isFinite := by
  unfold ofInteger
  split
  case isFalse => exact isFinite_toFloat n
  case isTrue =>
    split
    case isTrue => exact isFinite_neg.mpr (isFinite_toFloat _)
    case isFalse => exact isFinite_signed (isFinite_toFloat n)

-- No literal stands for a number that is not finite.
theorem isFinite_value? {l : Numeral} {n : Number} (h : l.value? = some n) :
    n.toFloat.isFinite := by
  have hs {negative : Bool} {m : UInt64} {e : Int}
      (h : (scaled? m.toFloat e).map (signed negative) = some n) : n.toFloat.isFinite := by
    have ⟨x, hx, he⟩ := Option.map_eq_some_iff.mp h
    exact he ▸ isFinite_signed (isFinite_go (isFinite_toFloat m) hx)
  simp only [value?] at h
  repeat' split at h
  case isTrue.isTrue =>
    cases h
    exact isFinite_ofInteger ..
  case isTrue.isFalse => exact hs h
  case isFalse.isTrue.isTrue => cases h
  case isFalse.isTrue.isFalse =>
    cases h
    exact isFinite_signed (by decide +kernel)
  all_goals exact hs h

end Numeral

theorem isFinite_of_read? {text : List Text.Glyph} {j : Json} (h : read? text = some j)
    {n : Number} (hn : j.Mentions n) : n.toFloat.isFinite :=
  mentions_read? Numeral.isFinite_value? h hn

end AnomalyDetection.Json

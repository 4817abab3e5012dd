import AnomalyDetection.Proofs.Decimal.Finite
import AnomalyDetection.Proofs.Decimal.Integer

namespace AnomalyDetection.Decimal

open Rounding (InRange)

variable {s rest : List Char} {ds : List Nat} {n m : Nat} {e : Int} {x : Float}

-- One digit or more.
structure IsNumeral (ds : List Nat) : Prop where
  digits : AllDigits ds
  nonempty : ds ≠ []

-- An exponent stands behind a mark, perhaps with a sign of its own.
inductive SpellsExponent : List Char → Int → Prop
  | absent : SpellsExponent [] 0
  | bare {mark : Char} {ds : List Nat} : mark = 'e' ∨ mark = 'E' → IsNumeral ds →
    SpellsExponent (mark :: spelled ds) (ofDigits ds)
  | plus {mark : Char} {ds : List Nat} : mark = 'e' ∨ mark = 'E' → IsNumeral ds →
    SpellsExponent (mark :: '+' :: spelled ds) (ofDigits ds)
  | minus {mark : Char} {ds : List Nat} : mark = 'e' ∨ mark = 'E' → IsNumeral ds →
    SpellsExponent (mark :: '-' :: spelled ds) (-ofDigits ds)

-- The text of `m · 10 ^ e`. There may be digits on one side of the point only.
inductive SpellsNumber : List Char → Nat → Int → Prop
  | whole {ds : List Nat} {s : List Char} {e : Int} : IsNumeral ds → SpellsExponent s e →
    SpellsNumber (spelled ds ++ s) (ofDigits ds) e
  | point {ds fs : List Nat} {s : List Char} {e : Int} : IsNumeral (ds ++ fs) →
    SpellsExponent s e →
    SpellsNumber (spelled ds ++ '.' :: (spelled fs ++ s)) (ofDigits (ds ++ fs)) (e - fs.length)

-- What a text may stand for.
inductive Magnitude
  | number (m : Nat) (e : Int)
  | infinity
  | nan

-- Capital and small letters are all the same in a word.
inductive SpellsMagnitude : List Char → Magnitude → Prop
  | number {s : List Char} {m : Nat} {e : Int} : SpellsNumber s m e →
    SpellsMagnitude s (.number m e)
  | infinity {s : List Char} :
    s.map Char.toLower = "inf".toList ∨ s.map Char.toLower = "infinity".toList →
    SpellsMagnitude s .infinity
  | nan {s : List Char} : s.map Char.toLower = "nan".toList → SpellsMagnitude s .nan

inductive SpellsDouble : List Char → Bool → Magnitude → Prop
  | bare {s : List Char} {a : Magnitude} : SpellsMagnitude s a → SpellsDouble s false a
  | plus {s : List Char} {a : Magnitude} : SpellsMagnitude s a → SpellsDouble ('+' :: s) false a
  | minus {s : List Char} {a : Magnitude} : SpellsMagnitude s a → SpellsDouble ('-' :: s) true a

namespace Magnitude

def toFloat : Magnitude → Float
  | number m e => nearest m e
  | infinity => 1 / 0
  | nan => 0 / 0

def signed (a : Magnitude) (negative : Bool) : Float :=
  if negative then -a.toFloat else a.toFloat

-- Which of them there is a finite double for.
def Bounded : Magnitude → Prop
  | number m e => InRange m e
  | infinity => False
  | nan => False

-- And which ones count as infinite.
def Unbounded : Magnitude → Prop
  | number m e => ¬InRange m e
  | infinity => True
  | nan => False

theorem isFinite_signed (a : Magnitude) (negative : Bool) :
    (a.signed negative).isFinite ↔ a.Bounded := by
  have hn : (a.signed negative).isFinite ↔ a.toFloat.isFinite := by
    cases negative
    case false => exact Iff.rfl
    case true => exact Rounding.isFinite_neg
  refine hn.trans ?_
  cases a
  case number m e => exact Rounding.isFinite_nearest m e
  case infinity => exact iff_of_false (by decide +kernel) id
  case nan => exact iff_of_false (by decide +kernel) id

theorem signed_of_unbounded {a : Magnitude} (h : a.Unbounded) (negative : Bool) :
    a.signed negative = infinity.signed negative := by
  have hf : a.toFloat = infinity.toFloat := by
    cases a
    case number => exact Rounding.nearest_of_not_inRange h
    case infinity => rfl
    case nan => exact h.elim
  unfold signed
  rw [hf]

-- A word or a number counts as an infinity just if it is unbounded and has the same sign.
theorem signed_eq_infinity {a : Magnitude} {negative minus : Bool} :
    a.signed negative = infinity.signed minus ↔ negative = minus ∧ a.Unbounded := by
  have hi : ∀ b c, infinity.signed b = infinity.signed c → b = c := by decide +kernel
  have hn : ∀ b c, nan.signed b ≠ infinity.signed c := by decide +kernel
  constructor
  case mp =>
    intro h
    have hu : a.Unbounded := by
      have hf : ¬a.Bounded := by
        rw [← isFinite_signed a negative, h]
        exact (isFinite_signed infinity minus).mp
      cases a
      case number => exact hf
      case infinity => trivial
      case nan => exact (hn negative minus h).elim
    rw [signed_of_unbounded hu] at h
    exact ⟨hi negative minus h, hu⟩
  case mpr =>
    rintro ⟨rfl, hu⟩
    exact signed_of_unbounded hu negative

end Magnitude

-- The digits at the front are the longest run of them.
theorem spanDigits_eq_iff : spanDigits s = (ds, rest) ↔
    s = spelled ds ++ rest ∧ AllDigits ds ∧ NoDigitFirst rest := by
  constructor
  case mp =>
    intro h
    induction s generalizing ds
    case nil =>
      cases h
      exact ⟨rfl, nofun, nofun⟩
    case cons c s hi =>
      simp only [spanDigits] at h
      split at h
      case h_2 hc =>
        cases h
        refine ⟨rfl, nofun, ?_⟩
        rintro _ _ ⟨⟩
        exact hc
      case h_1 d hc =>
        obtain ⟨he, hd⟩ := eq_digitChar hc
        obtain ⟨ds', rest', hs⟩ : ∃ ds' rest', spanDigits s = (ds', rest') := ⟨_, _, rfl⟩
        rw [hs] at h
        cases h
        obtain ⟨hs, ha, hr⟩ := hi hs
        exact ⟨congrArg₂ List.cons he hs, List.forall_mem_cons.mpr ⟨hd, ha⟩, hr⟩
  case mpr =>
    rintro ⟨rfl, ha, hr⟩
    exact spanDigits_spelled_append ha hr

theorem natural?_eq_some : natural? s = some n ↔
    ∃ ds, s = spelled ds ∧ IsNumeral ds ∧ n = ofDigits ds := by
  unfold natural?
  constructor
  case mp =>
    intro h
    split at h
    case h_2 => cases h
    case h_1 d ds hs =>
      have ⟨hs, ha, _⟩ := spanDigits_eq_iff.mp hs
      exact ⟨d :: ds, hs.trans (List.append_nil _), ⟨ha, nofun⟩, (Option.some_inj.mp h).symm⟩
  case mpr =>
    rintro ⟨ds, rfl, ⟨ha, hn⟩, rfl⟩
    have hs : spanDigits (spelled ds) = (ds, []) :=
      spanDigits_eq_iff.mpr ⟨(List.append_nil _).symm, ha, nofun⟩
    obtain ⟨d, ds, rfl⟩ := List.exists_cons_of_ne_nil hn
    rw [hs]

theorem IsNumeral.natural?_spelled (h : IsNumeral ds) :
    natural? (spelled ds) = some (ofDigits ds) :=
  natural?_eq_some.mpr ⟨ds, rfl, h, rfl⟩

-- A digit is no sign.
theorem IsNumeral.ne_sign (h : IsNumeral ds) {c : Char} (he : spelled ds = c :: rest) :
    c ≠ '-' ∧ c ≠ '+' := by
  obtain ⟨d, ds, rfl⟩ := List.exists_cons_of_ne_nil h.nonempty
  cases he
  exact digitChar_ne_sign d (h.digits d List.mem_cons_self)

theorem spellsExponent_of_eq_some (h : exponent? s = some e) : SpellsExponent s e := by
  unfold exponent? at h
  split at h
  case h_1 =>
    cases h
    exact .absent
  case h_2 c s =>
    split at h
    case isFalse => cases h
    case isTrue hc =>
      split at h
      case h_1 =>
        have ⟨n, hn, he⟩ := Option.map_eq_some_iff.mp h
        obtain ⟨ds, rfl, hd, rfl⟩ := natural?_eq_some.mp hn
        exact he ▸ .plus hc hd
      case h_2 =>
        have ⟨_, h, he⟩ := Option.map_eq_some_iff.mp h
        have ⟨n, hn, h⟩ := Option.bind_eq_some_iff.mp h
        obtain ⟨ds, rfl, hd, rfl⟩ := natural?_eq_some.mp hn
        cases h
        exact he ▸ .minus hc hd
      case h_3 =>
        have ⟨n, hn, he⟩ := Option.map_eq_some_iff.mp h
        obtain ⟨ds, rfl, hd, rfl⟩ := natural?_eq_some.mp hn
        exact he ▸ .bare hc hd

theorem SpellsExponent.eq_some (h : SpellsExponent s e) : exponent? s = some e := by
  cases h
  case absent => rfl
  case plus hc hd =>
    simp only [exponent?, if_pos hc, hd.natural?_spelled]
    rfl
  case minus hc hd =>
    simp only [exponent?, if_pos hc, hd.natural?_spelled]
    rfl
  case bare hc hd =>
    simp only [exponent?, if_pos hc]
    split
    case h_1 h => exact absurd rfl (hd.ne_sign h).right
    case h_2 h => exact absurd rfl (hd.ne_sign h).left
    case h_3 => rw [hd.natural?_spelled]; rfl

theorem SpellsExponent.mark {c : Char} (h : SpellsExponent (c :: rest) e) : c = 'e' ∨ c = 'E' := by
  cases h <;> assumption

theorem SpellsExponent.noDigitFirst (h : SpellsExponent s e) : NoDigitFirst s := by
  rintro c rest rfl
  rcases h.mark with rfl | rfl <;> rfl

theorem SpellsExponent.not_point (h : SpellsExponent ('.' :: rest) e) : False := by
  rcases h.mark with h | h <;> cases h

theorem spellsNumber_of_eq_some (h : magnitude? s = some x) :
    ∃ m e, SpellsNumber s m e ∧ x = nearest m e := by
  obtain ⟨ds, rest, hs⟩ : ∃ ds rest, spanDigits s = (ds, rest) := ⟨_, _, rfl⟩
  obtain ⟨rfl, hd, _⟩ := spanDigits_eq_iff.mp hs
  simp only [magnitude?, hs] at h
  split at h
  case h_1 rest _ =>
    obtain ⟨fs, t, hf⟩ : ∃ fs t, spanDigits rest = (fs, t) := ⟨_, _, rfl⟩
    obtain ⟨rfl, ha, _⟩ := spanDigits_eq_iff.mp hf
    simp only [hf] at h
    split at h
    case isTrue => cases h
    case isFalse hn =>
      have ⟨e, he, h⟩ := Option.bind_eq_some_iff.mp h
      have hn : IsNumeral (ds ++ fs) :=
        ⟨List.forall_mem_append.mpr ⟨hd, ha⟩, mt List.append_eq_nil_iff.mp hn⟩
      exact ⟨_, _, .point hn (spellsExponent_of_eq_some he), (Option.some_inj.mp h).symm⟩
  case h_2 =>
    simp only [and_true] at h
    split at h
    case isTrue => cases h
    case isFalse hn =>
      have ⟨e, he, h⟩ := Option.bind_eq_some_iff.mp h
      rw [List.append_nil, List.length_nil, Int.natCast_zero, Int.sub_zero] at h
      exact ⟨_, _, .whole ⟨hd, hn⟩ (spellsExponent_of_eq_some he), (Option.some_inj.mp h).symm⟩

theorem SpellsNumber.eq_some (h : SpellsNumber s m e) : magnitude? s = some (nearest m e) := by
  cases h
  case whole ds s hd he =>
    have hs := spanDigits_spelled_append hd.digits he.noDigitFirst
    simp only [magnitude?, hs]
    split
    case h_1 => exact he.not_point.elim
    case h_2 => simp [hd.nonempty, he.eq_some]
  case point ds fs s e hd he =>
    have ⟨ha, hf⟩ := List.forall_mem_append.mp hd.digits
    have hs := spanDigits_spelled_append ha (noDigitFirst_cons (c := '.') rfl (spelled fs ++ s))
    have hf := spanDigits_spelled_append hf he.noDigitFirst
    have hn : ¬(ds = [] ∧ fs = []) := mt List.append_eq_nil_iff.mpr hd.nonempty
    simp only [magnitude?, hs, hf, if_neg hn, he.eq_some]
    rfl

theorem magnitude?_eq_none {c : Char} (hd : digit? c = none) (hp : c ≠ '.') (s : List Char) :
    magnitude? (c :: s) = none := by
  have hs : spanDigits (c :: s) = ([], c :: s) :=
    spanDigits_eq_iff.mpr ⟨rfl, nofun, noDigitFirst_cons hd s⟩
  simp only [magnitude?, hs]
  split
  case h_1 h => exact absurd (List.cons.inj h).left hp
  case h_2 => rfl

theorem toLower_digitChar : ∀ d < 10, (Nat.digitChar d).toLower = Nat.digitChar d := by
  decide

-- A word does not start like a number.
theorem magnitude?_of_word {c : Char} {w : List Char} (h : s.map Char.toLower = c :: w)
    (hd : digit? c = none) (hp : c ≠ '.') : magnitude? s = none := by
  obtain ⟨b, t, rfl, rfl, _⟩ := List.map_eq_cons_iff.mp h
  refine magnitude?_eq_none ?digit ?point t
  case digit =>
    cases hb : digit? b
    case none => rfl
    case some d =>
      obtain ⟨rfl, hl⟩ := eq_digitChar hb
      rw [toLower_digitChar d hl] at hd
      exact absurd (hb.symm.trans hd) nofun
  case point =>
    rintro rfl
    exact hp rfl

theorem unsignedFloat?_eq_some : unsignedFloat? s = some x ↔
    ∃ a, SpellsMagnitude s a ∧ x = a.toFloat := by
  rw [unsignedFloat?, Option.or_eq_some_iff]
  constructor
  case mp =>
    rintro (h | ⟨_, h⟩)
    · have ⟨m, e, hs, hx⟩ := spellsNumber_of_eq_some h
      exact ⟨_, .number hs, hx⟩
    · simp only [word?] at h
      split at h
      case isTrue hw => exact ⟨_, .infinity hw, (Option.some_inj.mp h).symm⟩
      case isFalse =>
        split at h
        case isTrue hw => exact ⟨_, .nan hw, (Option.some_inj.mp h).symm⟩
        case isFalse => cases h
  case mpr =>
    rintro ⟨a, h, rfl⟩
    cases h
    case number hs => exact .inl hs.eq_some
    case infinity hw =>
      have hn : magnitude? s = none :=
        hw.elim (magnitude?_of_word · rfl (by decide)) (magnitude?_of_word · rfl (by decide))
      exact .inr ⟨hn, if_pos hw⟩
    case nan hw =>
      refine .inr ⟨magnitude?_of_word hw rfl (by decide), ?_⟩
      rw [word?, hw]
      rfl

theorem unsignedFloat?_plus (s : List Char) : unsignedFloat? ('+' :: s) = none := by
  rw [unsignedFloat?, magnitude?_eq_none rfl (by decide)]
  rfl

theorem unsignedFloat?_minus (s : List Char) : unsignedFloat? ('-' :: s) = none := by
  rw [unsignedFloat?, magnitude?_eq_none rfl (by decide)]
  rfl

-- A text is read as a double just if it spells something, and the double is what it spells.
theorem float?_eq_some : float? s = some x ↔
    ∃ negative a, SpellsDouble s negative a ∧ x = a.signed negative := by
  constructor
  case mp =>
    intro h
    unfold float? at h
    split at h
    case h_1 =>
      have ⟨a, hs, hx⟩ := unsignedFloat?_eq_some.mp h
      exact ⟨false, a, .plus hs, hx⟩
    case h_2 =>
      have ⟨y, hy, hx⟩ := Option.map_eq_some_iff.mp h
      obtain ⟨a, hs, rfl⟩ := unsignedFloat?_eq_some.mp hy
      exact ⟨true, a, .minus hs, hx.symm⟩
    case h_3 =>
      have ⟨a, hs, hx⟩ := unsignedFloat?_eq_some.mp h
      exact ⟨false, a, .bare hs, hx⟩
  case mpr =>
    rintro ⟨negative, a, h, rfl⟩
    cases h
    case plus hs => exact unsignedFloat?_eq_some.mpr ⟨a, hs, rfl⟩
    case minus hs =>
      rw [float?, unsignedFloat?_eq_some.mpr ⟨a, hs, rfl⟩]
      rfl
    case bare hs =>
      have hu := unsignedFloat?_eq_some.mpr ⟨a, hs, rfl⟩
      unfold float?
      split
      case h_1 s => rw [unsignedFloat?_plus] at hu; cases hu
      case h_2 s => rw [unsignedFloat?_minus] at hu; cases hu
      case h_3 => exact hu

end AnomalyDetection.Decimal

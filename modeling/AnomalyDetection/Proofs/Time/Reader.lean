import AnomalyDetection.Proofs.Decimal.Integer
import AnomalyDetection.Proofs.Time.Instant

namespace AnomalyDetection.Instant

-- A leap second is the last second of a minute.
def Aligned (t : Instant) : Prop := t.inLeapSecond → t.second % 60 = 59

namespace Scan

def Yields (scan : Scan α) (P : α → Prop) : Prop :=
  ∀ s a rest, scan.run s = .ok (a, rest) → P a

variable {scan : Scan α} {P : α → Prop}

theorem yields_any (scan : Scan α) : Yields scan fun _ => True := fun _ _ _ _ => trivial

theorem yields_pure {a : α} (h : P a) : Yields (pure a) P := by
  rintro s b rest ⟨⟩
  exact h

theorem yields_throw (e : Fault) : Yields (throw e) P := by
  rintro s a rest ⟨⟩

theorem Yields.bind {Q : β → Prop} {next : α → Scan β} (h : Yields scan P)
    (h' : ∀ a, P a → Yields (next a) Q) : Yields (scan >>= next) Q := by
  intro s b rest hb
  rw [StateT.run_bind] at hb
  have ⟨⟨a, mid⟩, ha, hb⟩ := Outcome.bind_eq_ok hb
  exact h' a (h s a mid ha) mid b rest hb

-- A step that says nothing about the result.
theorem Yields.skip {Q : β → Prop} {next : α → Scan β} (h : ∀ a, Yields (next a) Q) :
    Yields (scan >>= next) Q :=
  (yields_any scan).bind fun a _ => h a

theorem yields_offset (between : Scan Unit) : Yields (offset between) fun n => n % 60 = 0 := by
  unfold offset
  refine .skip fun s => ?_
  dsimp only
  split
  case h_1 => exact yields_throw _
  case h_2 c rest =>
    split
    case isTrue => exact .skip fun _ => yields_pure (by decide)
    case isFalse =>
      have hz (sign : Int) : Yields (do
          set rest
          let hours ← twoDigits 10
          between
          let minutes ← twoDigits 6
          return sign * (hours * 3600 + minutes * 60)) fun n => n % 60 = 0 := by
        refine .skip fun _ => .skip fun hours => .skip fun _ => .skip fun minutes => ?_
        refine yields_pure (Int.emod_eq_zero_of_dvd (Int.dvd_mul_of_dvd_right ?_))
        omega
      split
      case isTrue => exact .skip hz
      case isFalse => split <;> exact .skip hz

theorem spanDigits_lt (s : List Char) : ∀ d ∈ (Decimal.spanDigits s).1, d < 10 := by
  induction s
  case nil => exact List.forall_mem_nil _
  case cons c s hi =>
    unfold Decimal.spanDigits
    split
    case h_1 d hd => exact List.forall_mem_cons.mpr ⟨(Decimal.eq_digitChar hd).right, hi⟩
    case h_2 => exact List.forall_mem_nil _

theorem ofDigits_lt {ds : List Nat} (h : ∀ d ∈ ds, d < 10) :
    Decimal.ofDigits ds < Nat.pow 10 ds.length := by
  suffices hf : ∀ a, ds.foldl (fun n d => 10 * n + d) a < (a + 1) * Nat.pow 10 ds.length by
    simpa [Decimal.ofDigits] using hf 0
  induction ds
  case nil => exact fun a => by simp
  case cons d ds hi =>
    intro a
    obtain ⟨hd, hs⟩ := List.forall_mem_cons.mp h
    calc (d :: ds).foldl (fun n d => 10 * n + d) a
      _ < (10 * a + d + 1) * Nat.pow 10 ds.length := hi hs (10 * a + d)
      _ ≤ ((a + 1) * 10) * Nat.pow 10 ds.length := Nat.mul_le_mul_right _ (by omega)
      _ = (a + 1) * (Nat.pow 10 ds.length * 10) := by rw [Nat.mul_assoc, Nat.mul_comm 10]

theorem yields_fraction : Yields fraction (· < giga) := by
  unfold fraction
  refine .skip fun s => ?_
  dsimp only
  split
  case h_2 => exact yields_pure (by decide)
  case h_1 rest =>
    have hn : Decimal.ofDigits ((Decimal.spanDigits rest).1.take 9) *
        Nat.pow 10 (9 - ((Decimal.spanDigits rest).1.take 9).length) < giga := by
      have hd : ∀ d ∈ (Decimal.spanDigits rest).1.take 9, d < 10 :=
        fun d hd => spanDigits_lt rest d (List.mem_of_mem_take hd)
      have hl : ((Decimal.spanDigits rest).1.take 9).length ≤ 9 := List.length_take_le ..
      generalize (Decimal.spanDigits rest).1.take 9 = ds at *
      have hs : Nat.pow 10 ds.length * Nat.pow 10 (9 - ds.length) =
          Nat.pow 10 (ds.length + (9 - ds.length)) := (Nat.pow_add 10 ..).symm
      calc Decimal.ofDigits ds * Nat.pow 10 (9 - ds.length)
        _ < Nat.pow 10 ds.length * Nat.pow 10 (9 - ds.length) :=
          Nat.mul_lt_mul_of_pos_right (ofDigits_lt hd) (Nat.pow_pos (by decide))
        _ = giga := by rw [hs, Nat.add_sub_cancel' hl]; rfl
    split
    case isTrue => exact .skip fun _ => .skip fun _ => yields_pure hn
    case isFalse => exact .skip fun _ => yields_pure hn

-- Fields whose instant is aligned, if they have one.
def Fields.Sound (f : Fields) : Prop := f.nanosecond < giga ∧ f.offset % 60 = 0

theorem yields_loose : Yields loose Fields.Sound := by
  unfold loose
  refine .skip fun year => .skip fun _ => .skip fun month => .skip fun _ => .skip fun day => ?_
  refine .skip fun _ => .skip fun hour => .skip fun _ => .skip fun minute => .skip fun _ => ?_
  refine .skip fun second => yields_fraction.bind fun nanosecond hn => ?_
  refine Yields.bind (P := fun n => n % 60 = 0) ?_ fun offset ho => yields_pure ⟨hn, ho⟩
  unfold looseOffset
  refine .skip fun _ => .skip fun s => ?_
  split
  case isTrue => exact .skip fun _ => yields_pure (by decide)
  case isFalse => exact yields_offset _

end Scan

theorem aligned_of_fields {f : Scan.Fields} {t : Instant} (hf : f.Sound)
    (h : f.instant = .ok t) : t.Aligned := by
  intro hl
  have ⟨hn, ho⟩ := hf
  have ⟨_, ht, hs⟩ := fields_instant h
  have hl : giga ≤ t.nanosecond := of_decide_eq_true hl
  by_cases h₆ : f.second = 60
  case pos =>
    simp only [h₆, if_true, ofParts, Int.zero_ediv, Int.add_zero] at hs
    omega
  case neg =>
    simp only [h₆, if_false] at ht
    omega

theorem inRange_of_ofLooseText {s : List Char} {t : Instant} (h : ofLooseText s = .ok t) :
    t.InRange ∧ t.Aligned := by
  have ⟨⟨f, rest⟩, hf, h⟩ := Outcome.bind_eq_ok h
  dsimp only at h
  split at h
  case isTrue =>
    exact ⟨inRange_of_fields h, aligned_of_fields (Scan.yields_loose _ _ _ hf) h⟩
  case isFalse => cases h

end AnomalyDetection.Instant

import AnomalyDetection.Proofs.Engine.Execution
import AnomalyDetection.Proofs.Execution.Input
import AnomalyDetection.Proofs.Json.Canonical
import AnomalyDetection.Proofs.Json.Reading
import AnomalyDetection.Proofs.Text.Utf8
import AnomalyDetection.Proofs.Time.Timestamp

namespace AnomalyDetection

open Instant (Spelling MillisInRange)

-- Leap seconds are left behind, or they are those of the instant itself.
theorem Instant.aligned_add {t : Instant} (h : t.Aligned) (s : Span) : (t + s).Aligned := by
  change (t.add s).Aligned
  unfold Instant.add
  dsimp only
  split
  case isFalse => exact aligned_of_noLeap (inLeapSecond_ofParts ..)
  case isTrue hl =>
    split
    case isTrue => exact aligned_of_noLeap (inLeapSecond_ofParts ..)
    case isFalse =>
      split
      case isTrue => exact aligned_of_noLeap (inLeapSecond_ofParts ..)
      case isFalse => exact fun _ => h hl

theorem Buckets.aligned_bounds {b : Buckets} (h : b.start.Aligned) (i : Nat) :
    (b.bounds i).1.Aligned ∧ (b.bounds i).2.Aligned := by
  have hs := Instant.aligned_add h (.ofMillis (min (b.interval.millis * i) Span.maxMillis))
  exact ⟨hs, Instant.aligned_add hs b.interval⟩

section

variable [Quantity α] {source : SeriesSource α} {threshold : α} {limit : Nat} {d : Detector}
  {start stop : Instant} {results : List (AnomalyResult α)} {r : AnomalyResult α}

theorem aligned_bounds_of_execute (h : execute source threshold limit d start stop = .ok results)
    (hs : start.Aligned) (hr : r ∈ results) : r.start.Aligned ∧ r.stop.Aligned := by
  have ⟨_, interval, b, series, _, hb, _, he⟩ := execute_eq_ok.mp h
  have ⟨_, _, hb⟩ := Buckets.split_eq_ok hb
  have ⟨i, hi⟩ := List.getElem?_of_mem hr
  have ⟨_, hr, _⟩ := Score.getElem?_buckets (he ▸ hi)
  have ⟨h₁, h₂⟩ := Prod.mk.inj hr
  rw [h₁, h₂]
  exact Buckets.aligned_bounds (hb ▸ hs) i

end

theorem AnomalyResult.member?_bounds (r : AnomalyResult Float) :
    r.toJson.member? "data_start_time" = some r.start.toJson ∧
      r.toJson.member? "data_end_time" = some r.stop.toJson := by
  unfold AnomalyResult.toJson
  cases r.detectorId <;> exact ⟨rfl, rfl⟩

theorem Json.Decoder.timestamp_string {setting : Setting} {text : String} {t : Instant}
    (h : Instant.ofTimestamp (.string text) = .ok t) :
    timestamp setting (.ofValue (.string text)) = .ok (some t) := by
  change ((Instant.ofTimestamp (.string text)).map some).mapError _ = _
  rw [h]
  rfl

namespace Execution.Input

open Json (Decoder Document Shape)

-- The body that asks for a period and for nothing else.
def periodBody (start stop : Json) : Octets :=
  Text.encode (Json.object [("period_end", stop), ("period_start", start)]).compact

theorem ofBody_periodBody {a b : String} {start stop : Instant} {pathId : Option String}
    (hs : Instant.ofTimestamp (.string a) = .ok start)
    (he : Instant.ofTimestamp (.string b) = .ok stop) :
    ofBody (periodBody (.string a) (.string b)) pathId =
      .ok ⟨pathId, none, some start, some stop⟩ := by
  have hk : List.Pairwise (· < ·) ["period_end", "period_start"] := by decide
  have ho : Json.Members.Ordered [("period_end", .string b), ("period_start", .string a)] :=
    Json.Members.ordered_of_keys hk
  have hr := Json.readOctets?_texts ho <| List.forall_mem_cons.mpr
    ⟨⟨b, rfl⟩, List.forall_mem_singleton.mpr ⟨a, rfl⟩⟩
  have hm : shape.Reads ⟨.value, 126⟩ shape.blank
      [("period_end", .string b), ("period_start", .string a)] _ :=
    (Shape.Reads.field rfl (Decoder.timestamp_string he)).append
      (.field rfl (Decoder.timestamp_string hs))
  have hv : Json.decodeValue shape.decode
      (.object [("period_end", .string b), ("period_start", .string a)]) = .ok _ :=
    Shape.decode_of_reads hm ho.nodup_keys (List.nil_subset _)
  rw [ofBody, periodBody, Json.Shape.ofDocument, hr]
  simp only [hv]
  cases pathId <;> rfl

end Execution.Input

open Execution (Input)

-- However it is spelled, a count of milliseconds stands for its instant, or for none if it is out
-- of range. What is written of an instant stands for that instant, leap seconds included; those are
-- the last seconds of their minutes in everything that is read. So the bounds of a result can be
-- sent back as they stand in it.
theorem spellings_denote_one_instant :
    (∀ ms, MillisInRange ms ↔
      ∃ t : Instant, t.InRange ∧ t.IsWholeMillis ∧ t.epochMillis = ms) ∧
    (∀ t : Instant, t.InRange → t.IsWholeMillis →
      (∃ j, Json.read? ((Decimal.integer t.epochMillis).map some) = some j) ∧
      ∀ j, Spelling t.epochMillis j → Instant.ofTimestamp j = .ok t) ∧
    (∀ ms j, ¬MillisInRange ms → Spelling ms j → ∃ e, Instant.ofTimestamp j = .error e) ∧
    (∀ t : Instant, t.Aligned → t.HasPlainYear → Instant.ofTimestamp t.toJson = .ok t) ∧
    (∀ j t, Instant.ofTimestamp j = .ok t → t.InRange ∧ t.Aligned) ∧
    ∀ (source : SeriesSource Float) (threshold : Float) (limit : Nat) (d : Detector) (j : Json)
      (start stop : Instant) (results : List (AnomalyResult Float)),
      Instant.ofTimestamp j = .ok start →
      execute source threshold limit d start stop = .ok results → ∀ r ∈ results,
      ∃ a b, r.toJson.member? "data_start_time" = some a ∧
        r.toJson.member? "data_end_time" = some b ∧
        (r.start.HasPlainYear → Instant.ofTimestamp a = .ok r.start) ∧
        (r.stop.HasPlainYear → Instant.ofTimestamp b = .ok r.stop) ∧
        (r.start.HasPlainYear → r.stop.HasPlainYear → ∀ pathId,
          Input.ofBody (Input.periodBody a b) pathId =
            .ok ⟨pathId, none, some r.start, some r.stop⟩) := by
  refine ⟨fun ms => ⟨Instant.exists_of_millisInRange, ?range⟩, fun t hr hw => ⟨?literal, ?read⟩,
    fun ms j hn h => ?refused, fun t ha hy => Instant.ofTimestamp_toJson ha hy, fun j t h => ?sound,
    ?bounds⟩
  case range =>
    rintro ⟨t, hr, hw, rfl⟩
    exact Instant.millisInRange_epochMillis hr hw
  case literal => exact Instant.exists_literal (Instant.millisInRange_epochMillis hr hw)
  case read =>
    intro j h
    rcases Instant.ofTimestamp_of_spelling h with he | ⟨hn, _⟩
    · exact he.trans (Instant.ofMillis_epochMillis hw hr)
    · exact absurd (Instant.millisInRange_epochMillis hr hw) hn
  case refused =>
    rcases Instant.ofTimestamp_of_spelling h with he | ⟨_, he⟩
    · exact he ▸ Instant.ofMillis_eq_error hn
    · exact he
  case sound => exact ⟨Instant.inRange_of_ofTimestamp h, Instant.aligned_of_ofTimestamp h⟩
  case bounds =>
    intro source threshold limit d j start stop results hj h r hr
    have ⟨hs, he⟩ := aligned_bounds_of_execute h (Instant.aligned_of_ofTimestamp hj) hr
    have ⟨ha, hb⟩ := r.member?_bounds
    refine ⟨_, _, ha, hb, Instant.ofTimestamp_toJson hs, Instant.ofTimestamp_toJson he, ?_⟩
    intro hy hz pathId
    exact Input.ofBody_periodBody (Instant.ofTimestamp_toJson hs hy)
      (Instant.ofTimestamp_toJson he hz)

-- The first instant of 2024 and the last millisecond of 1969 in some of their spellings, a count
-- that is out of range, and a minute that starts inside a leap second.
theorem spellings_denote_one_instant_around_midnights :
    let midnight : Instant := .ofParts 19723 0 0
    let early : Instant := .ofParts 0 0 (-1000000)
    let leap : Instant := ⟨17166, 86399, 1500000000, by decide, by decide⟩
    let stop : Instant := .ofParts 17167 90 0
    let query : Json := .object [("a", .object [("sum", .object [("field", .string "x")])])]
    let d := { Detector.blank with
      timeField := "t", features := [⟨none, "f", true, query⟩], interval := ⟨1, .minutes⟩ }
    let source : SeriesSource Float := fun _ _ => .ok []
    (∃ j, Json.read? ("1704067200000".toList.map some) = some j ∧
      Instant.ofTimestamp j = .ok midnight) ∧
    Instant.ofTimestamp (.string "\t +1704067200000 ") = .ok midnight ∧
    Instant.ofTimestamp (.string "-1") = .ok early ∧
    (∃ e, Instant.ofTimestamp (.string "99999999999999999999") = .error e) ∧
    leap.text = "2016-12-31T23:59:60.500Z" ∧ Instant.ofTimestamp leap.toJson = .ok leap ∧
    ∀ threshold, ∃ r, execute source threshold 1 d leap stop = .ok [r] ∧
      Input.ofBody (Input.periodBody r.start.toJson r.stop.toJson) none =
        .ok ⟨none, none, some leap, some (.ofParts 17167 59 500000000)⟩ := by
  intro midnight early leap stop query d source
  have ⟨_, hc, hr, hw, _, hx⟩ := spellings_denote_one_instant
  have hl := hw leap (fun _ => by decide) (by decide)
  have h₁ : midnight.epochMillis = 1704067200000 := by decide
  have h₂ : early.epochMillis = -1 := by decide
  have ⟨⟨j, hj⟩, hm⟩ := h₁ ▸ hc midnight (by decide) ⟨rfl, by decide⟩
  have ⟨_, he⟩ := h₂ ▸ hc early (by decide) ⟨rfl, by decide⟩
  have plus : Spelling 1704067200000
      (.string (.ofList ("\t ".toList ++ '+' :: Decimal.natural 1704067200000 ++ [' ']))) :=
    .digits rfl (Decimal.spellsWhole_plus _) rfl
  have plain (ms : Int) : Spelling ms (.string (.ofList ([] ++ Decimal.integer ms ++ []))) :=
    .digits rfl (Decimal.spellsWhole_integer ms) rfl
  have hn : ¬MillisInRange 99999999999999999999 := by
    rw [Instant.millisInRange_iff]
    decide
  refine ⟨⟨j, hj, hm j (.literal hj)⟩, hm _ plus, he _ (plain (-1)), hr _ _ hn (plain _),
    by decide +kernel, hl, fun threshold => ?_⟩
  let b : Buckets := ⟨leap, .ofMillis 60000, 1⟩
  have hb : b.bounds 0 = (leap, .ofParts 17167 59 500000000) := by decide
  have hd : d.interval.span = .ok (.ofMillis 60000) := by decide
  have hs : Buckets.split leap stop (.ofMillis 60000) 1 = .ok b := by decide
  obtain ⟨r, ho⟩ : ∃ r, r = Score.bucket d b [] threshold 0 := ⟨_, rfl⟩
  have hy : execute source threshold 1 d leap stop = .ok [r] :=
    execute_eq_ok.mpr ⟨nofun, _, b, [], hd, hs, rfl, ho ▸ rfl⟩
  have h₁ : r.start = leap := ho ▸ congrArg Prod.fst hb
  have h₂ : r.stop = .ofParts 17167 59 500000000 := ho ▸ congrArg Prod.snd hb
  have ⟨_, _, ha, hz, _, _, hp⟩ := hx source threshold 1 d _ leap stop [r] hl hy r (.head _)
  cases ha.symm.trans r.member?_bounds.left
  cases hz.symm.trans r.member?_bounds.right
  refine ⟨r, hy, (hp (h₁ ▸ by decide) (h₂ ▸ by decide) none).trans ?_⟩
  rw [h₁, h₂]

end AnomalyDetection

import AnomalyDetection.Proofs.Engine.Alignment
import AnomalyDetection.Proofs.Execution.Problem

namespace AnomalyDetection

namespace Feature

-- Features that results call the same: both by their id, or one by an id that is the other's name.
inductive Clashes (f g : Feature) : Prop
  | ids {key : String} : f.id = some key → g.id = some key → Clashes f g
  | idAndName {key : String} : f.id = some key → g.id = none → g.name = key → Clashes f g
  | nameAndId {key : String} : f.id = none → f.name = key → g.id = some key → Clashes f g

variable {f g : Feature}

theorem key_eq_iff_clashes (h : f.name ≠ g.name) : f.key = g.key ↔ f.Clashes g := by
  unfold key
  constructor
  case mp =>
    intro he
    cases hf : f.id <;> cases hg : g.id <;>
      simp only [hf, hg, Option.getD_none, Option.getD_some] at he
    case none.none => exact absurd he h
    case none.some key => exact .nameAndId hf he hg
    case some.none key => exact .idAndName hf hg he.symm
    case some.some key key' => exact .ids hf (he ▸ hg)
  case mpr =>
    rintro (⟨hf, hg⟩ | ⟨hf, hg, hn⟩ | ⟨hf, hn, hg⟩)
    · rw [hf, hg, Option.getD_some, Option.getD_some]
    · rw [hf, hg, Option.getD_some, Option.getD_none, hn]
    · rw [hf, hg, Option.getD_some, Option.getD_none, hn]

end Feature

namespace Detector

variable {d : Detector} {limit : UInt64}

theorem Sound.names_enabled (h : d.Sound limit) :
    d.enabledFeatures.Pairwise fun f g => f.name ≠ g.name :=
  (List.pairwise_map.mp h.names).sublist List.filter_sublist

theorem Sound.nodup_keys_iff (h : d.Sound limit) :
    (d.enabledFeatures.map (·.key)).Nodup ↔
      d.enabledFeatures.Pairwise fun f g => ¬f.Clashes g := by
  rw [List.Nodup, List.pairwise_map]
  have hn := h.names_enabled
  exact ⟨fun hk => hn.imp₂ (fun f g hn hk hc => hk ((Feature.key_eq_iff_clashes hn).mpr hc)) hk,
    fun hc => hn.imp₂ (fun f g hn hc hk => hc ((Feature.key_eq_iff_clashes hn).mp hk)) hc⟩

-- Names are not the trouble.
theorem Sound.nodup_keys_of_names (h : d.Sound limit) (hi : ∀ f ∈ d.enabledFeatures, f.id = none) :
    (d.enabledFeatures.map (·.key)).Nodup := by
  refine h.nodup_keys_iff.mpr (List.pairwise_iff_forall_sublist.mpr fun {f g} hs hc => ?_)
  have ⟨hf, hg⟩ : f ∈ d.enabledFeatures ∧ g ∈ d.enabledFeatures := by
    have hm := hs.subset
    exact ⟨hm List.mem_cons_self, hm (.tail _ List.mem_cons_self)⟩
  obtain ⟨hx, _⟩ | ⟨hx, _, _⟩ | ⟨_, _, hx⟩ := hc
  · cases hx.symm.trans (hi f hf)
  · cases hx.symm.trans (hi f hf)
  · cases hx.symm.trans (hi g hg)

end Detector

variable {α : Type} [Quantity α] {d : Detector} {limit : UInt64}

theorem keys_of_execute {fs : FileSystem} {dir : String} {threshold : α} {most : Nat}
    {start stop : Instant} {results : List (AnomalyResult α)}
    (h : execute (extract fs dir) threshold most d start stop = .ok results) :
    ∀ r ∈ results, r.features.map (·.id) = d.enabledFeatures.map (·.key) := by
  have ⟨_, interval, b, series, _, _, hx, hr⟩ := execute_eq_ok.mp h
  have ⟨filter, _, hg⟩ := Extract.extract_eq_ok hx
  subst hr
  intro r hm
  have ⟨i, hi⟩ := List.getElem?_of_mem hm
  have ⟨_, _, _, hf⟩ := Score.getElem?_buckets hi
  have hk : List.Forall₂ (fun f s => f.key = s.id) d.enabledFeatures series :=
    hg.imp fun f s ⟨_, _, hs⟩ => hs.id.symm
  have he : d.enabledFeatures.map (·.key) = series.map (·.id) := by
    rw [← List.forall₂_eq_eq_eq, List.forall₂_map_left_iff, List.forall₂_map_right_iff]
    exact hk
  rw [hf, he, List.map_map]
  rfl

variable (α) in
-- A detector that nothing is wrong with has results that call its features by distinct keys just if
-- none of its enabled features clash. Without ids that is always so.
theorem attributed_unless_clashes (h : d.problem? limit = none) :
    ((∀ f ∈ d.enabledFeatures, f.id = none) →
      d.enabledFeatures.Pairwise fun f g => ¬f.Clashes g) ∧
    ((d.enabledFeatures.map (·.key)).Nodup ↔
      d.enabledFeatures.Pairwise fun f g => ¬f.Clashes g) ∧
    ∀ (fs : FileSystem) (dir : String) (threshold : α) (most : Nat) (start stop : Instant)
      (results : List (AnomalyResult α)),
      execute (extract fs dir) threshold most d start stop = .ok results →
        results ≠ [] ∧ ∀ r ∈ results,
          r.features.map (·.id) = d.enabledFeatures.map (·.key) ∧
          ((r.features.map (·.id)).Nodup ↔
            d.enabledFeatures.Pairwise fun f g => ¬f.Clashes g) := by
  have hs := Detector.problem?_eq_none.mp h
  refine ⟨fun hi => hs.nodup_keys_iff.mp (hs.nodup_keys_of_names hi), hs.nodup_keys_iff, ?_⟩
  intro fs dir threshold most start stop results hx
  refine ⟨execute_ne_nil hx, fun r hr => ?_⟩
  have hk := keys_of_execute hx r hr
  exact ⟨hk, hk ▸ hs.nodup_keys_iff⟩

-- A feature with an id beside one that is called by its name.
theorem attributed_unless_clashes_id_and_name :
    let query (name : String) : Json :=
      .object [(name, .object [("sum", .object [("field", .string "x")])])]
    let d := { Detector.blank with
      timeField := "t", indices := ["m"], interval := ⟨1, .minutes⟩,
      features := [⟨some "k", "f", true, query "a"⟩, ⟨none, "g", true, query "b"⟩] }
    let fs : FileSystem := ⟨[(["m.jsonl"], .file (Text.octets "\x7b\"t\":0,\"x\":2\x7d\n"))], []⟩
    d.problem? 5 = none ∧
    ∃ r : AnomalyResult Float,
      execute (extract fs "/") 3 1 d (.ofParts 0 0 0) (.ofParts 0 60 0) = .ok [r] ∧
      (r.features.map (·.id)).Nodup := by
  intro query d fs
  have hp : d.problem? 5 = none := by decide
  have hc : d.enabledFeatures.Pairwise fun f g => ¬f.Clashes g := by
    refine List.pairwise_pair.mpr ?_
    rintro (⟨_, hg⟩ | ⟨hf, _, hn⟩ | ⟨hf, _, _⟩)
    · cases hg
    · cases hf; exact absurd hn (by decide)
    · cases hf
  have hx : (execute (α := Float) (extract fs "/") 3 1 d (.ofParts 0 0 0)
      (.ofParts 0 60 0)).toOption.map (·.length) = some 1 := by
    decide +kernel
  have ⟨results, hr, hl⟩ := Option.map_eq_some_iff.mp hx
  obtain ⟨r, rfl⟩ := List.length_eq_one_iff.mp hl
  have hr := Outcome.eq_ok_of_toOption hr
  have ⟨_, _, ha⟩ := attributed_unless_clashes Float hp
  have ⟨_, hn⟩ := (ha fs "/" 3 1 _ _ [r] hr).right r List.mem_cons_self
  exact ⟨hp, r, hr, hn.mpr hc⟩

-- Two features of one id, and a third one that has that id for a name. Nothing is found wrong with
-- them, and all of them are called the same in the result.
theorem not_attributed_one_key :
    let query (name : String) : Json :=
      .object [(name, .object [("sum", .object [("field", .string "x")])])]
    let d := { Detector.blank with
      timeField := "t", indices := ["m"], interval := ⟨1, .minutes⟩,
      features := [⟨some "k", "f", true, query "a"⟩, ⟨some "k", "g", true, query "b"⟩,
        ⟨none, "k", true, query "c"⟩] }
    let fs : FileSystem := ⟨[(["m.jsonl"], .file (Text.octets "\x7b\"t\":0,\"x\":2\x7d\n"))], []⟩
    d.problem? 5 = none ∧
    ∃ r : AnomalyResult Float,
      execute (extract fs "/") 3 1 d (.ofParts 0 0 0) (.ofParts 0 60 0) = .ok [r] ∧
      ¬(r.features.map (·.id)).Nodup := by
  intro query d fs
  have hx : (execute (α := Float) (extract fs "/") 3 1 d (.ofParts 0 0 0)
      (.ofParts 0 60 0)).toOption.map (·.map (·.features.map (·.id))) = some [["k", "k", "k"]] := by
    decide +kernel
  have ⟨results, hr, hv⟩ := Option.map_eq_some_iff.mp hx
  obtain ⟨r, rfl, hk⟩ := List.map_eq_singleton_iff.mp hv
  refine ⟨by decide, r, Outcome.eq_ok_of_toOption hr, ?_⟩
  rw [hk]
  decide

end AnomalyDetection

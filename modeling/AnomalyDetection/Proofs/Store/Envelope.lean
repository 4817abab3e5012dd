import AnomalyDetection.Proofs.Detector.Document
import AnomalyDetection.Proofs.Json.FirstMember

namespace AnomalyDetection.Store.Envelope

open Json (Document Decoder nestingLimit)

-- All numbers in the source are written in a way that gives them back.
def ReadsBack (e : Envelope) : Prop := ∀ n, e.source.Mentions n → n.ReadsBack

variable {e : Envelope}

theorem readsBack_toJson (h : e.ReadsBack) : ∀ n, e.toJson.Mentions n → n.ReadsBack := by
  intro n hn
  cases hn
  case member hn hm =>
    simp only [List.mem_cons, List.not_mem_nil, or_false] at hm
    rcases hm with rfl | rfl
    case inl => cases hn; exact Json.Number.readsBack_natural _
    case inr => exact h n hn

theorem decodeText_content (h : e.ReadsBack) (decode : Decoder α) :
    Json.decodeText decode (Text.glyphs e.content) =
      decode ⟨.text, nestingLimit⟩ (.ofValue e.toJson) := by
  have hr : Document.read ((e.toJson.indented 0).map some) = (.ofValue e.toJson, true) :=
    Document.read_indented (readsBack_toJson h) 0
  simp only [Json.decodeText, content, Text.glyphs_encode, hr, if_true]
  cases decode ⟨.text, nestingLimit⟩ (.ofValue e.toJson) <;> rfl

-- Sources nested as deep as a reader takes them are too deep for an envelope.
theorem ofContent_content (hs : e.source.IsSorted) (h : e.ReadsBack) : ofContent e.content =
    if e.source.depth < nestingLimit then .ok e else .error (.inside "source" .malformed) := by
  rw [ofContent, decodeText_content h]
  split
  -- The envelope is one level of its own.
  case isTrue hd =>
    have hv : Decoder.value ⟨.text, 126⟩ (.ofValue e.source) = .ok e.source := by
      simp only [Decoder.value, Document.value?_ofValue (Nat.le_of_lt_succ hd), hs.sorted_eq]
    have hk : ["version", "source"].Nodup := by decide
    have hm : shape.Reads ⟨.text, 126⟩ shape.blank
        [("version", .natural e.version), ("source", e.source)] _ :=
      .append (.field rfl (Decoder.uint64_natural ..)) (.field rfl hv)
    exact Json.Shape.decode_of_reads hm hk fun _ => id
  case isFalse hd =>
    have hv : Decoder.value ⟨.text, 126⟩ (.ofValue e.source) = .error .malformed := by
      simp only [Decoder.value, Document.value?_ofValue_eq_none (Nat.le_of_not_lt hd)]
    have hk : "source" ∉ ["version"] := by decide
    have hm : shape.readMembers ⟨.text, 126⟩ [] shape.blank
        (Document.ofMembers [("version", .natural e.version), ("source", e.source)]) =
        .error (.inside "source" .malformed) :=
      .trans (Json.Shape.readMembers_field rfl List.not_mem_nil (Decoder.uint64_natural ..))
        (Json.Shape.readMembers_fault rfl hk hv)
    rw [toJson, nestingLimit, Json.Shape.decode_object, hm]
    rfl

-- The version comes first, so it is read as it was written even where the source is not.
theorem version_of_ofContent {e' : Envelope} (h : ofContent e.content = .ok e') :
    e'.version = e.version := by
  have hb : Json.Reader.Begins (some "version", .ofValue (.natural e.version))
      (Document.read (Text.glyphs e.content)).1 := by
    rw [content, Text.glyphs_encode]
    refine Json.Reader.begins_indented "version" (fun n hn => ?_) (List.cons_ne_nil _ _) 0
    cases hn
    exact Json.Number.readsBack_natural _
  obtain ⟨rest, closed, hb⟩ := hb
  have hd := Json.decode_of_decodeText h
  rw [hb] at hd
  have ⟨s, r, hr, hk⟩ := Json.Shape.decode_first (f := .required "version" _ _) rfl hd
  have hv : r.version = e.version := by
    have ⟨n, hn, he⟩ := Outcome.map_eq_ok hr
    cases (Json.Decoder.uint64_natural s "u64" e.version).symm.trans hn
    exact he ▸ rfl
  refine hk (·.version = e.version) (fun g hg hn => ?_) hv
  simp only [shape, List.mem_cons, List.not_mem_nil, or_false] at hg
  rcases hg with rfl | rfl
  case inl => exact absurd rfl hn
  case inr => exact Json.Field.keeps_of fun _ _ _ _ hp => hp

-- An envelope is no detector.
theorem decode_detector_content (h : e.ReadsBack) :
    Json.decodeText Detector.shape.decode (Text.glyphs e.content) =
      .error (.missingField "name") := by
  have hv : Decoder.optional (Decoder.uint64 "u64") ⟨.text, 126⟩
      (.ofValue (.natural e.version)) = .ok (some e.version) :=
    Decoder.optional_eq_some Json.noConfusion (Decoder.uint64_natural ..)
  have hm : Detector.shape.readMembers ⟨.text, 126⟩ [] Detector.shape.blank
      (Document.ofMembers [("version", .natural e.version), ("source", e.source)]) =
      .ok ({ Detector.blank with version := some e.version }, ["version"]) :=
    .trans (Json.Shape.readMembers_field rfl List.not_mem_nil hv)
      (Json.Shape.readMembers_unknown rfl)
  rw [decodeText_content h, toJson, nestingLimit, Json.Shape.decode_object, hm]
  rfl

variable {d : Detector}

theorem readsBack_documentOf (h : ∀ x, d.Mentions (.float x) → (Json.Number.float x).ReadsBack)
    (version : UInt64) : ReadsBack ⟨version, documentOf d⟩ :=
  fun _ hn => Detector.readsBack_of_mentions h (Detector.mentions_documentOf hn)

-- A stored document is its detector again, under the id and the version that it is stored with.
theorem ofDocument_documentOf {written : UInt64} (hf : d.Fits 124)
    (hd : (documentOf d).depth ≤ nestingLimit) (hn : ReadsBack ⟨written, documentOf d⟩)
    (id : String) (version : Option UInt64) :
    Detector.ofDocument (Text.encode (documentOf d).compact) id version =
      .ok { d with id := some id, version } := by
  have hs : (documentOf d).sorted = ({ d with id := none, version := none }).toJson.sorted :=
    d.isSorted_documentOf.sorted_eq.trans d.documentOf_eq
  exact Detector.ofDocument_compact (hf.stamp none none) hs hd hn id version

end AnomalyDetection.Store.Envelope

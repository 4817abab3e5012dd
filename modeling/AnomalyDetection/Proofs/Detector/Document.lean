import AnomalyDetection.Proofs.Detector.Form
import AnomalyDetection.Proofs.Json.Reading
import AnomalyDetection.Proofs.Json.Room
import AnomalyDetection.Proofs.Text.Utf8

namespace AnomalyDetection

open Json (Decoder Field Document Members)

variable {source : Json.Source} {room : Nat}

theorem Interval.spares_shape : shape.decode.Spares := by
  have hp : periodShape.decode.Spares := Json.Shape.spares <| by
    simp only [periodShape, List.forall_mem_cons]
    exact ⟨.of (.uint64 _), .of (.variant _), List.forall_mem_nil _⟩
  exact Json.Shape.spares (List.forall_mem_singleton.mpr (.of hp))

theorem Feature.spares_shape : shape.decode.Spares := by
  refine Json.Shape.spares ?_
  simp only [shape, List.forall_mem_cons]
  exact ⟨.of (.optional .string), .of .string, .of .bool, .of .value, List.forall_mem_nil _⟩

namespace Detector

variable {d : Detector}

theorem spares_shape : shape.decode.Spares := by
  have instant : Decoder.instant.Spares := by
    intro _ _ d _
    unfold Decoder.instant
    split <;> rfl
  refine Json.Shape.spares ?_
  simp only [shape, List.forall_mem_cons]
  refine ⟨?detector_id, ?version, ?name, ?description, ?time_field, ?indices, ?feature_attributes,
    ?filter_query, ?detection_interval, ?window_delay, ?shingle_size, ?schema_version,
    ?last_update_time, List.forall_mem_nil _⟩
  case detector_id | description => exact .of (.optional .string)
  case version => exact .of (.optional (.uint64 _))
  case name | time_field => exact .of .string
  case indices => exact .of (.list .string)
  case feature_attributes => exact .of (.list Feature.spares_shape)
  case filter_query => exact .of (.optional .value)
  case detection_interval => exact .of Interval.spares_shape
  case window_delay => exact .of (.optional Interval.spares_shape)
  case shingle_size => exact .of (.uint64 _)
  case schema_version => exact .of .uint32
  case last_update_time => exact .of (.optional instant)

theorem Fits.mono {more : Nat} (h : d.Fits room) (hm : room ≤ more) : d.Fits more where
  filter j hj :=
    have ⟨hn, hs, hd⟩ := h.filter j hj
    ⟨hn, hs, Nat.le_trans hd (Nat.add_le_add_right hm 2)⟩
  queries f hf := ⟨(h.queries f hf).left, Nat.le_trans (h.queries f hf).right hm⟩
  lastUpdate := h.lastUpdate

-- Id and version have no part in it.
theorem Fits.stamp (h : d.Fits room) (id : Option String) (version : Option UInt64) :
    Fits { d with id, version } room :=
  ⟨h.filter, h.queries, h.lastUpdate⟩

theorem fits_of_document {document : Document} (hd : document.depth ≤ room + 3)
    (h : shape.decode ⟨source, room + 4⟩ document = .ok d) : d.Fits room :=
  fits_of_decode ((spares_shape source (room + 3) document hd).symm.trans h)

theorem depth_toJson (h : d.Fits room) : d.toJson.depth ≤ room + 3 := by
  have interval (i : Interval) : i.toJson.depth ≤ room + 2 := Nat.le_add_left 2 room
  have feature (f : Feature) (hf : f ∈ d.features) : f.toJson.depth ≤ room + 1 := by
    refine Nat.succ_le_succ (Json.depthMembers_le.mpr ?_)
    simp only [List.forall_mem_append, Members.forall_maybe, List.forall_mem_cons]
    exact ⟨fun _ _ => Nat.zero_le _, Nat.zero_le _, Nat.zero_le _, (h.queries f hf).right,
      List.forall_mem_nil _⟩
  refine Nat.succ_le_succ (Json.depthMembers_le.mpr ?_)
  simp only [members, List.forall_mem_append, Members.forall_maybe, List.forall_mem_cons, and_assoc]
  refine ⟨?id, ?version, ?name, List.forall_mem_nil _, ?description, ?timeField, ?indices,
    ?features, List.forall_mem_nil _, ?filter, interval d.interval, List.forall_mem_nil _,
    fun i _ => interval i, ?shingleSize, ?schemaVersion, List.forall_mem_nil _, ?lastUpdate⟩
  case indices =>
    refine Nat.succ_le_succ (Json.depthItems_le.mpr (List.forall_mem_map.mpr fun _ _ => ?_))
    exact Nat.zero_le _
  case features =>
    exact Nat.succ_le_succ (Json.depthItems_le.mpr (List.forall_mem_map.mpr feature))
  case filter => exact fun j hj => (h.filter j hj).right.right
  case id | version | description | lastUpdate => exact fun _ _ => Nat.zero_le _
  all_goals exact Nat.zero_le _

theorem depth_documentOf (h : d.Fits room) : (Store.Envelope.documentOf d).depth ≤ room + 3 := by
  rw [documentOf_eq]
  exact Json.depth_sorted_le (depth_toJson (h.stamp none none))

theorem readsBack_of_mentions (h : ∀ x, d.Mentions (.float x) → (Json.Number.float x).ReadsBack)
    {n : Json.Number} (hn : d.Mentions n ∨ ∃ k, n = .natural k) : n.ReadsBack := by
  cases hn
  case inl hn =>
    cases n
    case natural => exact Json.Number.readsBack_natural _
    case negative => exact Json.Number.readsBack_negative _
    case float => exact h _ hn
  case inr hn =>
    have ⟨k, he⟩ := hn
    exact he ▸ Json.Number.readsBack_natural k

-- A document is its detector again, in whatever order its members are written.
theorem ofDocument_compact {j : Json} (hf : d.Fits 124) (hs : j.sorted = d.toJson.sorted)
    (hd : j.depth ≤ Json.nestingLimit) (hn : ∀ n, j.Mentions n → n.ReadsBack) (id : String)
    (version : Option UInt64) : Detector.ofDocument (Text.encode j.compact) id version =
      .ok { d with id := some id, version } := by
  have hr : Json.readOctets? (Text.encode j.compact) = some (.object d.sortedMembers) := by
    rw [Json.readOctets?_compact hn hd, hs, sorted_toJson]
  have hv : Json.decodeValue shape.decode (.object d.sortedMembers) = .ok d := by
    rw [← sorted_toJson]
    exact hf.decode
  rw [Detector.ofDocument, Json.Shape.ofDocument, hr]
  simp only [hv]
  rfl

theorem ofDocument_toJson (hf : d.Fits 124)
    (hn : ∀ x, d.Mentions (.float x) → (Json.Number.float x).ReadsBack) (id : String)
    (version : Option UInt64) : Detector.ofDocument (Text.encode d.toJson.compact) id version =
      .ok { d with id := some id, version } :=
  ofDocument_compact hf rfl (depth_toJson hf)
    (fun _ hm => readsBack_of_mentions hn (mentions_toJson hm)) id version

end Detector
end AnomalyDetection

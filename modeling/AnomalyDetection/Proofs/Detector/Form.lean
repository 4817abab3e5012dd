import AnomalyDetection.Store.File
import AnomalyDetection.Proofs.Json.Shape
import AnomalyDetection.Proofs.Time.Written

namespace AnomalyDetection

open Json (Decoder Members)

variable {source : Json.Source} {room : Nat}

theorem Json.Decoder.uint64_natural (s : Json.Setting) (expected : String) (n : UInt64) :
    uint64 expected s (.ofValue (.natural n)) = .ok n := by
  have hn : n.toNat < UInt64.size := n.toNat_lt
  simp only [Json.natural, Json.Document.ofValue, uint64, Decoder.natural, if_pos hn, Except.map,
    UInt64.ofNat_toNat]

theorem Json.Decoder.uint32_natural (s : Json.Setting) (n : UInt32) :
    Decoder.uint32 s (.ofValue (.natural n.toUInt64)) = .ok n := by
  have hn : n.toUInt64.toNat < UInt32.size := n.toNat_lt
  simp only [Json.natural, Json.Document.ofValue, Decoder.uint32, Decoder.natural, if_pos hn,
    Except.map]
  simp

theorem Json.Decoder.instant_toJson {t : Instant} (hr : t.InRange) (ha : t.Aligned)
    (s : Json.Setting) : Decoder.instant s (.ofValue t.toJson) = .ok t := by
  simp only [Instant.toJson, Instant.text, Json.Document.ofValue, Decoder.instant,
    String.toList_ofList, Instant.ofLooseText_written hr ha]
  rfl

theorem Json.Decoder.instant_keeps {s : Json.Setting} {doc : Json.Document} {t : Instant}
    (h : Decoder.instant s doc = .ok t) : t.InRange ∧ t.Aligned := by
  unfold Decoder.instant at h
  split at h
  case h_1 => exact Instant.inRange_of_ofLooseText (Outcome.mapError_eq_ok h)
  case h_2 => cases h

namespace Interval

theorem lookup_name (u : Unit) : Unit.spellings.lookup u.name = some u := by
  cases u <;> rfl

theorem decode_period (i : Interval) :
    periodShape.decode ⟨source, room + 1⟩ (.ofValue (.object [
      ("interval", .natural i.count), ("unit", .string i.unit.name)])) = .ok i := by
  have hu : Decoder.variant Unit.spellings ⟨source, room⟩ (.ofValue (.string i.unit.name)) =
      .ok i.unit := by
    simp only [Json.Document.ofValue, Decoder.variant, Decoder.variant.pick, lookup_name]
  have hk : ["interval", "unit"].Nodup := by decide
  have h : periodShape.Reads ⟨source, room⟩ periodShape.blank
      [("interval", .natural i.count), ("unit", .string i.unit.name)] _ :=
    (Json.Shape.Reads.field rfl (Decoder.uint64_natural ..)).append (.field rfl hu)
  exact Json.Shape.decode_of_reads h hk fun _ => id

theorem decode_toJson (i : Interval) :
    shape.decode ⟨source, room + 2⟩ (.ofValue i.toJson) = .ok i := by
  have hk : ["period"].Nodup := by decide
  have h : shape.Reads ⟨source, room + 1⟩ shape.blank [("period", _)] _ :=
    .field rfl i.decode_period
  exact Json.Shape.decode_of_reads h hk fun _ => id

theorem isSorted_toJson (i : Interval) : i.toJson.IsSorted := by
  have hk : ["interval", "unit"].Pairwise (· < ·) := by decide
  refine .object (Members.ordered_of_keys (List.pairwise_singleton _ "period")) fun m hm => ?_
  cases List.mem_singleton.mp hm
  refine .object (Members.ordered_of_keys hk) fun m hm => ?_
  simp only [List.mem_cons, List.not_mem_nil, or_false] at hm
  rcases hm with rfl | rfl
  case inl => exact .number _
  case inr => exact .string _

theorem mentions_toJson {i : Interval} {n : Json.Number} (h : i.toJson.Mentions n) :
    ∃ k, n = .natural k := by
  cases h
  case member hn hm =>
    cases List.mem_singleton.mp hm
    cases hn
    case member hn hm =>
      simp only [List.mem_cons, List.not_mem_nil, or_false] at hm
      rcases hm with rfl | rfl
      case inl => cases hn; exact ⟨_, rfl⟩
      case inr => cases hn

end Interval

namespace Feature

-- The members in order.
def sortedMembers (f : Feature) : Members := List.flatten [
  [("aggregation_query", f.query.sorted), ("feature_enabled", .bool f.enabled)],
  (f.id.map fun x => ("feature_id", Json.string x)).toList,
  [("feature_name", .string f.name)]]

theorem keys_sortedMembers (f : Feature) : f.sortedMembers.keys.Sublist
    ["aggregation_query", "feature_enabled", "feature_id", "feature_name"] := by
  simp only [sortedMembers, List.flatten_cons, Members.keys_append]
  exact .append (.refl ["aggregation_query", "feature_enabled"]) <|
    .append (Members.keys_maybe ..) (.refl ["feature_name"])

theorem ordered_sortedMembers (f : Feature) : f.sortedMembers.Ordered :=
  Members.ordered_of_keys (.sublist f.keys_sortedMembers (by decide))

theorem sorted_toJson (f : Feature) : f.toJson.sorted = .object f.sortedMembers := by
  refine Json.sorted_object f.ordered_sortedMembers (List.perm_iff_count.mpr fun m => ?_)
  simp only [sortedMembers, List.flatten_cons, List.flatten_nil, List.map_append,
    ← Option.toList_map, Option.map_map, Function.comp_def, Json.sorted, List.map_cons,
    List.map_nil, List.count_append, List.count_cons, List.count_nil]
  ac_rfl

theorem decode_sorted {f : Feature} (hs : f.query.IsSorted) (hd : f.query.depth ≤ room) :
    shape.decode ⟨source, room + 1⟩ (.ofValue f.toJson.sorted) = .ok f := by
  have hq : Decoder.value ⟨source, room⟩ (.ofValue f.query.sorted) = .ok f.query := by
    simp only [hs.sorted_eq, Decoder.value, Json.Document.value?_ofValue hd]
  have h : shape.Reads ⟨source, room⟩ shape.blank f.sortedMembers _ :=
    .append (.append (.field rfl hq) (.field rfl rfl)) <|
    .append (.maybe rfl rfl fun _ _ => ⟨Json.noConfusion, rfl⟩) <|
    .append (.field rfl rfl) .nil
  have hr : ["feature_name", "aggregation_query"] ⊆ f.sortedMembers.keys := by
    simp [sortedMembers, Members.keys]
  rw [sorted_toJson]
  exact Json.Shape.decode_of_reads h f.ordered_sortedMembers.nodup_keys hr

theorem query_of_decode {f : Feature} {doc : Json.Document}
    (h : shape.decode ⟨source, room + 1⟩ doc = .ok f) :
    f.query.IsSorted ∧ f.query.depth ≤ room := by
  refine Json.Shape.decode_keeps (P := fun f => f.query.IsSorted ∧ f.query.depth ≤ room)
    (fun r hr => ?_) ⟨.null, Nat.zero_le _⟩ h
  cases Nat.succ.inj hr
  simp only [shape, List.forall_mem_cons]
  refine ⟨?feature_id, ?feature_name, ?feature_enabled, ?aggregation_query, List.forall_mem_nil _⟩
  case feature_id => exact Json.Field.keeps_of fun _ _ _ _ hp => hp
  case feature_name => exact Json.Field.keeps_of fun _ _ _ _ hp => hp
  case feature_enabled => exact Json.Field.keeps_of fun _ _ _ _ hp => hp
  case aggregation_query =>
    refine Json.Field.keeps_of fun _ j _ hj _ => ?_
    exact Json.Document.sorted_of_value? (Decoder.value?_of_value hj)

theorem mentions_toJson {f : Feature} {n : Json.Number} (h : f.toJson.Mentions n) :
    f.query.Mentions n := by
  cases h
  case member m hn hm =>
    simp only [List.mem_append, List.mem_cons, List.not_mem_nil, or_false, Option.mem_toList,
      Option.map_eq_some_iff] at hm
    rcases hm with ⟨_, _, rfl⟩ | rfl | rfl | rfl
    case inr.inr.inr => exact hn
    all_goals cases hn

end Feature

namespace Detector

-- The members in order.
def sortedMembers (d : Detector) : Members := List.flatten [
  (d.description.map fun x => ("description", Json.string x)).toList,
  [("detection_interval", d.interval.toJson)],
  (d.id.map fun x => ("detector_id", Json.string x)).toList,
  [("feature_attributes", .array (d.features.map fun f => f.toJson.sorted))],
  (d.filter.map fun x => ("filter_query", x.sorted)).toList,
  [("indices", .array (d.indices.map .string))],
  (d.lastUpdate.map fun x => ("last_update_time", x.toJson)).toList,
  [("name", .string d.name)],
  [("schema_version", .natural d.schemaVersion.toUInt64)],
  [("shingle_size", .natural d.shingleSize)],
  [("time_field", .string d.timeField)],
  (d.version.map fun x => ("version", Json.natural x)).toList,
  (d.windowDelay.map fun x => ("window_delay", x.toJson)).toList]

theorem keys_sortedMembers (d : Detector) : d.sortedMembers.keys.Sublist
    ["description", "detection_interval", "detector_id", "feature_attributes", "filter_query",
      "indices", "last_update_time", "name", "schema_version", "shingle_size", "time_field",
      "version", "window_delay"] := by
  simp only [sortedMembers, List.flatten_cons, Members.keys_append]
  exact
    .append (Members.keys_maybe ..) <| .append (.refl ["detection_interval"]) <|
    .append (Members.keys_maybe ..) <| .append (.refl ["feature_attributes"]) <|
    .append (Members.keys_maybe ..) <| .append (.refl ["indices"]) <|
    .append (Members.keys_maybe ..) <|
    .append (.refl ["name", "schema_version", "shingle_size", "time_field"]) <|
    .append (Members.keys_maybe ..) <| .append (Members.keys_maybe ..) .slnil

theorem ordered_sortedMembers (d : Detector) : d.sortedMembers.Ordered :=
  Members.ordered_of_keys (.sublist d.keys_sortedMembers (by decide))

-- There is one order of the keys, so it is enough that the same members stand on both sides.
theorem sorted_toJson (d : Detector) : d.toJson.sorted = .object d.sortedMembers := by
  refine Json.sorted_object d.ordered_sortedMembers (List.perm_iff_count.mpr fun m => ?_)
  simp only [members, sortedMembers, List.flatten_cons, List.flatten_nil, List.map_append,
    ← Option.toList_map, Option.map_map, Function.comp_def, Json.sorted, Json.sortedItems_eq_map,
    List.map_map, Json.natural, Interval.isSorted_toJson _ |>.sorted_eq, Instant.toJson,
    List.map_cons, List.map_nil, List.count_append, List.count_cons, List.count_nil]
  ac_rfl

-- The document without id and version is that of a detector without them.
theorem documentOf_eq (d : Detector) :
    Store.Envelope.documentOf d = ({ d with id := none, version := none }).toJson.sorted := by
  have hi : (d.sortedMembers.filter fun m => m.1 != "detector_id") =
      ({ d with id := none }).sortedMembers := by
    simp only [sortedMembers, List.flatten_cons, List.flatten_nil, List.filter_append,
      List.filter_cons, List.filter_nil, Members.filter_maybe, bne_iff_ne, ne_eq, String.reduceEq,
      not_false_eq_true, if_true, if_false]
    rfl
  have hv : (({ d with id := none }).sortedMembers.filter fun m => m.1 != "version") =
      ({ d with id := none, version := none }).sortedMembers := by
    simp only [sortedMembers, List.flatten_cons, List.flatten_nil, List.filter_append,
      List.filter_cons, List.filter_nil, Members.filter_maybe, bne_iff_ne, ne_eq, String.reduceEq,
      not_false_eq_true, if_true, if_false]
    rfl
  simp only [Store.Envelope.documentOf, sorted_toJson, Json.without, hi, hv]

theorem isSorted_documentOf (d : Detector) : (Store.Envelope.documentOf d).IsSorted :=
  d.documentOf_eq ▸ Json.isSorted_sorted _

-- What a reader leaves of a detector: values in order, with room for them, and instants that can be
-- written.
structure Fits (d : Detector) (room : Nat) : Prop where
  filter : ∀ j, d.filter = some j → j ≠ .null ∧ j.IsSorted ∧ j.depth ≤ room + 2
  queries : ∀ f ∈ d.features, f.query.IsSorted ∧ f.query.depth ≤ room
  lastUpdate : ∀ t, d.lastUpdate = some t → t.InRange ∧ t.Aligned

theorem Fits.decode {d : Detector} (h : d.Fits room) :
    shape.decode ⟨source, room + 3⟩ (.ofValue d.toJson.sorted) = .ok d := by
  have hx : Decoder.list Decoder.string ⟨source, room + 2⟩
      (.ofValue (.array (d.indices.map .string))) = .ok d.indices :=
    Decoder.list_ofItems fun _ _ => rfl
  have hf : Decoder.list Feature.shape.decode ⟨source, room + 2⟩
      (.ofValue (.array (d.features.map fun f => f.toJson.sorted))) = .ok d.features :=
    Decoder.list_ofItems fun f hf =>
      Feature.decode_sorted (h.queries f hf).left (h.queries f hf).right
  have hq (j : Json) (hj : d.filter = some j) : j.sorted ≠ .null ∧
      Decoder.value ⟨source, room + 2⟩ (.ofValue j.sorted) = .ok j := by
    have ⟨hn, hs, hd⟩ := h.filter j hj
    rw [hs.sorted_eq]
    simp only [Decoder.value, Json.Document.value?_ofValue hd, hs.sorted_eq]
    exact ⟨hn, trivial⟩
  have hl (t : Instant) (ht : d.lastUpdate = some t) : t.toJson ≠ .null ∧
      Decoder.instant ⟨source, room + 2⟩ (.ofValue t.toJson) = .ok t :=
    ⟨Json.noConfusion, Decoder.instant_toJson (h.lastUpdate t ht).left (h.lastUpdate t ht).right _⟩
  -- Field by field, in the order of the keys; what is left out is as in the blank detector.
  have hm : shape.Reads ⟨source, room + 2⟩ shape.blank d.sortedMembers _ :=
    .append (.maybe rfl rfl fun _ _ => ⟨Json.noConfusion, rfl⟩) <|
    .append (.field rfl d.interval.decode_toJson) <|
    .append (.maybe rfl rfl fun _ _ => ⟨Json.noConfusion, rfl⟩) <|
    .append (.field rfl hf) <|
    .append (.maybe rfl rfl hq) <|
    .append (.field rfl hx) <|
    .append (.maybe rfl rfl hl) <|
    .append (.field rfl rfl) <|
    .append (.field rfl (Decoder.uint32_natural ..)) <|
    .append (.field rfl (Decoder.uint64_natural ..)) <|
    .append (.field rfl rfl) <|
    .append (.maybe rfl rfl fun _ _ => ⟨Json.noConfusion, Decoder.uint64_natural ..⟩) <|
    .append (.maybe rfl rfl fun i _ => ⟨Json.noConfusion, i.decode_toJson⟩) .nil
  have hr : ["name", "time_field", "indices", "detection_interval"] ⊆ d.sortedMembers.keys := by
    simp [sortedMembers, Members.keys]
  rw [sorted_toJson]
  exact Json.Shape.decode_of_reads hm d.ordered_sortedMembers.nodup_keys hr

theorem keeps_fits : ∀ f ∈ shape.fields, f.Keeps ⟨source, room + 2⟩ (Fits · room) := by
  simp only [shape, List.forall_mem_cons]
  refine ⟨?detector_id, ?version, ?name, ?description, ?time_field, ?indices, ?feature_attributes,
    ?filter_query, ?detection_interval, ?window_delay, ?shingle_size, ?schema_version,
    ?last_update_time, List.forall_mem_nil _⟩
  case feature_attributes =>
    refine Json.Field.keeps_of fun _ fs d hd h => ⟨h.filter, ?_, h.lastUpdate⟩
    refine Decoder.list_keeps (fun r hr doc f hf => ?_) hd
    cases Nat.succ.inj hr
    exact Feature.query_of_decode hf
  case filter_query =>
    refine Json.Field.keeps_of fun doc o d hd h => ⟨?_, h.queries, h.lastUpdate⟩
    rintro j rfl
    have ⟨hn, hv⟩ := Decoder.eq_ok_of_optional hd
    have hv := Decoder.value?_of_value hv
    refine ⟨?_, Json.Document.sorted_of_value? hv⟩
    rintro rfl
    exact hn (Json.Document.eq_null_of_value? hv)
  case last_update_time =>
    refine Json.Field.keeps_of fun doc o d hd h => ⟨h.filter, h.queries, ?_⟩
    rintro t rfl
    exact Decoder.instant_keeps (Decoder.eq_ok_of_optional hd).right
  all_goals
    exact Json.Field.keeps_of fun _ _ _ _ h => ⟨h.filter, h.queries, h.lastUpdate⟩

theorem fits_of_decode {d : Detector} {doc : Json.Document}
    (h : shape.decode ⟨source, room + 3⟩ doc = .ok d) : d.Fits room := by
  have hb : blank.Fits room := ⟨nofun, List.forall_mem_nil _, nofun⟩
  refine Json.Shape.decode_keeps (P := (Fits · room)) (fun r hr => ?_) hb h
  cases Nat.succ.inj hr
  exact keeps_fits

-- Numbers that a detector holds as they were given.
def Mentions (d : Detector) (n : Json.Number) : Prop :=
  (∃ j, d.filter = some j ∧ j.Mentions n) ∨ ∃ f ∈ d.features, f.query.Mentions n

theorem mentions_toJson {d : Detector} {n : Json.Number} (h : d.toJson.Mentions n) :
    d.Mentions n ∨ ∃ k, n = .natural k := by
  have hs : ∀ m ∈ d.members, m.2.Mentions n → d.Mentions n ∨ ∃ k, n = .natural k := by
    simp only [members, List.forall_mem_append, Members.forall_maybe, List.forall_mem_cons,
      and_assoc]
    refine ⟨?id, ?version, ?name, List.forall_mem_nil _, ?description, ?timeField, ?indices,
      ?features, List.forall_mem_nil _, ?filter, fun h => .inr (Interval.mentions_toJson h),
      List.forall_mem_nil _, fun _ _ h => .inr (Interval.mentions_toJson h), ?shingleSize,
      ?schemaVersion, List.forall_mem_nil _, ?lastUpdate⟩
    case version => rintro k _ ⟨⟩; exact .inr ⟨k, rfl⟩
    case shingleSize | schemaVersion => rintro ⟨⟩; exact .inr ⟨_, rfl⟩
    case filter => exact fun j hj h => .inl (.inl ⟨j, hj, h⟩)
    case features =>
      intro h
      cases h
      case item hm hj =>
        obtain ⟨f, hf, he⟩ := List.mem_map.mp hj
        subst he
        exact .inl (.inr ⟨f, hf, Feature.mentions_toJson hm⟩)
    case indices =>
      intro h
      cases h
      case item hm hj =>
        obtain ⟨_, _, he⟩ := List.mem_map.mp hj
        subst he
        cases hm
    case name | timeField => intro h; cases h
    all_goals intro _ _ h; cases h
  cases h
  case member m hn hm => exact hs m hm hn

theorem mentions_documentOf {d : Detector} {n : Json.Number}
    (h : (Store.Envelope.documentOf d).Mentions n) : d.Mentions n ∨ ∃ k, n = .natural k := by
  rw [documentOf_eq] at h
  -- Without id and version the detector still holds the same numbers.
  have hm : Mentions { d with id := none, version := none } n ∨ _ :=
    mentions_toJson (Json.mentions_of_sorted h)
  exact hm

end Detector
end AnomalyDetection

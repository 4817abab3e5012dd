import AnomalyDetection.Proofs.Json.Canonical
import AnomalyDetection.Json.Decode
import AnomalyDetection.Proofs.Outcome

namespace AnomalyDetection.Json

variable {P : ρ → Prop} {s : Setting}

def Field.Keeps (f : Field ρ) (s : Setting) (P : ρ → Prop) : Prop :=
  ∀ d r r', f.read s d r = .ok r' → P r → P r'

theorem Field.keeps_of {presence : Field.Presence} {name : String} {decode : Decoder α}
    {put : α → ρ → ρ} (h : ∀ d a r, decode s d = .ok a → P r → P (put a r)) :
    (of presence name decode put).Keeps s P := by
  intro d r r' hr hp
  have ⟨a, ha, he⟩ := Outcome.map_eq_ok hr
  exact he ▸ h d a r ha hp

theorem Decoder.optional_eq_some {decode : Decoder α} {j : Json} {a : α} (hn : j ≠ .null)
    (h : decode s (.ofValue j) = .ok a) : optional decode s (.ofValue j) = .ok (some a) := by
  cases j
  case null => exact absurd rfl hn
  all_goals exact congrArg (Except.map some) h

namespace Shape

variable {shape : Shape ρ}

-- Fields that have been read before are not read again.
theorem readMembers_keeps {ms : List (Option String × Document)} {r r' : ρ}
    {seen seen' : List String} (hf : ∀ f ∈ shape.fields, f.name ∉ seen → f.Keeps s P)
    (h : shape.readMembers s seen r ms = .ok (r', seen')) (hr : P r) : P r' := by
  induction ms generalizing seen r
  case nil => cases h; exact hr
  case cons m ms hi =>
    obtain ⟨none | key, d⟩ := m
    case none => cases h
    case some =>
      unfold readMembers at h
      split at h
      case h_1 f hm =>
        split at h
        case isTrue => cases h
        case isFalse hs =>
          have ⟨r₁, h₁, h⟩ := Outcome.bind_eq_ok h
          have hn : f.name = key := by simpa using List.find?_some hm
          have hk : f.name ∉ seen := fun hc => hs (by simpa [hn] using hc)
          refine hi (fun f hm hn => hf f hm fun hc => hn (List.mem_cons_of_mem key hc)) h ?_
          exact hf f (List.mem_of_find?_eq_some hm) hk d r r₁ (Outcome.mapError_eq_ok h₁) hr
      case h_2 =>
        have ⟨_, _, h⟩ := Outcome.bind_eq_ok h
        exact hi hf h hr

theorem readItems_keeps {fs rest : List (Field ρ)} {ds more : List Document} {r r' : ρ} {i : Nat}
    (hf : ∀ f ∈ fs, f.Keeps s P) (h : readItems s r i fs ds = .ok (r', rest, more)) (hr : P r) :
    P r' := by
  induction fs generalizing ds r i
  case nil => cases h; exact hr
  case cons f fs hi =>
    cases ds
    case nil => cases h; exact hr
    case cons d ds =>
      have ⟨r₁, h₁, h⟩ := Outcome.bind_eq_ok h
      have ⟨hf₁, hf⟩ := List.forall_mem_cons.mp hf
      exact hi hf h (hf₁ d r r₁ (Outcome.mapError_eq_ok h₁) hr)

theorem readMembers_of_decode {ms : List (Option String × Document)} {closed : Bool} {r : ρ}
    (h : shape.decode s (.object ms closed) = .ok r) : ∃ s' seen, Decoder.enter s = .ok s' ∧
      shape.readMembers s' [] shape.blank ms = .ok (r, seen) := by
  have ⟨s', he, h⟩ := Outcome.bind_eq_ok h
  have ⟨⟨r', seen⟩, hm, h⟩ := Outcome.bind_eq_ok h
  have hs : r' = r := by
    dsimp only at h
    repeat' split at h
    all_goals cases h; try rfl
  exact ⟨s', seen, he, hs ▸ hm⟩

-- The field of a first member is read into the blank record, and is not read again.
theorem decode_first {key : String} {d : Document} {ms : List (Option String × Document)}
    {closed : Bool} {f : Field ρ} {r : ρ} (hf : shape.fields.find? (·.name == key) = some f)
    (h : shape.decode s (.object ((some key, d) :: ms) closed) = .ok r) :
    ∃ s' r', f.read s' d shape.blank = .ok r' ∧
      ∀ P, (∀ g ∈ shape.fields, g.name ≠ key → g.Keeps s' P) → P r' → P r := by
  have ⟨s', seen, _, hm⟩ := readMembers_of_decode h
  unfold readMembers at hm
  simp only [hf, List.contains_nil, Bool.false_eq_true, if_false] at hm
  have ⟨r', hr, hm⟩ := Outcome.bind_eq_ok hm
  refine ⟨s', r', Outcome.mapError_eq_ok hr, fun P hg hp => readMembers_keeps ?_ hm hp⟩
  exact fun g hm hn => hg g hm fun hk => hn (List.mem_singleton.mpr hk)

theorem decode_keeps {d : Document} {r : ρ}
    (hf : ∀ room, s.room = room + 1 → ∀ f ∈ shape.fields, f.Keeps ⟨s.source, room⟩ P)
    (hb : P shape.blank) (h : shape.decode s d = .ok r) : P r := by
  have enter {s' : Setting} (he : Decoder.enter s = .ok s') : ∀ f ∈ shape.fields, f.Keeps s' P := by
    unfold Decoder.enter at he
    split at he
    case h_1 => cases he
    case h_2 room hr => cases he; exact hf room hr
  unfold decode at h
  split at h
  case h_1 =>
    have ⟨s', _, he, hm⟩ := readMembers_of_decode h
    exact readMembers_keeps (fun f hm _ => enter he f hm) hm hb
  case h_2 =>
    have ⟨s', he, h⟩ := Outcome.bind_eq_ok h
    have ⟨⟨r', fs, ds⟩, hm, h⟩ := Outcome.bind_eq_ok h
    have hr := readItems_keeps (enter he) hm hb
    have hs : r' = r := by
      dsimp only at h
      repeat' split at h
      all_goals cases h; try rfl
    exact hs ▸ hr
  case h_3 => cases h

section Steps

variable {r : ρ} {ms : Members} {key : String} {seen : List String} {j : Json}

theorem readMembers_known {f : Field ρ} (hf : shape.fields.find? (·.name == key) = some f)
    (hk : key ∉ seen) : shape.readMembers s seen r (Document.ofMembers ((key, j) :: ms)) =
      ((f.read s (.ofValue j) r).mapError (.inside key)).bind
        (shape.readMembers s (key :: seen) · (Document.ofMembers ms)) := by
  have hc : seen.contains key = false := by simpa using hk
  simp only [Document.ofMembers, readMembers, hf, hc, Bool.false_eq_true, if_false]
  rfl

theorem readMembers_field {presence : Field.Presence} {name : String} {decode : Decoder α}
    {put : α → ρ → ρ} {a : α}
    (hf : shape.fields.find? (·.name == key) = some (.of presence name decode put))
    (hk : key ∉ seen) (hd : decode s (.ofValue j) = .ok a) :
    shape.readMembers s seen r (Document.ofMembers ((key, j) :: ms)) =
      shape.readMembers s (key :: seen) (put a r) (Document.ofMembers ms) := by
  rw [readMembers_known hf hk]
  simp only [Field.of, hd]
  rfl

theorem readMembers_fault {presence : Field.Presence} {name : String} {decode : Decoder α}
    {put : α → ρ → ρ} {fault : Fault}
    (hf : shape.fields.find? (·.name == key) = some (.of presence name decode put))
    (hk : key ∉ seen) (hd : decode s (.ofValue j) = .error fault) :
    shape.readMembers s seen r (Document.ofMembers ((key, j) :: ms)) =
      .error (.inside key fault) := by
  rw [readMembers_known hf hk]
  simp only [Field.of, hd]
  rfl

theorem readMembers_unknown (hf : shape.fields.find? (·.name == key) = none) :
    shape.readMembers s seen r (Document.ofMembers ((key, j) :: ms)) =
      shape.readMembers s seen r (Document.ofMembers ms) := by
  have hw : (Document.ofValue j).whole = true := by cases j <;> rfl
  simp only [Document.ofMembers, readMembers, hf, Decoder.ignored, hw]
  rfl

-- The first field that an object must have and that is not among the names.
def missing? (shape : Shape ρ) (seen : List String) : Option (Field ρ) :=
  shape.fields.find? fun f => f.presence == .required && !seen.contains f.name

theorem decode_object {source : Source} {room : Nat} :
    shape.decode ⟨source, room + 1⟩ (.ofValue (.object ms)) =
      (shape.readMembers ⟨source, room⟩ [] shape.blank (Document.ofMembers ms)).bind
        fun (r, seen) => match shape.missing? seen with
          | some f => .error (.missingField f.name)
          | none => .ok r := by
  rfl

end Steps

-- Members, in their order, that take a record to another.
inductive Reads (shape : Shape ρ) (s : Setting) : ρ → Members → ρ → Prop
  | nil {r : ρ} : Reads shape s r [] r
  | cons {r r₁ r₂ : ρ} {f : Field ρ} {key : String} {j : Json} {ms : Members} :
    shape.fields.find? (·.name == key) = some f → f.read s (.ofValue j) r = .ok r₁ →
    Reads shape s r₁ ms r₂ → Reads shape s r ((key, j) :: ms) r₂

namespace Reads

variable {r r₁ r₂ : ρ} {ms ms' : Members} {f : Field ρ} {key : String}

theorem append (h : shape.Reads s r ms r₁) (h' : shape.Reads s r₁ ms' r₂) :
    shape.Reads s r (ms ++ ms') r₂ := by
  induction h
  case nil => exact h'
  case cons hf hr _ hi => exact .cons hf hr (hi h')

section

variable {presence : Field.Presence} {name : String} {put : α → ρ → ρ} {decode : Decoder α} {a : α}

theorem field {j : Json}
    (hf : shape.fields.find? (·.name == key) = some (.of presence name decode put))
    (hr : decode s (.ofValue j) = .ok a) : shape.Reads s r [(key, j)] (put a r) :=
  .cons hf (congrArg (Except.map _) hr) .nil

end

-- A member that is left out where there is nothing to write.
theorem maybe {presence : Field.Presence} {name : String} {put : Option α → ρ → ρ}
    {decode : Decoder α} {o : Option α} {write : α → Json}
    (hf : shape.fields.find? (·.name == key) = some (.of presence name (.optional decode) put))
    (hb : put none r = r)
    (hr : ∀ a, o = some a → write a ≠ .null ∧ decode s (.ofValue (write a)) = .ok a) :
    shape.Reads s r (o.map fun a => (key, write a)).toList (put o r) := by
  cases o
  case none => exact hb.symm ▸ .nil
  case some a =>
    have ⟨hn, hd⟩ := hr a rfl
    exact field hf (Decoder.optional_eq_some hn hd)

-- A field that comes twice is a fault, so the induction has to know that no key has been seen.
theorem readMembers (h : shape.Reads s r ms r₁) (seen : List String) (hn : ms.keys.Nodup)
    (hs : ∀ key ∈ ms.keys, key ∉ seen) :
    ∃ seen', shape.readMembers s seen r (Document.ofMembers ms) = .ok (r₁, seen') ∧
      ∀ key ∈ ms.keys ++ seen, key ∈ seen' := by
  induction h generalizing seen
  case nil => exact ⟨seen, rfl, fun _ hk => hk⟩
  case cons key j ms hf hr _ hi =>
    have ⟨hk, hn⟩ := List.nodup_cons.mp hn
    have ⟨hks, hs⟩ := List.forall_mem_cons.mp hs
    have hs' : ∀ k ∈ ms.keys, k ∉ key :: seen := by
      intro k hm hc
      cases List.mem_cons.mp hc
      case inl he => exact hk (he ▸ hm)
      case inr hc => exact hs k hm hc
    have ⟨seen', he, hm⟩ := hi (key :: seen) hn hs'
    refine ⟨seen', ?_, fun k hk => hm k (List.perm_middle.mem_iff.mpr hk)⟩
    rw [readMembers_known hf hks, hr]
    exact he

end Reads

-- The names of the fields that may not be missing.
def required (shape : Shape ρ) : List String :=
  (shape.fields.filter (·.presence == .required)).map (·.name)

-- Members that each give their field are the record, if no field is missing.
theorem decode_of_reads {source : Source} {room : Nat} {r : ρ} {ms : Members}
    (h : shape.Reads ⟨source, room⟩ shape.blank ms r) (hn : ms.keys.Nodup)
    (hr : shape.required ⊆ ms.keys) :
    shape.decode ⟨source, room + 1⟩ (.ofValue (.object ms)) = .ok r := by
  have ⟨seen, he, hm⟩ := h.readMembers [] hn fun _ _ => List.not_mem_nil
  have hf : shape.missing? seen = none := by
    refine List.find?_eq_none.mpr fun f hf hc => ?_
    simp only [Bool.and_eq_true, Bool.not_eq_true', List.contains_eq_mem,
      decide_eq_false_iff_not] at hc
    have hk : f.name ∈ shape.required :=
      List.mem_map_of_mem (List.mem_filter.mpr ⟨hf, hc.left⟩)
    exact hc.right (hm _ (List.mem_append_left _ (hr hk)))
  rw [decode_object, he]
  simp only [Except.bind, hf]

end Shape

namespace Decoder

theorem list_keeps {P : α → Prop} {decode : Decoder α} {d : Document} {as : List α}
    (hp : ∀ room, s.room = room + 1 → ∀ d a, decode ⟨s.source, room⟩ d = .ok a → P a)
    (h : list decode s d = .ok as) : ∀ a ∈ as, P a := by
  have enter {s' : Setting} (he : enter s = .ok s') : ∀ d a, decode s' d = .ok a → P a := by
    unfold Decoder.enter at he
    split at he
    case h_1 => cases he
    case h_2 room hr => cases he; exact hp room hr
  have items {s' : Setting} (hp : ∀ d a, decode s' d = .ok a → P a) {ds : List Document} {i : Nat}
      {as : List α} (h : list.go decode s' ds i = .ok as) : ∀ a ∈ as, P a := by
    induction ds generalizing i as
    case nil => cases h; exact List.forall_mem_nil _
    case cons d ds hi =>
      have ⟨a, ha, h⟩ := Outcome.bind_eq_ok h
      have ⟨as, hs, h⟩ := Outcome.bind_eq_ok h
      cases h
      exact List.forall_mem_cons.mpr ⟨hp d a (Outcome.mapError_eq_ok ha), hi hs⟩
  unfold list at h
  split at h
  case h_1 =>
    have ⟨s', he, h⟩ := Outcome.bind_eq_ok h
    have ⟨as', hs, h⟩ := Outcome.bind_eq_ok h
    split at h
    case isTrue => cases h; exact items (enter he) hs
    case isFalse => cases h
  case h_2 => cases h

theorem eq_ok_of_optional {decode : Decoder α} {d : Document} {a : α}
    (h : optional decode s d = .ok (some a)) : d ≠ .null ∧ decode s d = .ok a := by
  cases d
  case null => cases h
  all_goals
    have ⟨_, ha, he⟩ := Outcome.map_eq_ok h
    cases he
    exact ⟨Document.noConfusion, ha⟩

theorem value?_of_value {d : Document} {j : Json} (h : value s d = .ok j) :
    d.value? s.room = some j := by
  unfold value at h
  split at h
  case h_1 hj => cases h; exact hj
  case h_2 => cases h

theorem list_ofItems {decode : Decoder α} {source : Source} {room : Nat} {as : List α}
    {write : α → Json} (h : ∀ a ∈ as, decode ⟨source, room⟩ (.ofValue (write a)) = .ok a) :
    list decode ⟨source, room + 1⟩ (.ofValue (.array (as.map write))) = .ok as := by
  have hg (i : Nat) : list.go decode ⟨source, room⟩ (Document.ofItems (as.map write)) i =
      .ok as := by
    induction as generalizing i
    case nil => rfl
    case cons a as hi =>
      have ⟨ha, hs⟩ := List.forall_mem_cons.mp h
      simp only [List.map_cons, Document.ofItems, list.go, ha, hi hs (i + 1)]
      rfl
  simp only [Document.ofValue, list, enter, bind, Except.bind, hg]
  rfl

end Decoder

theorem decode_of_decodeText {decode : Decoder α} {text : List Text.Glyph} {a : α}
    (h : decodeText decode text = .ok a) :
    decode ⟨.text, nestingLimit⟩ (Document.read text).1 = .ok a := by
  unfold decodeText at h
  generalize Document.read text = r at h ⊢
  have ⟨a', ha, h⟩ := Outcome.bind_eq_ok h
  split at h
  case isTrue => cases h; exact ha
  case isFalse => cases h

end AnomalyDetection.Json

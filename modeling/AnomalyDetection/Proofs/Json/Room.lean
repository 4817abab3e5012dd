import AnomalyDetection.Proofs.Json.Shape

namespace AnomalyDetection.Json

namespace Document

mutual

-- How many arrays and objects are nested in one another.
def depth : Document → Nat
  | array items _ => depthItems items + 1
  | object ms _ => depthMembers ms + 1
  | _ => 0

def depthItems : List Document → Nat
  | [] => 0
  | d :: ds => max d.depth (depthItems ds)

def depthMembers : List (Option String × Document) → Nat
  | [] => 0
  | (_, d) :: ms => max d.depth (depthMembers ms)

end

theorem depthItems_le {ds : List Document} {n : Nat} :
    depthItems ds ≤ n ↔ ∀ d ∈ ds, d.depth ≤ n := by
  induction ds
  case nil => simp [depthItems]
  case cons hi => rw [depthItems, Nat.max_le, hi, List.forall_mem_cons]

theorem depthMembers_le {ms : List (Option String × Document)} {n : Nat} :
    depthMembers ms ≤ n ↔ ∀ m ∈ ms, m.2.depth ≤ n := by
  induction ms
  case nil => simp [depthMembers]
  case cons hi => rw [depthMembers, Nat.max_le, hi, List.forall_mem_cons]

mutual

theorem value?_spare : ∀ {d : Document} {room : Nat}, d.depth ≤ room →
    d.value? (room + 1) = d.value? room
  | .broken, _, _ => rfl
  | .null, _, _ => rfl
  | .bool _, _, _ => rfl
  | .number _, _, _ => rfl
  | .string _, _, _ => rfl
  | .array _ false, room, _ => by cases room <;> rfl
  | .object _ false, room, _ => by cases room <;> rfl
  | .array items true, room + 1, h =>
    congrArg (Option.map _) (items?_spare (Nat.le_of_succ_le_succ h))
  | .object ms true, room + 1, h =>
    congrArg (Option.map _) (members?_spare (Nat.le_of_succ_le_succ h))

theorem items?_spare : ∀ {ds : List Document} {room : Nat}, depthItems ds ≤ room →
    items? (room + 1) ds = items? room ds
  | [], _, _ => rfl
  | d :: ds, room, h => by
    have ⟨hd, hs⟩ := Nat.max_le.mp h
    simp only [items?, value?_spare hd, items?_spare hs]

theorem members?_spare : ∀ {ms : List (Option String × Document)} {room : Nat},
    depthMembers ms ≤ room → members? (room + 1) ms = members? room ms
  | [], _, _ => rfl
  | (_, d) :: ms, room, h => by
    have ⟨hd, hs⟩ := Nat.max_le.mp h
    simp only [members?, value?_spare hd, members?_spare hs]

end

end Document

-- What is read off a tree with just enough room is read off it with more.
def Decoder.Spares (decode : Decoder α) : Prop :=
  ∀ source room (d : Document), d.depth ≤ room →
    decode ⟨source, room + 1⟩ d = decode ⟨source, room⟩ d

def Field.Spares (f : Field ρ) : Prop :=
  ∀ source room (d : Document) r, d.depth ≤ room →
    f.read ⟨source, room + 1⟩ d r = f.read ⟨source, room⟩ d r

theorem Field.Spares.of {presence : Field.Presence} {name : String} {decode : Decoder α}
    {put : α → ρ → ρ} (h : decode.Spares) : (Field.of presence name decode put).Spares :=
  fun source room d _ hd => congrArg (Except.map _) (h source room d hd)

namespace Decoder.Spares

theorem string : Decoder.string.Spares := by
  intro _ _ d _
  unfold Decoder.string
  split <;> rfl

theorem bool : Decoder.bool.Spares := fun _ _ d _ => by cases d <;> rfl

theorem natural (bound : Nat) (expected : String) :
    (Decoder.natural bound expected).Spares := by
  intro _ _ d _
  unfold Decoder.natural
  split <;> rfl

theorem uint64 (expected : String) : (Decoder.uint64 expected).Spares :=
  fun source room d hd => congrArg (Except.map _) (natural _ _ source room d hd)

theorem uint32 : Decoder.uint32.Spares :=
  fun source room d hd => congrArg (Except.map _) (natural _ _ source room d hd)

theorem value : Decoder.value.Spares := fun _ _ _ hd => by
  simp only [Decoder.value, Document.value?_spare hd]

theorem optional {decode : Decoder α} (h : decode.Spares) : (Decoder.optional decode).Spares := by
  intro source room d hd
  cases d
  case null => rfl
  all_goals exact congrArg (Except.map some) (h source room _ hd)

theorem list {decode : Decoder α} (h : decode.Spares) : (Decoder.list decode).Spares := by
  intro source room d hd
  cases d
  case array items closed =>
    cases room
    case zero => cases hd
    case succ room =>
      have hg (ds : List Document) (i : Nat) (hs : ∀ d ∈ ds, d.depth ≤ room) :
          Decoder.list.go decode ⟨source, room + 1⟩ ds i =
            Decoder.list.go decode ⟨source, room⟩ ds i := by
        induction ds generalizing i
        case nil => rfl
        case cons d ds hi =>
          have ⟨hd, hs⟩ := List.forall_mem_cons.mp hs
          simp only [Decoder.list.go, h source room d hd, hi (i + 1) hs]
      simp only [Decoder.list, enter, bind, Except.bind,
        hg items 0 (Document.depthItems_le.mp (Nat.le_of_succ_le_succ hd))]
  all_goals rfl

theorem variant (variants : List (String × α)) : (Decoder.variant variants).Spares := by
  intro source room d hd
  cases d
  case object ms closed =>
    cases room
    case zero => cases hd
    case succ room =>
      cases source
      case value => rfl
      case text =>
        cases ms
        case nil => rfl
        case cons m ms => obtain ⟨_ | name, d⟩ := m <;> rfl
  case string s => cases s <;> rfl
  all_goals cases source <;> rfl

end Decoder.Spares

namespace Shape

variable {shape : Shape ρ}

theorem readMembers_spare (h : ∀ f ∈ shape.fields, f.Spares) {source : Source} {room : Nat}
    {ms : List (Option String × Document)} (hd : ∀ m ∈ ms, m.2.depth ≤ room) (seen : List String)
    (r : ρ) : shape.readMembers ⟨source, room + 1⟩ seen r ms =
      shape.readMembers ⟨source, room⟩ seen r ms := by
  induction ms generalizing seen r
  case nil => rfl
  case cons m ms hi =>
    have ⟨hm, hs⟩ := List.forall_mem_cons.mp hd
    obtain ⟨_ | key, d⟩ := m
    case none => rfl
    case some =>
      unfold readMembers
      split
      case h_1 f hf =>
        simp only [h f (List.mem_of_find?_eq_some hf) source room d r hm, hi hs]
      case h_2 => simp only [hi hs]; rfl

theorem readItems_spare {fs : List (Field ρ)} (h : ∀ f ∈ fs, f.Spares) {source : Source}
    {room : Nat} {ds : List Document} (hd : ∀ d ∈ ds, d.depth ≤ room) (r : ρ) (i : Nat) :
    readItems ⟨source, room + 1⟩ r i fs ds = readItems ⟨source, room⟩ r i fs ds := by
  induction fs generalizing ds r i
  case nil => rfl
  case cons f fs hi =>
    cases ds
    case nil => rfl
    case cons d ds =>
      have ⟨hf, hfs⟩ := List.forall_mem_cons.mp h
      have ⟨hd, hds⟩ := List.forall_mem_cons.mp hd
      simp only [readItems, hf source room d r hd, hi hfs hds]

theorem spares (h : ∀ f ∈ shape.fields, f.Spares) : shape.decode.Spares := by
  intro source room d hd
  cases d
  case array items closed =>
    cases room
    case zero => cases hd
    case succ room =>
      have hi := Document.depthItems_le.mp (Nat.le_of_succ_le_succ hd)
      simp only [decode, Decoder.enter, bind, Except.bind, readItems_spare h hi]
  case object ms closed =>
    cases room
    case zero => cases hd
    case succ room =>
      have hm := Document.depthMembers_le.mp (Nat.le_of_succ_le_succ hd)
      simp only [decode, Decoder.enter, bind, Except.bind, readMembers_spare h hm]
  all_goals rfl

end Shape
end AnomalyDetection.Json

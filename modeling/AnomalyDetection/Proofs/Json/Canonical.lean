import AnomalyDetection.Json.Document
import AnomalyDetection.Proofs.Json.Order

namespace AnomalyDetection.Json

-- Induction over values, with the hypothesis for every item and every member at once.
mutual

theorem induct {P : Json → Prop} (null : P null) (bool : ∀ b, P (bool b))
    (number : ∀ n, P (number n)) (string : ∀ s, P (string s))
    (array : ∀ items, (∀ j ∈ items, P j) → P (array items))
    (object : ∀ ms, (∀ m ∈ ms, P m.2) → P (object ms)) : ∀ j, P j
  | .null => null
  | .bool b => bool b
  | .number n => number n
  | .string s => string s
  | .array items => array items (inductItems null bool number string array object items)
  | .object ms => object ms (inductMembers null bool number string array object ms)

theorem inductItems {P : Json → Prop} (null : P null) (bool : ∀ b, P (bool b))
    (number : ∀ n, P (number n)) (string : ∀ s, P (string s))
    (array : ∀ items, (∀ j ∈ items, P j) → P (array items))
    (object : ∀ ms, (∀ m ∈ ms, P m.2) → P (object ms)) : ∀ items : List Json, ∀ j ∈ items, P j
  | [] => List.forall_mem_nil _
  | j :: js => List.forall_mem_cons.mpr
    ⟨induct null bool number string array object j,
      inductItems null bool number string array object js⟩

theorem inductMembers {P : Json → Prop} (null : P null) (bool : ∀ b, P (bool b))
    (number : ∀ n, P (number n)) (string : ∀ s, P (string s))
    (array : ∀ items, (∀ j ∈ items, P j) → P (array items))
    (object : ∀ ms, (∀ m ∈ ms, P m.2) → P (object ms)) : ∀ ms : Members, ∀ m ∈ ms, P m.2
  | [] => List.forall_mem_nil _
  | (_, j) :: ms => List.forall_mem_cons.mpr
    ⟨induct null bool number string array object j,
      inductMembers null bool number string array object ms⟩

end

mutual

-- How many arrays and objects are nested in one another.
def depth : Json → Nat
  | array items => depthItems items + 1
  | object ms => depthMembers ms + 1
  | _ => 0

def depthItems : List Json → Nat
  | [] => 0
  | j :: js => max j.depth (depthItems js)

def depthMembers : Members → Nat
  | [] => 0
  | (_, j) :: ms => max j.depth (depthMembers ms)

end

inductive Mentions (n : Number) : Json → Prop
  | number : Mentions n (number n)
  | item {j : Json} {items : List Json} : j ∈ items → Mentions n j → Mentions n (array items)
  | member {m : String × Json} {ms : Members} : m ∈ ms → Mentions n m.2 → Mentions n (object ms)

-- Every object in the value has its members in order.
inductive IsSorted : Json → Prop
  | null : IsSorted null
  | bool (b : Bool) : IsSorted (bool b)
  | number (n : Number) : IsSorted (number n)
  | string (s : String) : IsSorted (string s)
  | array {items : List Json} : (∀ j ∈ items, IsSorted j) → IsSorted (array items)
  | object {ms : Members} : ms.Ordered → (∀ m ∈ ms, IsSorted m.2) → IsSorted (object ms)

theorem depthItems_le {items : List Json} {n : Nat} :
    depthItems items ≤ n ↔ ∀ j ∈ items, j.depth ≤ n := by
  induction items
  case nil => simp [depthItems]
  case cons hi => rw [depthItems, Nat.max_le, hi, List.forall_mem_cons]

theorem depthMembers_le {ms : Members} {n : Nat} :
    depthMembers ms ≤ n ↔ ∀ m ∈ ms, m.2.depth ≤ n := by
  induction ms
  case nil => simp [depthMembers]
  case cons hi => rw [depthMembers, Nat.max_le, hi, List.forall_mem_cons]

theorem sortedItems_eq_map (items : List Json) : sortedItems items = items.map sorted := by
  induction items
  case nil => rfl
  case cons hi => simp only [sortedItems, List.map_cons, hi]

theorem sortedMembers_eq_map (ms : Members) :
    sortedMembers ms = ms.map fun m => (m.1, m.2.sorted) := by
  induction ms
  case nil => rfl
  case cons hi => simp only [sortedMembers, List.map_cons, hi]

theorem ofMembers_eq (ms : Members) : ofMembers ms = object (Members.arranged ms) := rfl

theorem sorted_array (items : List Json) : (array items).sorted = array (items.map sorted) := by
  rw [sorted, sortedItems_eq_map]

theorem sorted_object {ms ms' : Members} (h : ms'.Ordered)
    (hp : (ms.map fun m => (m.1, m.2.sorted)).Perm ms') : (object ms).sorted = object ms' := by
  rw [sorted, sortedMembers_eq_map, ofMembers_eq, Members.arranged_eq_of_perm h hp]

theorem IsSorted.sorted_eq {j : Json} (h : j.IsSorted) : j.sorted = j := by
  induction h
  case null => rfl
  case bool => rfl
  case number => rfl
  case string => rfl
  case array items _ hi =>
    have he : items.map sorted = items := List.map_congr_left hi |>.trans (List.map_id _)
    rw [sorted_array, he]
  case object ms ho _ hi =>
    have he : (ms.map fun m => (m.1, m.2.sorted)) = ms := by
      refine (List.map_congr_left fun m hm => ?_).trans (List.map_id _)
      rw [hi m hm]
      rfl
    exact sorted_object ho (.of_eq he)

theorem mentions_of_sorted {n : Number} {j : Json} (h : j.sorted.Mentions n) : j.Mentions n := by
  induction j using induct
  case null => exact h
  case bool => exact h
  case number => exact h
  case string => exact h
  case array items hi =>
    rw [sorted_array] at h
    cases h
    case item hm hj =>
      have ⟨j, hj, he⟩ := List.mem_map.mp hj
      exact .item hj (hi j hj (he ▸ hm))
  case object ms hi =>
    rw [sorted, sortedMembers_eq_map, ofMembers_eq] at h
    cases h
    case member hn hm =>
      have ⟨m, hs, he⟩ := List.mem_map.mp (Members.mem_of_mem_arranged hm)
      subst he
      exact .member hs (hi m hs hn)

namespace Document

theorem items?_eq_some {room : Nat} {items : List Json}
    (h : ∀ j ∈ items, (ofValue j).value? room = some j.sorted) :
    items? room (ofItems items) = some (sortedItems items) := by
  induction items
  case nil => rfl
  case cons j js hi =>
    have ⟨hj, hs⟩ := List.forall_mem_cons.mp h
    simp only [ofItems, items?, hj, hi hs, sortedItems]
    rfl

theorem members?_eq_some {room : Nat} {ms : Members}
    (h : ∀ m ∈ ms, (ofValue m.2).value? room = some m.2.sorted) :
    members? room (ofMembers ms) = some (sortedMembers ms) := by
  induction ms
  case nil => rfl
  case cons m ms hi =>
    have ⟨hm, hs⟩ := List.forall_mem_cons.mp h
    simp only [ofMembers, members?, hm, hi hs, sortedMembers]
    rfl

theorem items?_eq_none {room : Nat} {items : List Json}
    (h : ∃ j ∈ items, (ofValue j).value? room = none) : items? room (ofItems items) = none := by
  induction items
  case nil => simp at h
  case cons j js hi =>
    simp only [ofItems, items?]
    cases hj : (ofValue j).value? room
    case none => rfl
    case some =>
      have hs : ∃ j ∈ js, (ofValue j).value? room = none := by simpa [hj] using h
      rw [hi hs]
      rfl

theorem members?_eq_none {room : Nat} {ms : Members}
    (h : ∃ m ∈ ms, (ofValue m.2).value? room = none) : members? room (ofMembers ms) = none := by
  induction ms
  case nil => simp at h
  case cons m ms hi =>
    simp only [ofMembers, members?]
    cases hm : (ofValue m.2).value? room
    case none => rfl
    case some =>
      have hs : ∃ m ∈ ms, (ofValue m.2).value? room = none := by simpa [hm] using h
      rw [hi hs]
      rfl

-- A tree without faults gives a value just if there is room for it.
theorem value?_ofValue {j : Json} {room : Nat} (h : j.depth ≤ room) :
    (ofValue j).value? room = some j.sorted := by
  induction j using induct generalizing room
  case null => rfl
  case bool => rfl
  case number => rfl
  case string => rfl
  case array items hi =>
    cases room
    case zero => cases h
    case succ room =>
      have hr := depthItems_le.mp (Nat.le_of_succ_le_succ h)
      simp only [ofValue, value?, items?_eq_some fun j hj => hi j hj (hr j hj), sorted]
      rfl
  case object ms hi =>
    cases room
    case zero => cases h
    case succ room =>
      have hr := depthMembers_le.mp (Nat.le_of_succ_le_succ h)
      simp only [ofValue, value?, members?_eq_some fun m hm => hi m hm (hr m hm), sorted]
      rfl

theorem value?_ofValue_eq_none {j : Json} {room : Nat} (h : room < j.depth) :
    (ofValue j).value? room = none := by
  induction j using induct generalizing room
  case null => cases h
  case bool => cases h
  case number => cases h
  case string => cases h
  case array items hi =>
    cases room
    case zero => rfl
    case succ room =>
      have ⟨j, hj, hd⟩ : ∃ j ∈ items, room < j.depth := by
        have hn : ¬depthItems items ≤ room := Nat.not_le.mpr (Nat.lt_of_succ_lt_succ h)
        simpa [depthItems_le] using hn
      simp only [ofValue, value?, items?_eq_none ⟨j, hj, hi j hj hd⟩]
      rfl
  case object ms hi =>
    cases room
    case zero => rfl
    case succ room =>
      have ⟨m, hm, hd⟩ : ∃ m ∈ ms, room < m.2.depth := by
        have hn : ¬depthMembers ms ≤ room := Nat.not_le.mpr (Nat.lt_of_succ_lt_succ h)
        simpa [depthMembers_le] using hn
      simp only [ofValue, value?, members?_eq_none ⟨m, hm, hi m hm hd⟩]
      rfl

theorem eq_null_of_value? {d : Document} {room : Nat} (h : d.value? room = some .null) :
    d = .null := by
  cases d
  case null => rfl
  case broken => cases h
  case bool => cases h
  case number n => cases n <;> cases h
  case string s => cases s <;> cases h
  case array items closed =>
    cases room <;> cases closed <;> simp [value?] at h
  case object ms closed =>
    cases room <;> cases closed <;> simp [value?, Json.ofMembers] at h

mutual

-- What comes out of a reader is in order, and fits into the room that there was.
theorem sorted_of_value? : ∀ {d : Document} {room : Nat} {j : Json}, d.value? room = some j →
    j.IsSorted ∧ j.depth ≤ room
  | .null, _, _, rfl => ⟨.null, Nat.zero_le _⟩
  | .bool b, _, _, rfl => ⟨.bool b, Nat.zero_le _⟩
  | .number (some n), _, _, rfl => ⟨.number n, Nat.zero_le _⟩
  | .string (some s), _, _, rfl => ⟨.string s, Nat.zero_le _⟩
  | .array items true, room + 1, j, h => by
    have ⟨js, hs, he⟩ := Option.map_eq_some_iff.mp h
    have hi := sorted_of_items? hs
    subst he
    refine ⟨.array fun j hj => (hi j hj).left, Nat.succ_le_succ (depthItems_le.mpr ?_)⟩
    exact fun j hj => (hi j hj).right
  | .array _ false, room, _, h => by cases room <;> cases h
  | .object _ false, room, _, h => by cases room <;> cases h
  | .object ms true, room + 1, j, h => by
    have ⟨js, hs, he⟩ := Option.map_eq_some_iff.mp h
    have hi := sorted_of_members? hs
    subst he
    refine ⟨.object (Members.ordered_arranged js) fun m hm => ?sorted,
      Nat.succ_le_succ (depthMembers_le.mpr fun m hm => ?depth)⟩
    case sorted => exact (hi m (Members.mem_of_mem_arranged hm)).left
    case depth => exact (hi m (Members.mem_of_mem_arranged hm)).right

theorem sorted_of_items? : ∀ {ds : List Document} {room : Nat} {js : List Json},
    items? room ds = some js → ∀ j ∈ js, j.IsSorted ∧ j.depth ≤ room
  | [], _, _, rfl => List.forall_mem_nil _
  | d :: ds, room, _, h => by
    have ⟨j, hj, h⟩ := Option.bind_eq_some_iff.mp h
    have ⟨js, hs, h⟩ := Option.bind_eq_some_iff.mp h
    cases h
    exact List.forall_mem_cons.mpr ⟨sorted_of_value? hj, sorted_of_items? hs⟩

theorem sorted_of_members? : ∀ {ds : List (Option String × Document)} {room : Nat} {js : Members},
    members? room ds = some js → ∀ m ∈ js, m.2.IsSorted ∧ m.2.depth ≤ room
  | [], _, _, rfl => List.forall_mem_nil _
  | (key, d) :: ds, room, _, h => by
    have ⟨k, _, h⟩ := Option.bind_eq_some_iff.mp h
    have ⟨j, hj, h⟩ := Option.bind_eq_some_iff.mp h
    have ⟨js, hs, h⟩ := Option.bind_eq_some_iff.mp h
    cases h
    exact List.forall_mem_cons.mpr ⟨sorted_of_value? hj, sorted_of_members? hs⟩

end

end Document

theorem isSorted_sorted (j : Json) : j.sorted.IsSorted :=
  (Document.sorted_of_value? (Document.value?_ofValue (Nat.le_refl j.depth))).left

theorem depth_sorted_le {j : Json} {n : Nat} (h : j.depth ≤ n) : j.sorted.depth ≤ n :=
  (Document.sorted_of_value? (Document.value?_ofValue h)).right

end AnomalyDetection.Json

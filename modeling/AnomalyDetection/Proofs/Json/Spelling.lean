import AnomalyDetection.Proofs.Json.Canonical
import AnomalyDetection.Proofs.Json.Numeral

namespace AnomalyDetection.Json

-- The blanks of a written form: what stands in front of an item or member, by its level, and what
-- stands behind a colon.
structure Spacing where
  gap : Nat → List Char
  colon : List Char
  isSpace_gap : ∀ level, ∀ c ∈ gap level, Reader.isSpace c
  isSpace_colon : ∀ c ∈ colon, Reader.isSpace c

namespace Spacing

def none : Spacing where
  gap _ := []
  colon := []
  isSpace_gap _ := List.forall_mem_nil _
  isSpace_colon := List.forall_mem_nil _

theorem isSpace_newLine (level : Nat) : ∀ c ∈ newLine level, Reader.isSpace c := by
  refine List.forall_mem_cons.mpr ⟨rfl, fun c hc => ?_⟩
  rw [List.eq_of_mem_replicate hc]
  rfl

def wide : Spacing where
  gap := newLine
  colon := [' ']
  isSpace_gap := isSpace_newLine
  isSpace_colon := List.forall_mem_singleton.mpr rfl

end Spacing

section

variable (σ : Spacing)

mutual

def spelled (level : Nat) : Json → List Char
  | null => "null".toList
  | bool true => "true".toList
  | bool false => "false".toList
  | number n => n.text
  | string s => quoted s
  | array [] => ['[', ']']
  | array (j :: js) =>
    '[' :: (σ.gap (level + 1) ++ (j.spelled (level + 1) ++ spelledItems level js))
  | object [] => ['\x7b', '\x7d']
  | object ((k, j) :: ms) =>
    '\x7b' :: (σ.gap (level + 1) ++ (quoted k ++ ':' :: (σ.colon ++
      (j.spelled (level + 1) ++ spelledMembers level ms))))

def spelledItems (level : Nat) : List Json → List Char
  | [] => σ.gap level ++ [']']
  | j :: js => ',' :: (σ.gap (level + 1) ++ (j.spelled (level + 1) ++ spelledItems level js))

def spelledMembers (level : Nat) : Members → List Char
  | [] => σ.gap level ++ ['\x7d']
  | (k, j) :: ms =>
    ',' :: (σ.gap (level + 1) ++ (quoted k ++ ':' :: (σ.colon ++
      (j.spelled (level + 1) ++ spelledMembers level ms))))

end

-- The equations of a written form, for values and for what stands behind a first item or member.
structure Spells (value : Nat → Json → List Char) (items : Nat → List Json → List Char)
    (members : Nat → Members → List Char) : Prop where
  null level : value level null = "null".toList
  true level : value level (bool true) = "true".toList
  false level : value level (bool false) = "false".toList
  number level n : value level (number n) = n.text
  string level s : value level (string s) = quoted s
  emptyArray level : value level (array []) = ['[', ']']
  array level j js : value level (array (j :: js)) =
    '[' :: (σ.gap (level + 1) ++ (value (level + 1) j ++ items level js))
  emptyObject level : value level (object []) = ['\x7b', '\x7d']
  object level k j ms : value level (object ((k, j) :: ms)) =
    '\x7b' :: (σ.gap (level + 1) ++ (quoted k ++ ':' :: (σ.colon ++
      (value (level + 1) j ++ members level ms))))
  noItem level : items level [] = σ.gap level ++ [']']
  item level j js : items level (j :: js) =
    ',' :: (σ.gap (level + 1) ++ (value (level + 1) j ++ items level js))
  noMember level : members level [] = σ.gap level ++ ['\x7d']
  member level k j ms : members level ((k, j) :: ms) =
    ',' :: (σ.gap (level + 1) ++ (quoted k ++ ':' :: (σ.colon ++
      (value (level + 1) j ++ members level ms))))

end

namespace Spells

variable {σ : Spacing} {value : Nat → Json → List Char} {items : Nat → List Json → List Char}
  {members : Nat → Members → List Char} (h : Spells σ value items members)

include h

theorem items_eq {js : List Json} (level : Nat)
    (hj : ∀ j ∈ js, ∀ level, value level j = spelled σ level j) :
    items level js = spelledItems σ level js := by
  induction js
  case nil => exact h.noItem level
  case cons j js hi =>
    have ⟨hj, hs⟩ := List.forall_mem_cons.mp hj
    rw [h.item, hj, hi hs, spelledItems]

theorem members_eq {ms : Members} (level : Nat)
    (hm : ∀ m ∈ ms, ∀ level, value level m.2 = spelled σ level m.2) :
    members level ms = spelledMembers σ level ms := by
  induction ms
  case nil => exact h.noMember level
  case cons m ms hi =>
    have ⟨hm, hs⟩ := List.forall_mem_cons.mp hm
    rw [h.member, hm, hi hs, spelledMembers]

-- The equations leave no choice.
theorem value_eq (level : Nat) (j : Json) : value level j = spelled σ level j := by
  induction j using induct generalizing level
  case null => exact h.null level
  case bool b =>
    cases b
    case false => exact h.false level
    case true => exact h.true level
  case number n => exact h.number level n
  case string s => exact h.string level s
  case array js hi =>
    cases js
    case nil => exact h.emptyArray level
    case cons j js =>
      have ⟨hj, hs⟩ := List.forall_mem_cons.mp hi
      rw [h.array, hj, h.items_eq level hs, spelled]
  case object ms hi =>
    cases ms
    case nil => exact h.emptyObject level
    case cons m ms =>
      have ⟨hm, hs⟩ := List.forall_mem_cons.mp hi
      rw [h.object, hm, h.members_eq level hs, spelled]

end Spells

theorem spells_compact :
    Spells .none (fun _ => compact) (fun _ => compactItems) (fun _ => compactMembers) := by
  constructor <;> intros <;> simp only [compact, compactItems, compactMembers, Spacing.none,
    List.cons_append, List.append_assoc, List.nil_append]
  rfl

theorem spells_indented : Spells .wide indented indentedItems indentedMembers := by
  constructor <;> intros <;> simp only [indented, indentedItems, indentedMembers, Spacing.wide,
    List.cons_append, List.append_assoc] <;> rfl

theorem compact_eq_spelled (j : Json) : j.compact = j.spelled .none 0 :=
  spells_compact.value_eq 0 j

theorem indented_eq_spelled (level : Nat) (j : Json) : j.indented level = j.spelled .wide level :=
  spells_indented.value_eq level j

end AnomalyDetection.Json

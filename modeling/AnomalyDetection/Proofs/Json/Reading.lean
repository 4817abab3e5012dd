import AnomalyDetection.Proofs.Json.Spelling
import AnomalyDetection.Proofs.Text.Utf8

namespace AnomalyDetection.Json

namespace Reader

open Numeral (IsDelimiter)

def run (s : State) (text : List Char) : State :=
  (text.map some).foldl step s

theorem run_cons (s : State) (c : Char) (text : List Char) :
    run s (c :: text) = run (step s (some c)) text := rfl

theorem run_append (s : State) (a b : List Char) : run s (a ++ b) = run (run s a) b := by
  simp [run]

-- States that go on alike from any delimiter on.
def Settles (s t : State) : Prop := ∀ c, IsDelimiter c → step s (some c) = step t (some c)

theorem Settles.refl (s : State) : Settles s s := fun _ _ => rfl

-- Blanks change nothing.
def Waits (s : State) : Prop := ∀ c, isSpace c → step s (some c) = s

theorem Waits.run {s : State} (h : Waits s) {bs : List Char} (hb : ∀ c ∈ bs, isSpace c) :
    run s bs = s := by
  induction bs
  case nil => rfl
  case cons c bs hi =>
    have ⟨hc, hs⟩ := List.forall_mem_cons.mp hb
    rw [run_cons, h c hc, hi hs]

theorem Settles.run_blanks {s t : State} (h : Settles s t) (ht : Waits t) {bs : List Char}
    (hb : ∀ c ∈ bs, isSpace c) : Settles (Reader.run s bs) t := by
  cases bs
  case nil => exact h
  case cons c bs =>
    have ⟨hc, hs⟩ := List.forall_mem_cons.mp hb
    rw [run_cons, h c (Numeral.isDelimiter_of_isSpace hc), ht c hc, ht.run hs]
    exact .refl t

section

variable (fs : List Frame)

theorem waits_value : Waits ⟨fs, .value⟩ := fun _ h => if_pos h
theorem waits_valueOrClose : Waits ⟨fs, .valueOrClose⟩ := fun _ h => if_pos h
theorem waits_keyOrClose : Waits ⟨fs, .keyOrClose⟩ := fun _ h => if_pos h
theorem waits_key : Waits ⟨fs, .key⟩ := fun _ h => if_pos h
theorem waits_separator : Waits ⟨fs, .separator⟩ := fun _ h => if_pos h

end

-- A state in which a value may begin.
inductive Opens (fs : List Frame) : State → Prop
  | value : Opens fs ⟨fs, .value⟩
  | valueOrClose : Opens fs ⟨fs, .valueOrClose⟩

theorem Opens.step {fs : List Frame} {s : State} (h : Opens fs s) {c : Char}
    (hs : isSpace c = false) (hc : c ≠ ']') : Reader.step s (some c) = beginValue fs c := by
  cases h <;> simp [Reader.step, stepToken, hs, hc]

section Words

variable {fs : List Frame} {s : State} (h : Opens fs s)

include h

theorem run_null : run s "null".toList = complete .null fs := by
  have hs : "null".toList = ['n', 'u', 'l', 'l'] := rfl
  rw [hs, run_cons, h.step rfl (by decide)]
  rfl

theorem run_true : run s "true".toList = complete (.bool true) fs := by
  have hs : "true".toList = ['t', 'r', 'u', 'e'] := rfl
  rw [hs, run_cons, h.step rfl (by decide)]
  rfl

theorem run_false : run s "false".toList = complete (.bool false) fs := by
  have hs : "false".toList = ['f', 'a', 'l', 's', 'e'] := rfl
  rw [hs, run_cons, h.step rfl (by decide)]
  rfl

end Words

-- What the reader makes of a character as it is written.
def piece (c : Char) : Piece :=
  if c.toNat < 0x20 ∧ c ∉ ['\x08', '\x0c', '\n', '\r', '\t'] then .unit c.toNat else .char c

theorem hexDigit?_hexDigit : ∀ d < 16, hexDigit? (hexDigit d) = some d := by
  decide

theorem run_escape (fs : List Frame) (isKey : Bool) (done : List Piece) (c : Char) :
    run ⟨fs, .string isKey done .none⟩ (escape c) =
      ⟨fs, .string isKey (piece c :: done) .none⟩ := by
  by_cases hm : c ∈ ['"', '\\', '\x08', '\x0c', '\n', '\r', '\t']
  case pos =>
    simp only [List.mem_cons, List.not_mem_nil, or_false] at hm
    rcases hm with rfl | rfl | rfl | rfl | rfl | rfl | rfl <;> rfl
  case neg =>
    simp only [List.mem_cons, List.not_mem_nil, or_false, not_or] at hm
    obtain ⟨h₁, h₂, h₃, h₄, h₅, h₆, h₇⟩ := hm
    simp only [escape, h₁, h₂, h₃, h₄, h₅, h₆, h₇, if_false]
    by_cases hc : c.toNat < 0x20
    case pos =>
      have hp : piece c = .unit c.toNat := if_pos (by simp [hc, h₃, h₄, h₅, h₆, h₇])
      have hh := hexDigit?_hexDigit (c.toNat / 16) (by omega)
      have hl := hexDigit?_hexDigit (c.toNat % 16) (by omega)
      have hv : c.toNat / 16 * 16 + c.toNat % 16 = c.toNat := by omega
      have hz : hexDigit? '0' = some 0 := rfl
      have hu : stepString fs isKey done .slash (some 'u') =
        ⟨fs, .string isKey done (.hex 4 0)⟩ := rfl
      have hb : stepString fs isKey done .none (some '\\') =
        ⟨fs, .string isKey done .slash⟩ := rfl
      rw [if_pos hc, hp]
      simp only [run_cons, step, hb, hu]
      simp [run, stepString, hh, hl, hz, hv]
    case neg =>
      have hp : piece c = .char c := if_neg (fun h => hc h.left)
      rw [if_neg hc, hp]
      simp [run, step, stepString, h₁, h₂, hc]

theorem text?_map_piece (cs done : List Char) :
    text? (cs.map piece) done = some (cs.reverse ++ done) := by
  induction cs generalizing done
  case nil => rfl
  case cons c cs hi =>
    rw [List.map_cons, List.reverse_cons, List.append_assoc, List.singleton_append,
      ← hi (c :: done)]
    by_cases hc : c.toNat < 0x20 ∧ c ∉ ['\x08', '\x0c', '\n', '\r', '\t']
    case neg => rw [piece, if_neg hc, text?]
    case pos =>
      have hl : isLowSurrogate c.toNat = false := by simp [isLowSurrogate]; omega
      have hh : isHighSurrogate c.toNat = false := by simp [isHighSurrogate]; omega
      rw [piece, if_pos hc, text?.eq_def]
      simp only [hl, hh, Bool.false_eq_true, if_false, Char.ofNat_toNat]

theorem run_escapes (fs : List Frame) (isKey : Bool) (done : List Piece) (cs : List Char) :
    run ⟨fs, .string isKey done .none⟩ (cs.flatMap escape) =
      ⟨fs, .string isKey ((cs.map piece).reverse ++ done) .none⟩ := by
  induction cs generalizing done
  case nil => rfl
  case cons c cs hi =>
    rw [List.flatMap_cons, run_append, run_escape, hi, List.map_cons, List.reverse_cons,
      List.append_assoc]
    rfl

-- A string from behind its first quote on.
theorem run_string (fs : List Frame) (isKey : Bool) (s : String) :
    run ⟨fs, .string isKey [] .none⟩ (s.toList.flatMap escape ++ ['"']) =
      if isKey then ⟨fs, .colon (some s)⟩ else complete (.string (some s)) fs := by
  have ht : text? (s.toList.map piece).reverse [] = some s.toList := by
    rw [← List.map_reverse, text?_map_piece, List.reverse_reverse, List.append_nil]
  rw [run_append, run_escapes, List.append_nil, run_cons]
  have he : step ⟨fs, .string isKey (s.toList.map piece).reverse .none⟩ (some '"') =
    endString fs isKey (s.toList.map piece).reverse := rfl
  rw [he, endString, ht, Option.map_some, String.ofList_toList]
  rfl

theorem beginValue_of_start? {fs : List Frame} {c : Char} {n : Numeral}
    (h : Numeral.start? c = some n) : beginValue fs c = ⟨fs, .numeral n⟩ := by
  have ne {k : Char} (hk : Numeral.start? k = none) : c ≠ k := by
    rintro rfl
    rw [h] at hk
    cases hk
  simp only [beginValue, ne (k := 'n') rfl, ne (k := 't') rfl, ne (k := 'f') rfl,
    ne (k := '"') rfl, ne (k := '[') rfl, ne (k := '\x7b') rfl, if_false, h]

theorem run_push {fs : List Frame} {n n' : Numeral} {s : List Char}
    (h : s.foldlM Numeral.push n = some n') : run ⟨fs, .numeral n⟩ s = ⟨fs, .numeral n'⟩ := by
  induction s generalizing n
  case nil => cases h; rfl
  case cons c s hi =>
    have ⟨m, hm, hs⟩ := Option.bind_eq_some_iff.mp h
    unfold Numeral.push at hm
    split at hm
    case h_1 m' hn =>
      cases hm
      have hp : step ⟨fs, .numeral n⟩ (some c) = ⟨fs, .numeral m⟩ := by simp only [step, hn]
      rw [run_cons, hp, hi hs]
    case h_2 => cases hm

-- Behind a value a delimiter is looked at as if it were between the tokens.
theorem step_complete (d : Document) (fs : List Frame) (c : Char) :
    step (complete d fs) (some c) = stepToken (complete d fs).frames c (complete d fs).next := by
  rcases fs with _ | ⟨_ | _ | _, fs⟩ <;> rfl

theorem settles_numeral {n : Numeral} (h : n.Ended) (fs : List Frame) :
    Settles ⟨fs, .numeral n⟩ (complete (.number n.value?) fs) := by
  intro c hc
  have hn : n.step c = .over := (Numeral.step_delimiter hc n).trans h
  rw [step_complete]
  simp only [step, hn]

theorem settles_literal {fs : List Frame} {s : State} {text : List Char} {n : Numeral}
    (hs : Opens fs s) (hl : Numeral.ofText? text = some n) (he : n.Ended) :
    Settles (run s text) (complete (.number n.value?) fs) := by
  cases text
  case nil => cases hl
  case cons c text =>
    have ⟨l₀, hc, hl⟩ := Option.bind_eq_some_iff.mp hl
    have hd : isSpace c = false ∧ c ≠ ']' := by
      constructor
      case left =>
        refine Bool.eq_false_iff.mpr fun hs => ?_
        simp only [isSpace, Bool.or_eq_true, beq_iff_eq] at hs
        rcases hs with ((rfl | rfl) | rfl) | rfl <;> cases hc
      case right => rintro rfl; cases hc
    rw [run_cons, hs.step hd.left hd.right, beginValue_of_start? hc, run_push hl]
    exact settles_numeral he fs

theorem settles_number {fs : List Frame} {s : State} {n : Number} (hs : Opens fs s)
    (h : n.ReadsBack) : Settles (run s n.text) (complete (.number (some n)) fs) := by
  have ⟨l, hl, he, hv⟩ := h.literal
  exact hv ▸ settles_literal hs hl he

section

variable {σ : Spacing}

-- A value is read from its text, up to the delimiter behind it.
def ReadsValue (σ : Spacing) (j : Json) : Prop :=
  ∀ level fs s, Opens fs s → Settles (run s (j.spelled σ level)) (complete (.ofValue j) fs)

theorem isDelimiter_comma : IsDelimiter ',' := by simp [IsDelimiter]
theorem isDelimiter_bracket : IsDelimiter ']' := by simp [IsDelimiter]
theorem isDelimiter_brace : IsDelimiter '\x7d' := by simp [IsDelimiter]

theorem run_items {js : List Json} (hj : ∀ j ∈ js, ReadsValue σ j) (level : Nat)
    {fs : List Frame} {done : List Document} {s : State}
    (h : Settles s ⟨.array done :: fs, .separator⟩) :
    run s (spelledItems σ level js) =
      complete (.array (done.reverse ++ Document.ofItems js) true) fs := by
  induction js generalizing done s
  case nil =>
    have hb := h.run_blanks (waits_separator _) (σ.isSpace_gap level)
    rw [spelledItems, run_append, run_cons, hb _ isDelimiter_bracket, Document.ofItems,
      List.append_nil]
    rfl
  case cons j js hi =>
    obtain ⟨hj, hs⟩ := List.forall_mem_cons.mp hj
    have hc : step ⟨.array done :: fs, .separator⟩ (some ',') = ⟨.array done :: fs, .value⟩ := rfl
    have hv := hj (level + 1) (.array done :: fs) _ .value
    rw [spelledItems, run_cons, h _ isDelimiter_comma, hc, run_append,
      (waits_value _).run (σ.isSpace_gap _), run_append, hi hs hv, List.reverse_cons,
      List.append_assoc]
    rfl

-- A key from behind its first quote on, and its colon.
theorem run_key (fs : List Frame) (done : List Member) (k : String) (rest : List Char) :
    run ⟨.object done :: fs, .string true [] .none⟩
      (k.toList.flatMap escape ++ '"' :: ':' :: (σ.colon ++ rest)) =
      run ⟨.member done (some k) :: fs, .value⟩ rest := by
  have hc : step ⟨.object done :: fs, .colon (some k)⟩ (some ':') =
    ⟨.member done (some k) :: fs, .value⟩ := rfl
  have hk := run_string (.object done :: fs) true k
  rw [List.append_cons, run_append, hk, if_pos rfl, run_cons, hc, run_append,
    (waits_value _).run σ.isSpace_colon]

theorem quoted_append (k : String) (rest : List Char) :
    quoted k ++ rest = '"' :: (k.toList.flatMap escape ++ '"' :: rest) := by
  simp [quoted]

theorem run_members {ms : Members} (hm : ∀ m ∈ ms, ReadsValue σ m.2) (level : Nat)
    {fs : List Frame} {done : List Member} {s : State}
    (h : Settles s ⟨.object done :: fs, .separator⟩) :
    run s (spelledMembers σ level ms) =
      complete (.object (done.reverse ++ Document.ofMembers ms) true) fs := by
  induction ms generalizing done s
  case nil =>
    have hb := h.run_blanks (waits_separator _) (σ.isSpace_gap level)
    rw [spelledMembers, run_append, run_cons, hb _ isDelimiter_brace, Document.ofMembers,
      List.append_nil]
    rfl
  case cons m ms hi =>
    obtain ⟨k, j⟩ := m
    obtain ⟨hm, hs⟩ := List.forall_mem_cons.mp hm
    have hc : step ⟨.object done :: fs, .separator⟩ (some ',') = ⟨.object done :: fs, .key⟩ := rfl
    have hq : step ⟨.object done :: fs, .key⟩ (some '"') =
      ⟨.object done :: fs, .string true [] .none⟩ := rfl
    have hv := hm (level + 1) (.member done (some k) :: fs) _ .value
    rw [spelledMembers, run_cons, h _ isDelimiter_comma, hc, run_append,
      (waits_key _).run (σ.isSpace_gap _), quoted_append, run_cons, hq, run_key, run_append,
      hi hs hv, List.reverse_cons, List.append_assoc]
    rfl

-- The reader is followed through the text of a value from whatever is open around it; numerals end
-- only at the character behind them, which makes the induction speak of states that the next
-- delimiter cannot tell apart.
theorem readsValue {j : Json} (hn : ∀ n, j.Mentions n → n.ReadsBack) : ReadsValue σ j := by
  induction j using induct
  case null => intro level fs s hs; exact run_null hs ▸ .refl _
  case bool b =>
    intro level fs s hs
    cases b
    case false => exact run_false hs ▸ .refl _
    case true => exact run_true hs ▸ .refl _
  case number n => intro level fs s hs; exact settles_number hs (hn n .number)
  case string t =>
    intro level fs s hs
    have hq : beginValue fs '"' = ⟨fs, .string false [] .none⟩ := rfl
    rw [spelled, quoted, List.cons_append, run_cons, hs.step rfl (by decide), hq, run_string]
    exact .refl _
  case array items hi =>
    intro level fs s hs
    have hb : beginValue fs '[' = ⟨.array [] :: fs, .valueOrClose⟩ := rfl
    cases items
    case nil =>
      rw [spelled, run_cons, hs.step rfl (by decide), hb]
      exact .refl _
    case cons j js =>
      have hv : ∀ i ∈ j :: js, ReadsValue σ i := fun i h => hi i h fun n hm => hn n (.item h hm)
      obtain ⟨hj, hs'⟩ := List.forall_mem_cons.mp hv
      have h := hj (level + 1) (.array [] :: fs) _ .valueOrClose
      rw [spelled, run_cons, hs.step rfl (by decide), hb, run_append,
        (waits_valueOrClose _).run (σ.isSpace_gap _), run_append, run_items hs' level h]
      exact .refl _
  case object ms hi =>
    intro level fs s hs
    have hb : beginValue fs '\x7b' = ⟨.object [] :: fs, .keyOrClose⟩ := rfl
    cases ms
    case nil =>
      rw [spelled, run_cons, hs.step rfl (by decide), hb]
      exact .refl _
    case cons m ms =>
      obtain ⟨k, j⟩ := m
      have hv : ∀ m ∈ (k, j) :: ms, ReadsValue σ m.2 :=
        fun m h => hi m h fun n hm => hn n (.member h hm)
      obtain ⟨hj, hs'⟩ := List.forall_mem_cons.mp hv
      have hq : step ⟨.object [] :: fs, .keyOrClose⟩ (some '"') =
        ⟨.object [] :: fs, .string true [] .none⟩ := rfl
      have h := hj (level + 1) (.member [] (some k) :: fs) _ .value
      rw [spelled, run_cons, hs.step rfl (by decide), hb, run_append,
        (waits_keyOrClose _).run (σ.isSpace_gap _), quoted_append, run_cons, hq, run_key,
        run_append, run_members hs' level h]
      exact .refl _

end

end Reader

namespace Document

theorem read_of_settles {text : List Char} {d : Document}
    (h : Reader.Settles (Reader.run Reader.start text) (Reader.complete d [])) :
    read (text.map some) = (d, true) := by
  have hf : Reader.step (Reader.run Reader.start text) (some ' ') = ⟨[], .blanks d⟩ :=
    h ' ' (by simp [Numeral.IsDelimiter])
  have he : read (text.map some) = Reader.finish (Reader.run Reader.start text) := rfl
  rw [he, Reader.finish, hf]

theorem read_literal {text : List Char} {n : Numeral} (hl : Numeral.ofText? text = some n)
    (he : n.Ended) : read (text.map some) = (number n.value?, true) :=
  read_of_settles (Reader.settles_literal .value hl he)

section

variable {j : Json} (hn : ∀ n, j.Mentions n → n.ReadsBack)

include hn

theorem read_spelled (σ : Spacing) (level : Nat) :
    read ((j.spelled σ level).map some) = (ofValue j, true) :=
  read_of_settles (Reader.readsValue hn level [] _ .value)

theorem read_compact : read (j.compact.map some) = (ofValue j, true) := by
  rw [compact_eq_spelled]
  exact read_spelled hn ..

theorem read_indented (level : Nat) : read ((j.indented level).map some) = (ofValue j, true) := by
  rw [indented_eq_spelled]
  exact read_spelled hn ..

end

end Document

theorem readOctets?_compact {j : Json} (hn : ∀ n, j.Mentions n → n.ReadsBack)
    (hd : j.depth ≤ nestingLimit) : readOctets? (Text.encode j.compact) = some j.sorted := by
  simp only [readOctets?, read?, Text.glyphs_encode, Document.read_compact hn,
    Document.value?_ofValue hd]

-- An object of nothing but texts.
theorem readOctets?_texts {ms : Members} (ho : ms.Ordered) (hm : ∀ m ∈ ms, ∃ s, m.2 = string s) :
    readOctets? (Text.encode (object ms).compact) = some (object ms) := by
  have hn : ∀ n, (object ms).Mentions n → n.ReadsBack := by
    rintro n (_ | _ | ⟨h, hn⟩)
    have ⟨s, hs⟩ := hm _ h
    rw [hs] at hn
    cases hn
  have hd : (object ms).depth ≤ 1 := by
    refine Nat.succ_le_succ (depthMembers_le.mpr fun m h => ?_)
    have ⟨s, hs⟩ := hm m h
    exact hs ▸ Nat.le_refl 0
  have hs : (object ms).IsSorted := by
    refine .object ho fun m h => ?_
    have ⟨s, hs⟩ := hm m h
    exact hs ▸ .string s
  rw [readOctets?_compact hn (Nat.le_trans hd (by decide)), hs.sorted_eq]

end AnomalyDetection.Json

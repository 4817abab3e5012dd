import AnomalyDetection.Proofs.Engine.Extract
import AnomalyDetection.Proofs.Json.Trailing
import AnomalyDetection.Proofs.Store.Frame
import AnomalyDetection.Proofs.Text.Lines

namespace AnomalyDetection

open Files

namespace FileSystem

variable {fs : FileSystem} {q r : Place} {content content' : Octets} {path : String}

theorem readText_of_file (hl : fs.locate path = .ok q) (hq : fs.entry? q = some (.file content)) :
    fs.readText path = match Text.text? content with
      | some s => .ok s
      | none => .error .notText := by
  simp only [readText, read_eq_ok.mpr ⟨q, hl, hq⟩, bind, Except.bind]
  cases Text.text? content <;> rfl

section Rewrite

variable (hq : fs.entry? q = some (.file content))

include hq

theorem entry?_rewrite : entry? (fs.set q (.file content')) r =
    if r = q then some (.file content') else fs.entry? r := by
  have hn : q ≠ [] := by rintro rfl; cases hq
  by_cases hr : r = []
  case pos => rw [hr, if_neg hn.symm]; rfl
  case neg => exact entry?_set fs q r _ hr

-- A file that is written anew stands in no other way than before.
theorem locate_rewrite : (fs.set q (.file content')).locate path = fs.locate path := by
  refine locate_congr rfl fun r _ => ?_
  rw [entry?_rewrite hq]
  split
  case isTrue h => rw [h, hq]; exact .file content content'
  case isFalse => exact .refl _

theorem readText_rewrite (hl : fs.locate path ≠ .ok q) :
    (fs.set q (.file content')).readText path = fs.readText path := by
  have hr : (fs.set q (.file content')).read path = fs.read path := by
    refine read_congr (locate_rewrite hq) fun r hr => ?_
    rw [entry?_rewrite hq, if_neg]
    rintro rfl
    exact hl hr
  rw [readText, hr, readText]

end Rewrite

end FileSystem

namespace Extract

variable {fs : FileSystem} {dir : String} {d : Detector} {b : Buckets} {filter : Filter}
  {line content content' : Octets} {s : List Char}

-- A line that is passed over for what it says: no text, or one without a row that has a time.
def Bad (d : Detector) (line : Octets) : Prop :=
  ∀ s, Text.text? line = some s → time? d s = none

-- Octets in which every line has an end.
def Ended (front : Octets) : Prop :=
  front = [] ∨ ∃ x, front = x ++ [10]

-- A content with one more line: between others, behind all of them, and behind a last line that had
-- no end so far.
inductive AddsLine (line : Octets) : Octets → Octets → Prop
  | before {front : Octets} (back : Octets) : Ended front →
    AddsLine line (front ++ back) (front ++ line ++ 10 :: back)
  | last {front : Octets} : Ended front → AddsLine line front (front ++ line)
  | behind (front : Octets) {ending : Octets} : ending = [] ∨ ending = [10] →
    AddsLine line front (front ++ 10 :: (line ++ ending))

section Place

theorem place?_return (s : List Char) : place? d b filter (s ++ ['\r']) = place? d b filter s := by
  have hb : Text.allBlank (s ++ ['\r']) = Text.allBlank s := by
    rw [Text.allBlank, List.all_append]
    exact Bool.and_true _
  unfold place?
  rw [hb, Json.read?_space s rfl]

theorem place?_of_time? (h : time? d s = none) : place? d b filter s = none := by
  unfold place?
  split
  case isTrue => rfl
  case isFalse =>
    cases hr : Json.read? (s.map some)
    case none => rfl
    case some row =>
      simp only [time?, hr, bind, Option.bind_some] at h ⊢
      cases hf : row.field? d.timeField
      case none => rfl
      case some time =>
        rw [hf, Option.bind_some] at h
        rw [Option.bind_some, h, Option.bind_none]

variable (d b filter) in
-- The rows of a content and where they belong, if the content is a text.
def placed? (content : Octets) : Option (List (Nat × Json)) :=
  (Text.text? content).map fun s => (Text.lines s).filterMap (place? d b filter)

theorem placed?_eq_split (content : Octets) : placed? d b filter content =
    (Text.text? content).map fun s => (Text.split '\n' s).filterMap (place? d b filter) := by
  have hf := Text.filterMap_lines (f := place? d b filter) rfl place?_return
  simp only [placed?, hf]

-- The rows of a content are those in front of a line feed and those behind it.
theorem placed?_append (x y : Octets) : placed? d b filter (x ++ 10 :: y) =
    (placed? d b filter x).bind fun rows => (placed? d b filter y).map (rows ++ ·) := by
  simp only [placed?_eq_split, Text.text?_append]
  cases Text.text? x
  case none => rfl
  case some s =>
    cases Text.text? y
    case none => rfl
    case some t =>
      simp only [Option.bind_some, Option.map_some, Text.split_append, List.filterMap_append]

theorem placed?_of_bad (hn : 10 ∉ line) (hb : Bad d line) (ht : Text.text? line = some s) :
    placed? d b filter line = some [] := by
  rw [placed?_eq_split, ht, Option.map_some, Text.split_of_notMem (Text.lineFeed_notMem ht hn),
    List.filterMap_cons_none (place?_of_time? (hb s ht)), List.filterMap_nil]

end Place

theorem map_indexLines {index : String} {q : Place} (hl : fs.locate (indexPath dir index) = .ok q)
    (hq : fs.entry? q = some (.file content)) :
    (indexLines fs dir index).map (·.filterMap (place? d b filter)) =
      match placed? d b filter content with
      | some rows => .ok rows
      | none => .error .notText := by
  unfold indexLines
  rw [FileSystem.readText_of_file hl hq, placed?]
  cases Text.text? content <;> rfl

-- A line without rows adds none. Where it is no text, there are no rows any more at all.
theorem AddsLine.placed?_eq (h : AddsLine line content content')
    (hl : ∀ rows ∈ placed? d b filter line, rows = []) :
    placed? d b filter content' =
      (placed? d b filter line).bind fun _ => placed? d b filter content := by
  have hl : placed? d b filter line = none ∨ placed? d b filter line = some [] := by
    cases hp : placed? d b filter line
    case none => exact .inl rfl
    case some rows => exact .inr (congrArg some (hl rows hp))
  have hn : placed? d b filter [] = some [] := rfl
  cases h
  case before front back hf =>
    obtain rfl | ⟨x, rfl⟩ := hf <;> obtain hl | hl := hl <;> simp [placed?_append, hl]
  case last hf =>
    obtain rfl | ⟨x, rfl⟩ := hf <;> obtain hl | hl := hl <;> simp [placed?_append, hn, hl]
  case behind ending hz =>
    obtain rfl | rfl := hz <;> obtain hl | hl := hl <;> simp [placed?_append, hn, hl]

variable {q : Place} [Quantity α]

theorem extract_of_bad_line (hq : fs.entry? q = some (.file content)) (hn : 10 ∉ line)
    (hb : Bad d line) (ha : AddsLine line content content') (h : (Text.text? line).isSome ∨
      ∀ index ∈ d.indices, fs.locate (indexPath dir index) ≠ .ok q) :
    (extract (fs.set q (.file content')) dir d b : Except Engine.Fault (List (Series α))) =
      extract fs dir d b := by
  refine extract_congr fun filter index hm => ?_
  by_cases hl : fs.locate (indexPath dir index) = .ok q
  case neg => rw [indexLines, FileSystem.readText_rewrite hq hl, indexLines]
  case pos =>
    have ⟨s, hs⟩ := Option.isSome_iff_exists.mp (h.resolve_right fun h => h index hm hl)
    have hp : placed? d b filter line = some [] := placed?_of_bad hn hb hs
    have hp' : placed? d b filter content' = placed? d b filter content := by
      rw [ha.placed?_eq fun rows hr => Option.some.inj (hr.symm.trans hp), hp, Option.bind_some]
    rw [map_indexLines ((FileSystem.locate_rewrite hq).trans hl)
      ((FileSystem.entry?_rewrite hq).trans (if_pos rfl)), map_indexLines hl hq, hp']

theorem readText_of_unread_line (hq : fs.entry? q = some (.file content))
    (ha : AddsLine line content content') (ht : Text.text? line = none) {path : String}
    (hl : fs.locate path = .ok q) :
    (fs.set q (.file content')).readText path = .error .notText := by
  have hc : Text.text? content' = none := by
    -- Whatever rows are asked for, the content has none.
    have hp : placed? Detector.blank ⟨.ofParts 0 0 0, .ofMillis 1, 1⟩ .all line = none := by
      rw [placed?, ht, Option.map_none]
    have hc := ha.placed?_eq fun rows hr => nomatch hr.symm.trans hp
    rw [hp, Option.bind_none] at hc
    exact Option.map_eq_none_iff.mp hc
  rw [FileSystem.readText_of_file ((FileSystem.locate_rewrite hq).trans hl)
    ((FileSystem.entry?_rewrite hq).trans (if_pos rfl)), hc]

-- The first index that leads to the file ends an extraction that would have come out.
theorem extract_of_unread_line (hq : fs.entry? q = some (.file content))
    (ha : AddsLine line content content') (ht : Text.text? line = none) {index : String}
    (hm : index ∈ d.indices) (hl : fs.locate (indexPath dir index) = .ok q) {all : List (Series α)}
    (h : extract fs dir d b = .ok all) :
    (extract (fs.set q (.file content')) dir d b : Except Engine.Fault (List (Series α))) =
      .error (.file .notText) := by
  classical
  have ⟨⟨filter, hf⟩, ho, hr⟩ := parts_of_extract h
  let leads (i : String) : Bool := decide (fs.locate (indexPath dir i) = .ok q)
  have ⟨first, hs⟩ := Option.isSome_iff_exists.mp
    (List.find?_isSome (p := leads).mpr ⟨index, hm, decide_eq_true hl⟩)
  have ⟨hx, front, back, hd, hp⟩ := List.find?_eq_some_iff_append.mp hs
  refine extract_of_unreadable hf ho hd (fun i hi e he => ?_)
    (readText_of_unread_line hq ha ht (of_decide_eq_true hx)) nofun
  have hi' : fs.locate (indexPath dir i) ≠ .ok q := by simpa [leads] using hp i hi
  rw [FileSystem.readText_rewrite hq hi'] at he
  exact hr i (hd ▸ List.mem_append_left _ hi) e he

end Extract

variable [Quantity α] {fs : FileSystem} {q : Files.Place} {content content' line : Octets}
  {d : Detector}

open Extract in
-- A file with one more line that is passed over for what it says. If the line is a text, or if no
-- index leads to the file, extractions come out as before. If it is none, all those fail that read
-- the file, and those that came out fail for the line.
theorem bad_lines_are_passed_over_in_texts (hq : fs.entry? q = some (.file content))
    (hn : 10 ∉ line) (hb : Bad d line) (ha : AddsLine line content content') (dir : String)
    (b : Buckets) :
    let fs' := fs.set q (.file content')
    ((Text.text? line).isSome ∨ (∀ index ∈ d.indices, fs.locate (indexPath dir index) ≠ .ok q) →
      (extract fs' dir d b : Except Engine.Fault (List (Series α))) = extract fs dir d b) ∧
    (Text.text? line = none → ∀ index ∈ d.indices, fs.locate (indexPath dir index) = .ok q →
      (∀ all : List (Series α), extract fs' dir d b ≠ .ok all) ∧
      ∀ all : List (Series α), extract fs dir d b = .ok all →
        (extract fs' dir d b : Except Engine.Fault (List (Series α))) =
          .error (.file .notText)) := by
  refine ⟨extract_of_bad_line hq hn hb ha,
    fun ht index hm hl => ⟨fun all h => ?extract, fun all h => ?execute⟩⟩
  case extract =>
    have ⟨_, _, hr⟩ := parts_of_extract h
    cases hr index hm _ (readText_of_unread_line hq ha ht hl)
  case execute => exact extract_of_unread_line hq ha ht hm hl h

-- Behind a row, another one that is cut off is passed over. If it is cut off inside of a character,
-- that is the end of all rows of the index.
theorem bad_lines_are_passed_over_in_texts_cut_off :
    let query : Json := .object [("a", .object [("sum", .object [("field", .string "x")])])]
    let d := { Detector.blank with
      timeField := "t", indices := ["m"], features := [⟨none, "f", true, query⟩] }
    let b : Buckets := ⟨.ofParts 0 0 0, .ofMillis 60000, 1⟩
    let content := Text.octets "\x7b\"t\":0,\"x\":2\x7d"
    let fs : FileSystem := ⟨[(["m.jsonl"], .file content)], []⟩
    let cut := Text.octets "\x7b\"t\":0,\"x"
    let stray : Octets := [0xC3]
    let adding (line : Octets) := fs.set ["m.jsonl"] (.file (content ++ 10 :: (line ++ [])))
    fs.entry? ["m.jsonl"] = some (.file content) ∧
    fs.locate (Extract.indexPath "/" "m") = .ok ["m.jsonl"] ∧
    (∀ line ∈ [cut, stray], 10 ∉ line ∧ Extract.Bad d line ∧
      Extract.AddsLine line content (content ++ 10 :: (line ++ []))) ∧
    (Text.text? cut).isSome ∧ Text.text? stray = none ∧
    (extract (adding cut) "/" d b : Except Engine.Fault (List (Series Float))) =
      extract fs "/" d b ∧
    (∃ all : List (Series Float), extract fs "/" d b = .ok all) ∧
    (extract (adding stray) "/" d b : Except Engine.Fault (List (Series Float))) =
      .error (.file .notText) := by
  intro query d b content fs cut stray adding
  have hq : fs.entry? ["m.jsonl"] = some (.file content) := rfl
  have hl : fs.locate (Extract.indexPath "/" "m") = .ok ["m.jsonl"] :=
    Outcome.eq_ok_of_toOption (by decide +kernel)
  have hc : Text.text? cut = some "\x7b\"t\":0,\"x".toList := by decide +kernel
  have hs : Text.text? stray = none := by decide +kernel
  have hx : Extract.Bad d cut := by
    intro s h
    cases h.symm.trans hc
    exact Option.isNone_iff_eq_none.mp (by decide +kernel)
  have hy : Extract.Bad d stray := fun s h => nomatch h.symm.trans hs
  have ha (line : Octets) : Extract.AddsLine line content (content ++ 10 :: (line ++ [])) :=
    .behind content (.inl rfl)
  have hnx : 10 ∉ cut := by decide +kernel
  have hny : 10 ∉ stray := by decide
  have hr : fs.readText (Extract.indexPath "/" "m") = .ok "\x7b\"t\":0,\"x\":2\x7d".toList :=
    Outcome.eq_ok_of_toOption (by decide +kernel)
  have hf : Filter.ofQuery d.filter = .ok .all := rfl
  have ho : ∀ f ∈ d.enabledFeatures, ∃ a, Aggregation.ofFeature f = .ok a :=
    List.forall_mem_singleton.mpr ⟨⟨"a", .sum, "x"⟩, rfl⟩
  have hi : ∀ index ∈ d.indices, Extract.Readable fs "/" index :=
    List.forall_mem_singleton.mpr fun e he => nomatch hr.symm.trans he
  obtain ⟨all, he, _⟩ := Extract.extract_of_readable (α := Float) (b := b) hf ho hi
  have hcut := bad_lines_are_passed_over_in_texts (α := Float) hq hnx hx (ha cut) "/" b
  have hstray := bad_lines_are_passed_over_in_texts (α := Float) hq hny hy (ha stray) "/" b
  refine ⟨hq, hl, List.forall_mem_cons.mpr ⟨⟨hnx, hx, ha cut⟩, List.forall_mem_singleton.mpr
    ⟨hny, hy, ha stray⟩⟩, hc ▸ rfl, hs, hcut.1 (.inl (hc ▸ rfl)), ⟨all, he⟩, ?_⟩
  exact (hstray.2 hs "m" (List.mem_singleton_self "m") hl).2 all he

end AnomalyDetection

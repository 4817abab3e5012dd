import AnomalyDetection.Proofs.Store.File
import AnomalyDetection.Store.Import

namespace AnomalyDetection.Store

open Envelope (documentOf tooDeep)
open Json (nestingLimit)

variable {fs fs' : FileSystem} {dir path storedId : String} {id : Option String}
  {source : Octets} {d : Detector} {version : UInt64}

-- A file with a detector that is to be stored under an id.
def Offers (fs : FileSystem) (path : String) (id : Option String) (storedId : String) : Prop :=
  ∃ source d, fs.read path = .ok source ∧
    Json.decodeText Detector.shape.decode (Text.glyphs source) = .ok d ∧
    importId? path id d = some storedId

theorem importFile_eq (hr : fs.read path = .ok source)
    (hd : Json.decodeText Detector.shape.decode (Text.glyphs source) = .ok d)
    (hi : importId? path id d = some storedId) {made : FileSystem}
    (hm : File.create fs dir = .ok made) : importFile fs dir path id =
      (((File.put made dir storedId d).1.map (storedId, ·)).mapError .store,
        (File.put made dir storedId d).2) := by
  simp only [importFile, hr, hd, hi, hm]

theorem wrote_of_import (hr : fs.read path = .ok source)
    (hd : Json.decodeText Detector.shape.decode (Text.glyphs source) = .ok d)
    (h : importFile fs dir path id = (.ok (storedId, version), fs')) :
    importId? path id d = some storedId ∧ ∃ made, File.create fs dir = .ok made ∧
      ∃ p q, File.Wrote made dir storedId d version fs' p q := by
  simp only [importFile, hr, hd] at h
  split at h
  case h_1 => cases h
  case h_2 sid hi =>
    split at h
    case h_1 => cases h
    case h_2 made hm =>
      have ⟨ha, hf⟩ := Prod.mk.inj h
      have ⟨v, hv, he⟩ := Outcome.map_eq_ok (Outcome.mapError_eq_ok ha)
      cases he
      exact ⟨hi, made, hm, File.wrote_of_put (Prod.ext hv hf)⟩

-- What is imported comes back as it was given, but for its id and version, and can be imported
-- again until there is no version left, as long as its document leaves room for the envelope. If it
-- does not, the id can neither be read nor be written to any more. The numbers are assumed to be
-- written in a way that gives them back, and the directory, once it is there, to hold only
-- envelopes under the id.
theorem importFile_reads_back (hr : fs.read path = .ok source)
    (hd : Json.decodeText Detector.shape.decode (Text.glyphs source) = .ok d)
    (hf : ∀ x, d.Mentions (.float x) → (Json.Number.float x).ReadsBack)
    (he : ∀ made, File.create fs dir = .ok made → File.HoldsEnvelopes made dir storedId)
    (h : importFile fs dir path id = (.ok (storedId, version), fs')) :
    Offers fs' path id storedId ∧
    if (documentOf d).depth < nestingLimit then
      (∃ source', File.get fs' dir storedId = .ok (.holding ⟨source', version⟩) ∧
        Detector.ofDocument source' storedId (some version) =
          .ok { d with id := some storedId, version := some version }) ∧
      ∀ path' id', Offers fs' path' id' storedId →
        if version.toNat + 1 < UInt64.size then
          (importFile fs' dir path' id').1 = .ok (storedId, version + 1)
        else importFile fs' dir path' id' = (.error (.store (.task .overflow)), fs')
    else
      File.get fs' dir storedId = .error tooDeep ∧
      ∀ path' id', Offers fs' path' id' storedId →
        importFile fs' dir path' id' = (.error (.store tooDeep), fs') := by
  have ⟨hi, made, hm, p, q, hw⟩ := wrote_of_import hr hd h
  have hn := Envelope.readsBack_documentOf hf version
  have ht : d.Fits 124 := Detector.fits_of_decode (Json.decode_of_decodeText hd)
  have ho : Offers fs' path id storedId := by
    refine ⟨source, d, hw.read ?read ?other, hd, hi⟩
    case read =>
      have hx := FileSystem.extends_of_ensureDirectory (Outcome.mapError_eq_ok hm)
      exact hx.read hr
    case other =>
      -- The file holds a detector, so it is none of the envelopes that are written over.
      intro target ht hc
      have ⟨e, hb, hc⟩ := he made hm target ht source hc
      rw [← hc, Envelope.decode_detector_content hb] at hd
      cases hd
  -- The directory is there by now, and a write takes no directory away.
  have hm' : File.create fs' dir = .ok fs' :=
    congrArg (Except.mapError _)
      (FileSystem.ensureDirectory_again (Outcome.mapError_eq_ok hm) hw.keepsDirectories)
  refine ⟨ho, ?_⟩
  have hg := hw.get hn
  split
  case isTrue hl =>
    rw [if_pos hl] at hg
    refine ⟨⟨_, hg, Envelope.ofDocument_documentOf ht (Nat.le_of_lt hl) hn _ _⟩, ?_⟩
    rintro path' id' ⟨source', d', hr', hd', hi'⟩
    have hp := hw.put hn d'
    rw [if_pos hl] at hp
    rw [importFile_eq hr' hd' hi' hm']
    split at hp
    case isTrue hv => rw [if_pos hv, hp]; rfl
    case isFalse hv => rw [if_neg hv, hp]; rfl
  case isFalse hl =>
    rw [if_neg hl] at hg
    refine ⟨hg, ?_⟩
    rintro path' id' ⟨source', d', hr', hd', hi'⟩
    have hp := hw.put hn d'
    rw [if_neg hl] at hp
    rw [importFile_eq hr' hd' hi' hm', hp]
    rfl

-- Arrays in arrays, one more than the number says.
def nested : Nat → Json
  | 0 => .array []
  | n + 1 => .array [nested n]

theorem mentions_nested {n : Json.Number} (depth : Nat) : ¬(nested depth).Mentions n := by
  induction depth
  case zero => rintro (_ | ⟨hm, _⟩); cases hm
  case succ depth hi =>
    intro h
    cases h
    case item hm hj =>
      cases List.mem_singleton.mp hj
      exact hi hm

-- A plain detector comes back, and one that nests as deep as a reader takes it does not.
theorem importFile_reads_back_nested :
    let plain : Detector :=
      { Detector.blank with name := "n", timeField := "t", interval := ⟨1, .days⟩ }
    let deep : Detector := { plain with filter := some (nested 125) }
    let before (d : Detector) : FileSystem :=
      ⟨[(["f"], .file (Text.encode d.toJson.compact))], []⟩
    let after (d : Detector) : FileSystem := (importFile (before d) "d" "f" (some "a")).2
    ((∃ source, File.get (after plain) "d" "a" = .ok (.holding ⟨source, 1⟩) ∧
        Detector.ofDocument source "a" (some 1) =
          .ok { plain with id := some "a", version := some 1 }) ∧
      (importFile (after plain) "d" "f" (some "a")).1 = .ok ("a", 2)) ∧
    ((importFile (before deep) "d" "f" (some "a")).1 = .ok ("a", 1) ∧
      File.get (after deep) "d" "a" = .error tooDeep ∧
      importFile (after deep) "d" "f" (some "a") = (.error (.store tooDeep), after deep)) := by
  intro plain deep before after
  have reads (d : Detector) (hf : ∀ x, d.Mentions (.float x) → (Json.Number.float x).ReadsBack)
      (hr : ((before d).read "f").toOption = some (Text.encode d.toJson.compact))
      (hd : (Json.decodeText Detector.shape.decode
        (Text.glyphs (Text.encode d.toJson.compact))).toOption = some d)
      (he : ((before d).ensureDirectory "d").toOption.map (fun made =>
        [File.path "d" "a", File.draftPath "d" "a"].map fun t => (made.read t).toOption) =
          some [none, none])
      (hi : (importFile (before d) "d" "f" (some "a")).1.toOption = some ("a", 1)) := by
    have hn (made : FileSystem) (hm : File.create (before d) "d" = .ok made) :
        File.HoldsEnvelopes made "d" "a" := by
      intro target ht content hc
      rw [Outcome.mapError_eq_ok hm] at he
      have he := List.map_eq_replicate_iff.mp (Option.some.inj he) target ht
      rw [hc] at he
      cases he
    have hi : importFile (before d) "d" "f" (some "a") = (.ok ("a", 1), after d) :=
      Prod.ext (Outcome.eq_ok_of_toOption hi) rfl
    exact importFile_reads_back (Outcome.eq_ok_of_toOption hr) (Outcome.eq_ok_of_toOption hd) hf
      hn hi
  have hp := reads plain (by rintro x (⟨_, hj, _⟩ | ⟨_, hf, _⟩) <;> contradiction)
    (by decide +kernel) (by decide +kernel) (by decide +kernel) (by decide +kernel)
  have hd := reads deep
    (by
      rintro x (⟨j, hj, hm⟩ | ⟨_, hf, _⟩)
      case inl => cases hj; exact absurd hm (mentions_nested 125)
      case inr => cases hf)
    (by decide +kernel) (by decide +kernel) (by decide +kernel) (by decide +kernel)
  rw [if_pos (by decide +kernel)] at hp
  rw [if_neg (by decide +kernel)] at hd
  have hi := hp.right.right _ _ hp.left
  rw [if_pos (by decide)] at hi
  exact ⟨⟨hp.right.left, hi⟩, Outcome.eq_ok_of_toOption (by decide +kernel), hd.right.left,
    hd.right.right _ _ hd.left⟩

end AnomalyDetection.Store

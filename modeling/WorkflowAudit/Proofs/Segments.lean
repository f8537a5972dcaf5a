import WorkflowAudit.Bundle
import WorkflowAudit.Proofs.ExposurePattern
import WorkflowAudit.Proofs.Runs

/-! # Segments of a bundle

Workflows that are kept in one text are to be told apart by the markers behind them.  The places of
the markers in a text are its occurrences of the marker (`Text.occurrences`), and the segments go
from each of them to the next (`Bundle.segmentsAt`).

The search from the left skips what it has found, so it would miss an occurrence that begins inside
another one.  A marker ends with the only newline in it, and so no two occurrences overlap: as many
markers are found as there are (`Text.offsets_eq`).  Where they are is then looked up again, by a
search for the text of the marker, and this always leads to the first one.  `segments_found_iff`
says what comes of it.
-/
namespace WorkflowAudit

open Audit

/-! ## Occurrences -/

namespace Text

/-- The positions at which a text has `needle`, in increasing order. -/
def occurrences (needle text : List Char) : List Nat :=
  (List.range text.length).filter fun i => decide (needle <+: text.drop i)

variable {needle text : List Char}

theorem startsWith_iff_isPrefix : startsWith needle text = true ↔ needle <+: text := by
  rw [startsWith_iff]
  exact exists_congr fun rest => eq_comm

theorem occurrences_cons (needle : List Char) (c : Char) (text : List Char) :
    occurrences needle (c :: text) =
      (if needle <+: c :: text then [0] else []) ++ (occurrences needle text).map (· + 1) := by
  rw [occurrences, List.length_cons, List.range_succ_eq_map, List.filter_cons, List.filter_map,
    List.drop_zero]
  by_cases h : needle <+: c :: text
  · rw [if_pos (decide_eq_true h), if_pos h]
    rfl
  · rw [if_neg (mt of_decide_eq_true h), if_neg h]
    rfl

/-- No occurrence of a text can begin inside another one: it begins with no proper end of itself. -/
def Unbordered (needle : List Char) : Prop :=
  ∀ k < needle.length, 0 < k → ¬ needle.drop k <+: needle

/-- Behind an occurrence the next one keeps its distance. -/
theorem Unbordered.length_le (h : Unbordered needle) (hfirst : needle <+: text) {i : Nat}
    (hpos : 0 < i) (hnext : needle <+: text.drop i) : needle.length ≤ i := by
  by_contra hlt
  have hlt : i < needle.length := Nat.not_le.mp hlt
  refine h i hlt hpos (List.prefix_of_prefix_length_le (hfirst.drop i) hnext ?_)
  rw [List.length_drop]
  exact Nat.sub_le _ _

/-- A search that goes on behind each occurrence finds them all. -/
theorem offsetsFrom_eq (h : Unbordered needle) (skip start : Nat) (text : List Char)
    (hskip : ∀ i < skip, ¬ needle <+: text.drop i) :
    offsetsFrom needle skip start text = (occurrences needle text).map (start + ·) := by
  induction text generalizing skip start with
  | nil => cases skip <;> rfl
  | cons c text ih =>
    have hmore : ((occurrences needle text).map (· + 1)).map (start + ·) =
        (occurrences needle text).map (start + 1 + ·) := by
      rw [List.map_map]
      exact List.map_congr_left fun i _ => by simp only [Function.comp_apply]; omega
    rw [occurrences_cons]
    cases skip with
    | succ skip =>
      have hhead : ¬ needle <+: c :: text := hskip 0 (Nat.succ_pos skip)
      rw [offsetsFrom, if_neg hhead, List.nil_append, hmore]
      exact ih skip (start + 1) fun i hi => hskip (i + 1) (Nat.succ_lt_succ hi)
    | zero =>
      rw [offsetsFrom]
      by_cases hfirst : needle <+: c :: text
      · rw [if_pos (startsWith_iff_isPrefix.mpr hfirst), if_pos hfirst, List.map_append, hmore]
        refine congrArg _ (ih (needle.length - 1) (start + 1) fun i hi hnext => ?_)
        have hapart := h.length_le hfirst (Nat.succ_pos i) hnext
        omega
      · rw [if_neg (mt startsWith_iff_isPrefix.mp hfirst), if_neg hfirst, List.nil_append, hmore]
        exact ih 0 (start + 1) fun i hi => absurd hi (Nat.not_lt_zero i)

theorem offsets_eq (h : Unbordered needle) (text : List Char) :
    offsets needle text = occurrences needle text := by
  rw [offsets, offsetsFrom_eq h 0 0 text fun i hi => absurd hi (Nat.not_lt_zero i)]
  exact (List.map_congr_left fun i _ => Nat.zero_add i).trans (List.map_id _)

/-- A search for the text alone leads to the first occurrence. -/
theorem indexOf?_eq (hneedle : needle ≠ []) (text : List Char) :
    indexOf? needle text = (occurrences needle text).head? := by
  induction text with
  | nil => exact if_neg (mt List.isEmpty_iff.mp hneedle)
  | cons c text ih =>
    rw [indexOf?, occurrences_cons, ih]
    by_cases h : needle <+: c :: text
    · rw [if_pos (startsWith_iff_isPrefix.mpr h), if_pos h]
      rfl
    · rw [if_neg (mt startsWith_iff_isPrefix.mp h), if_neg h, List.nil_append, List.head?_map]

end Text

/-! ## Markers -/

namespace Bundle

open Text

theorem unbordered_endMarker : Unbordered endMarker := by
  unfold Unbordered
  decide

/-- The segments that begin at some places: each goes to the place of the next one, and the last
one, which has none behind it, to `-1`. -/
def segmentsAt : List Nat → List (Int × Int)
  | [] => []
  | [start] => [(start, -1)]
  | start :: next :: rest => (start, next) :: segmentsAt (next :: rest)

/-- The places of the markers of a text. -/
def markers (text : List Char) : List Nat :=
  occurrences endMarker text

theorem foundMarkers_eq (text : List Char) :
    foundMarkers text = List.replicate (markers text).length endMarker := by
  rw [foundMarkers, offsets_eq unbordered_endMarker, List.map_const', markers]

/-- Each place is looked up as a text, so equal markers all have one place. -/
theorem pairsOf_replicate (text marker : List Char) (count : Nat) :
    pairsOf text (List.replicate (count + 1) marker) =
      List.replicate count (find marker text, find marker text) ++ [(find marker text, -1)] := by
  induction count with
  | zero => rfl
  | succ count ih =>
    rw [List.replicate_succ, List.replicate_succ, pairsOf, ← List.replicate_succ, ih]
    rfl

/-- There are as many pairs as markers, and all of them are about the first marker. -/
theorem markerPairs_eq {text : List Char} {first : Nat} {others : List Nat}
    (h : markers text = first :: others) :
    markerPairs text =
      List.replicate others.length ((first : Int), (first : Int)) ++ [((first : Int), -1)] := by
  have hplace : find endMarker text = first := by
    rw [find, indexOf?_eq (by decide), ← markers, h]
    rfl
  rw [markerPairs, foundMarkers_eq, h, List.length_cons, pairsOf_replicate, hplace]

theorem markerPairs_nil {text : List Char} (h : markers text = []) : markerPairs text = [] := by
  rw [markerPairs, foundMarkers_eq, h]
  rfl

/-- The markers of a text stand at different places. -/
theorem markers_nodup (text : List Char) : (markers text).Nodup :=
  List.nodup_range.filter _

/-- **Segments are found exactly where there is at most one marker.**  A text is separated without
failing, which says one marker for each that the text has, and gives as many pairs.  But each place
in them is that of the first marker, apart from the `-1` that ends the last pair.  So the pairs are
the segments between the markers exactly when the text has not more than one. -/
theorem segments_found_iff (text : String) (s : Session) :
    ∃ pairs, (separate (.text text)).perform s =
        (.ok pairs, s.printed ((Value.plainList (List.replicate (markers text.toList).length
          (Value.ofChars endMarker))).displayed ++ ['\n'])) ∧
      pairs.length = (markers text.toList).length ∧
      (∀ first ∈ (markers text.toList).head?,
        pairs = List.replicate (pairs.length - 1) ((first : Int), (first : Int)) ++
          [((first : Int), -1)]) ∧
      (pairs = segmentsAt (markers text.toList) ↔ (markers text.toList).length ≤ 1) := by
  have hfound : (foundMarkers text.toList).map Value.ofChars =
      List.replicate (markers text.toList).length (Value.ofChars endMarker) := by
    rw [foundMarkers_eq, List.map_replicate]
  refine ⟨markerPairs text.toList, ?_, ?_⟩
  · rw [← hfound]
    rfl
  have hnodup := markers_nodup text.toList
  rcases hmarkers : markers text.toList with _ | ⟨first, _ | ⟨second, others⟩⟩
  · rw [markerPairs_nil hmarkers]
    exact ⟨rfl, fun first hfirst => (by cases hfirst), ⟨fun _ => Nat.zero_le 1, fun _ => rfl⟩⟩
  · rw [markerPairs_eq hmarkers]
    refine ⟨rfl, fun place hplace => ?_, ⟨fun _ => Nat.le_refl 1, fun _ => rfl⟩⟩
    obtain rfl := Option.mem_some_iff.mp hplace
    rfl
  · rw [markerPairs_eq hmarkers]
    refine ⟨by simp, fun place hplace => ?_, ⟨fun hpairs => ?_, fun hone => ?_⟩⟩
    · obtain rfl := Option.mem_some_iff.mp hplace
      simp
    · -- the first pair would have to end at the second marker
      have hends : ((first : Int), (first : Int)) = ((first : Int), (second : Int)) :=
        (List.cons.inj hpairs).1
      have hsame : first = second := Int.ofNat_inj.mp (Prod.mk.inj hends).2
      rw [hmarkers] at hnodup
      exact absurd (hsame ▸ List.mem_cons_self) (List.nodup_cons.mp hnodup).1
    · exact absurd hone (by simp)

/-- Two workflows, each with its marker. -/
def twoWorkflows : String := "a___WORKFLOW END___\nb___WORKFLOW END___\n"

/-- Both pairs of that text are about its first marker, and the place of the second is not given. -/
theorem second_marker_misplaced :
    markers twoWorkflows.toList = [1, 21] ∧
      segmentsAt (markers twoWorkflows.toList) = [(1, 21), (21, -1)] ∧
      ∃ s', (separate (.text twoWorkflows)).perform {} = (.ok [(1, 1), (1, -1)], s') := by
  have hmarkers : markers twoWorkflows.toList = [1, 21] := by decide +kernel
  refine ⟨hmarkers, by rw [hmarkers]; rfl, _, Prod.ext ?_ rfl⟩
  exact congrArg Except.ok (markerPairs_eq hmarkers)

end Bundle
end WorkflowAudit

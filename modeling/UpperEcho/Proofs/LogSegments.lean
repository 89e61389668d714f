import UpperEcho.Log.Logger

/-! Segments of a rotated log, seen from its bytes (`pushLine`, `segmented_run`). -/
namespace UpperEcho

def lineBytes (clock : String) (r : LogRecord) : Bytes := (linePieces clock r.origin r.text).flatMap (·.2)

def pushLine (maxSize keep : Nat) (state : List Bytes × Bytes) (line : Bytes) : List Bytes × Bytes :=
  if (state.2 ++ line).length ≤ maxSize then (state.1, state.2 ++ line)
  else ((state.2 ++ line) :: state.1.take (keep - 1), [])

def Segmented (keep : Nat) (written : List Bytes) (state : List Bytes × Bytes) : Prop :=
  ∃ closed : List (List Bytes), ∃ current : List Bytes, ∃ lost : Nat,
    closed.flatten ++ current = written ∧ state.2 = current.flatten ∧
    state.1 = ((closed.drop lost).map List.flatten).reverse ∧
    (0 < lost → state.1.length = keep) ∧ state.1.length ≤ keep

theorem segmented_start {keep : Nat} {segs : List Bytes} (few : segs.length ≤ keep) (cur : Bytes) :
    Segmented keep (segs.reverse ++ [cur]) (segs, cur) := by
  have single : ∀ l : List Bytes, (l.map fun s => [s]).flatten = l := by
    intro l
    induction l <;> simp_all
  refine ⟨segs.reverse.map fun s => [s], [cur], 0, by rw [single], by simp, ?_, by simp, few⟩
  simp [Function.comp_def]

theorem segmented_push {maxSize keep : Nat} (keep1 : 1 ≤ keep) {written : List Bytes}
    {state : List Bytes × Bytes} (h : Segmented keep written state) (line : Bytes) :
    Segmented keep (written ++ [line]) (pushLine maxSize keep state line) := by
  obtain ⟨segs, cur⟩ := state
  obtain ⟨closed, current, lost, pieces, active, copies, full, few⟩ := h
  dsimp only at active copies full few
  unfold pushLine
  dsimp only
  split
  · -- the line stays in the open file
    refine ⟨closed, current ++ [line], lost, by rw [← pieces, List.append_assoc], by simp [active], copies,
      full, few⟩
  · -- the open file is closed as a segment; the copies past `keep` go
    have len : segs.length = closed.length - lost := by simp [copies]
    obtain ⟨d, drop⟩ : ∃ d, segs.length - (keep - 1) = d := ⟨_, rfl⟩
    refine ⟨closed ++ [current ++ [line]], [], lost + d, by simp [← pieces], rfl, ?_, ?_, ?_⟩
    · have within : lost + d ≤ closed.length := by omega
      have older : ((closed.drop (lost + d)).map List.flatten).reverse = segs.take (keep - 1) := by
        rw [← List.drop_drop, List.map_drop, ← List.reverse_reverse ((closed.drop lost).map List.flatten),
          ← copies, List.drop_reverse, List.reverse_reverse, List.take_eq_take_min (l := segs) (i := keep - 1)]
        congr 1
        omega
      rw [List.drop_append_of_le_length within, List.map_append, List.reverse_append, older]
      simp [active]
    · intro _
      simp only [List.length_cons, List.length_take]
      omega
    · simp only [List.length_cons, List.length_take]
      omega

theorem segmented_run {maxSize keep : Nat} (keep1 : 1 ≤ keep) :
    ∀ (lines written : List Bytes) (state : List Bytes × Bytes), Segmented keep written state →
      Segmented keep (written ++ lines) (lines.foldl (pushLine maxSize keep) state)
  | [], written, state, h => by simpa using h
  | line :: lines, written, state, h => by
    have step : Segmented keep (written ++ [line]) (pushLine maxSize keep state line) :=
      segmented_push keep1 h line
    simpa using segmented_run keep1 lines (written ++ [line]) _ step

end UpperEcho

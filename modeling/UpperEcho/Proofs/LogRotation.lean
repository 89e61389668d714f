import Mathlib
import UpperEcho.Proofs.LogDirectory
import UpperEcho.Proofs.LogSegments

/-! Log rotation on a directory that `LogDir` describes, and the segments a rotating log keeps over any
run of log calls. -/
namespace UpperEcho

open Host

def countdown : Nat → List Nat
  | 0 => []
  | k + 1 => (k + 1) :: countdown k

theorem countdown_eq (j : Nat) : countdown j = (List.range' 1 j).reverse := by
  induction j with
  | zero => rfl
  | succ j ih => simp [countdown, ih, List.range'_concat, Nat.add_comm]

theorem length_countdown (j : Nat) : (countdown j).length = j := by
  simp [countdown_eq]

theorem LogDir.sorted {fs : FileSystem} {D : Location} {name : String} {node : Nat} {segs : List Bytes}
    {cur : Bytes} (h : LogDir fs D name node (segs.zipIdx 1) cur) :
    ((((fs.children D).filterMap fun e => (fs.inode? e.2).map fun i => (e.1, i)).filterMap
      fun e => if e.2.isFile then rotationNumber name e.1 else none).mergeSort (· ≤ ·)).reverse =
      countdown segs.length := by
  have found := h.found
  rw [List.zipIdx_map_snd] at found
  rw [countdown_eq]
  congr 1
  have ascending : (List.range' 1 segs.length).Pairwise fun a b => decide (a ≤ b) = true := by
    simpa using List.pairwise_le_range' (s := 1) (n := segs.length) 1
  -- the sorted numbers and `1 … j` are sorted permutations of each other
  apply List.Perm.eq_of_pairwise _ (List.pairwise_mergeSort _ _ _) ascending
    ((List.mergeSort_perm _ _).trans found)
  · intro a b _ _ ab ba
    simp at ab ba
    omega
  · intro a b c ab bc
    simp at ab bc ⊢
    omega
  · intro a b
    simp
    omega

theorem zipIdx_take_succ {segs : List Bytes} {k : Nat} (short : k < segs.length) :
    (segs.take (k + 1)).zipIdx 1 = (segs.take k).zipIdx 1 ++ [(segs[k], k + 1)] := by
  rw [← List.take_append_getElem short, List.zipIdx_append]
  simp
  omega

section Steps

variable {D : Location} {name : String} {node : Nat} {cur : Bytes} (plainD : ∀ d ∈ D, Plain d)

include plainD

theorem LogDir.dropSurplus {segs : List Bytes} (keep : Nat) (j : Nat) (short : j ≤ segs.length) (q : Program)
    (h : LogDir q.fs D name node ((segs.take j).zipIdx 1) cur) :
    ∃ fs', LogFile.dropSurplus ⟨true, D, false⟩ name keep (countdown j) q =
        (countdown (min j (keep - 1)), { q with fs := fs' }) ∧
      LogDir fs' D name node ((segs.take (min j (keep - 1))).zipIdx 1) cur := by
  induction j generalizing q with
  | zero => exact ⟨q.fs, rfl, by simpa using h⟩
  | succ j ih =>
    rw [countdown, LogFile.dropSurplus, length_countdown]
    by_cases few : j + 1 < keep
    · rw [if_pos few, Nat.min_eq_left (by omega)]
      exact ⟨q.fs, rfl, h⟩
    · rw [if_neg few, Nat.min_eq_right (by omega : keep - 1 ≤ j + 1)]
      -- the highest copy goes, and the rest are dropped as before
      rw [zipIdx_take_succ short] at h
      obtain ⟨fs₁, removed, h₁⟩ := LogDir.remove plainD h
      rw [List.append_nil] at h₁
      obtain ⟨fs₂, dropped, h₂⟩ := ih (by omega) { q with fs := fs₁ } h₁
      rw [Nat.min_eq_right (by omega : keep - 1 ≤ j)] at dropped h₂
      refine ⟨fs₂, ?_, h₂⟩
      simp only [copyPath_join, removed]
      exact dropped

theorem LogDir.shiftUp {segs : List Bytes} (bound : segs.length + 1 ≤ Nat.pow 2 64 - 1) (k : Nat)
    (short : k ≤ segs.length) (q : Program)
    (h : LogDir q.fs D name node ((segs.take k).zipIdx 1 ++ (segs.drop k).zipIdx (k + 2)) cur) :
    ∃ fs', LogFile.shiftUp .release ⟨true, D, false⟩ name (countdown k) q = (some (), { q with fs := fs' }) ∧
      LogDir fs' D name node (segs.zipIdx 2) cur := by
  induction k generalizing q with
  | zero => exact ⟨q.fs, rfl, by simpa using h⟩
  | succ k ih =>
    rw [countdown, LogFile.shiftUp, usizeSucc_of_lt _ (by omega)]
    dsimp only
    rw [zipIdx_take_succ short, List.append_assoc, List.singleton_append] at h
    -- below the renamed copy the numbers are at most `k`, above it at least `k + 3`
    have free : ∀ e ∈ (segs.take k).zipIdx 1 ++ (segs.drop (k + 1)).zipIdx (k + 1 + 2), e.2 ≠ k + 1 + 1 := by
      rintro ⟨x, i⟩ mem
      rcases List.mem_append.1 mem with below | above
      · have := List.mem_zipIdx below
        simp at this
        omega
      · have := List.mem_zipIdx above
        simp only at this ⊢
        omega
    obtain ⟨fs₁, renamed, h₁⟩ := LogDir.rename plainD h free (by omega)
    have joined : (segs[k], k + 1 + 1) :: (segs.drop (k + 1)).zipIdx (k + 1 + 2) = (segs.drop k).zipIdx (k + 2) := by
      rw [List.drop_eq_getElem_cons (by omega : k < segs.length), List.zipIdx_cons]
    rw [joined] at h₁
    obtain ⟨fs₂, shifted, h₂⟩ := ih (by omega) { q with fs := fs₁ } h₁
    refine ⟨fs₂, ?_, h₂⟩
    simp only [copyPath_join, renamed]
    exact shifted

theorem LogDir.rotate {segs : List Bytes} {f : LogFile} (path : f.path = ⟨true, D ++ [name], false⟩)
    (plainName : Plain name) (keep : f.keep ≤ Nat.pow 2 64 - 1) (q : Program)
    (h : LogDir q.fs D name f.inode (segs.zipIdx 1) cur) :
    ∃ fs', f.rotate q = (some (.ok ()), { q with fs := fs' }) ∧
      LogDir fs' D name f.inode ((cur :: segs.take (f.keep - 1)).zipIdx 1) cur := by
  have parent : f.path.parent? = some ⟨true, D, false⟩ := by
    rw [path]
    exact parent_plain plainD plainName
  have file : f.path.fileName? = some name := by
    rw [path]
    exact fileName_plain plainD plainName
  have one : 1 ≤ Nat.pow 2 64 - 1 := by decide
  -- the surplus goes, the rest move up, the file is copied to the freed number 1
  obtain ⟨fs₁, dropped, h₁⟩ := LogDir.dropSurplus plainD f.keep segs.length (Nat.le_refl _) q
    (by simpa using h)
  obtain ⟨i, kept⟩ : ∃ i, min segs.length (f.keep - 1) = i := ⟨_, rfl⟩
  rw [kept] at dropped h₁
  have h₁' : LogDir fs₁ D name f.inode (((segs.take i).take i).zipIdx 1 ++ ((segs.take i).drop i).zipIdx (i + 2)) cur := by
    rw [List.take_take, Nat.min_self, List.drop_eq_nil_of_le (by simp), List.zipIdx_nil, List.append_nil]
    exact h₁
  have bound : (segs.take i).length + 1 ≤ Nat.pow 2 64 - 1 := by
    simp only [List.length_take]
    omega
  obtain ⟨fs₂, shifted, h₂⟩ := LogDir.shiftUp plainD bound i (by simp; omega) { q with fs := fs₁ } h₁'
  have free : ∀ e ∈ (segs.take i).zipIdx 2, e.2 ≠ 1 := by
    rintro ⟨x, k⟩ mem
    have := List.mem_zipIdx mem
    simp only at this ⊢
    omega
  obtain ⟨fs₃, copied, h₃⟩ := LogDir.copy plainD (p := { q with fs := fs₂ }) h₂ plainName free
  obtain ⟨fs₄, moded, h₄⟩ := LogDir.setMode plainD (p := { q with fs := fs₃ }) h₃ List.mem_cons_self 0o400
  refine ⟨fs₄, ?_, ?_⟩
  · rw [LogFile.rotate, parent, file]
    dsimp only
    rw [readDir_dir plainD h.dirs]
    dsimp only
    rw [h.sorted, dropped]
    dsimp only
    rw [shifted]
    dsimp only
    rw [copyPath_join, path, copied]
    dsimp only
    rw [moded]
  · have same : segs.take i = segs.take (f.keep - 1) := by
      rw [List.take_eq_take_min (l := segs) (i := f.keep - 1), Nat.min_comm, kept]
    rw [List.zipIdx_cons, ← same]
    exact h₄

end Steps

theorem LogDir.writePieces {D : Location} {name : String} {copies : List (Bytes × Nat)} (f : LogFile) :
    ∀ (pieces : List (String × Bytes)) (q : Program) (cur : Bytes), q.fileLimit = none →
      LogDir q.fs D name f.inode copies cur →
      ∃ fs', f.writePieces q pieces = { q with fs := fs' } ∧
        LogDir fs' D name f.inode copies (cur ++ pieces.flatMap (·.2))
  | [], q, cur, _, h => ⟨q.fs, rfl, by simpa using h⟩
  | (what, bs) :: rest, q, cur, noLimit, h => by
    obtain ⟨fs₁, written, h₁⟩ := h.write noLimit bs
    obtain ⟨fs₂, wrote, h₂⟩ := LogDir.writePieces f rest { q with fs := fs₁ } (cur ++ bs) noLimit h₁
    refine ⟨fs₂, ?_, by simpa using h₂⟩
    rw [LogFile.writePieces, written]
    exact wrote

theorem LogDir.put {D : Location} {name : String} {segs : List Bytes} {cur : Bytes} {f : LogFile}
    (plainD : ∀ d ∈ D, Plain d) (plainName : Plain name) (path : f.path = ⟨true, D ++ [name], false⟩)
    (bound : f.keep ≤ Nat.pow 2 64 - 1) (clock : String) (r : LogRecord) (q : Program)
    (noLimit : q.fileLimit = none) (h : LogDir q.fs D name f.inode (segs.zipIdx 1) cur) :
    ∃ fs', f.put clock q r = { q with fs := fs' } ∧
      LogDir fs' D name f.inode ((pushLine f.maxSize f.keep (segs, cur) (lineBytes clock r)).1.zipIdx 1)
        (pushLine f.maxSize f.keep (segs, cur) (lineBytes clock r)).2 := by
  obtain ⟨fs₁, written, h₁⟩ := LogDir.writePieces f (linePieces clock r.origin r.text) q cur noLimit h
  rw [LogFile.put, written]
  dsimp only
  rw [h₁.sizeOf_active, pushLine]
  unfold lineBytes
  by_cases fits : (cur ++ (linePieces clock r.origin r.text).flatMap (·.2)).length ≤ f.maxSize
  · rw [if_pos fits, if_pos fits]
    exact ⟨fs₁, rfl, h₁⟩
  · rw [if_neg fits, if_neg fits]
    obtain ⟨fs₂, rotated, h₂⟩ := LogDir.rotate plainD path plainName bound { q with fs := fs₁ } h₁
    rw [rotated]
    exact ⟨fs₂.truncate f.inode, rfl, h₂.truncate⟩

theorem sizeOf_truncate (fs : FileSystem) (n : Nat) : (fs.truncate n).sizeOf n = 0 := by
  unfold FileSystem.truncate FileSystem.modifyInode
  cases found : fs.inode? n with
  | none => simp [FileSystem.sizeOf, found]
  | some i =>
    obtain ⟨node, m⟩ := i
    cases node <;> simp [FileSystem.sizeOf, FileSystem.inode?_setInode, found, Inode.size]

theorem put_size (f : LogFile) (clock : String) (p : Program) (r : LogRecord) :
    (f.put clock p r).fs.sizeOf f.inode ≤ f.maxSize := by
  unfold LogFile.put
  dsimp only
  split
  · assumption
  · split
    · -- built for release, the rotation returns
      rename_i aborted
      have returned := rotate_returns f (f.writePieces p (linePieces clock r.origin r.text))
      rw [aborted] at returned
      cases returned
    · simp [sizeOf_truncate]

theorem log_file {f : LogFile} {level : LevelFilter} {clock : String} {r : LogRecord}
    (allowed : level.allows r.level = true) (q : Program) :
    (⟨some [.file f], level, clock⟩ : Logger).log q r = f.put clock q r := by
  simp only [Logger.log, allowed, if_true, Logger.emit, List.foldl_cons, List.foldl_nil, Sink.put]

theorem LogDir.logAll {D : Location} {name : String} {f : LogFile} (level : LevelFilter) (clock : String)
    (plainD : ∀ d ∈ D, Plain d) (plainName : Plain name) (path : f.path = ⟨true, D ++ [name], false⟩)
    (bound : f.keep ≤ Nat.pow 2 64 - 1) :
    ∀ (rs : List LogRecord) (q : Program) (segs : List Bytes) (cur : Bytes), q.fileLimit = none →
      LogDir q.fs D name f.inode (segs.zipIdx 1) cur →
      ∃ fs', (⟨some [.file f], level, clock⟩ : Logger).logAll q rs = { q with fs := fs' } ∧
        LogDir fs' D name f.inode
          ((((rs.filter fun r => level.allows r.level).map (lineBytes clock)).foldl
            (pushLine f.maxSize f.keep) (segs, cur)).1.zipIdx 1)
          (((rs.filter fun r => level.allows r.level).map (lineBytes clock)).foldl
            (pushLine f.maxSize f.keep) (segs, cur)).2
  | [], q, segs, cur, _, h => ⟨q.fs, rfl, h⟩
  | r :: rs, q, segs, cur, noLimit, h => by
    rw [Logger.logAll, List.foldl_cons, ← Logger.logAll]
    by_cases allowed : level.allows r.level = true
    · obtain ⟨fs₁, logged, h₁⟩ := LogDir.put plainD plainName path bound clock r q noLimit h
      obtain ⟨fs₂, run, h₂⟩ := LogDir.logAll level clock plainD plainName path bound rs { q with fs := fs₁ } _ _
        noLimit h₁
      refine ⟨fs₂, ?_, ?_⟩
      · rw [log_file allowed, logged, run]
      · simpa [allowed] using h₂
    · have skipped := Logger.log_filtered ⟨some [.file f], level, clock⟩ q r (by simpa using allowed)
      obtain ⟨fs₂, run, h₂⟩ := LogDir.logAll level clock plainD plainName path bound rs q segs cur noLimit h
      refine ⟨fs₂, ?_, ?_⟩
      · rw [skipped, run]
      · simpa [allowed] using h₂

theorem rotatingLogKeepsSegments (f : LogFile) (level : LevelFilter) (clock : String) (p : Program)
    (rs : List LogRecord) (D : Location) (name : String) (segs : List Bytes) (cur : Bytes)
    (path : f.path = ⟨true, D ++ [name], false⟩) (plainD : ∀ d ∈ D, Plain d) (plainName : Plain name)
    (dir : LogDir p.fs D name f.inode (segs.zipIdx 1) cur) (noLimit : p.fileLimit = none)
    (keep : 1 ≤ f.keep) (bound : f.keep ≤ Nat.pow 2 64 - 1) (few : segs.length ≤ f.keep) :
    (∀ (q : Program) (r : LogRecord), level.allows r.level = true →
      ((⟨some [.file f], level, clock⟩ : Logger).log q r).fs.sizeOf f.inode ≤ f.maxSize) ∧
    ∃ fs' segs' cur', (⟨some [.file f], level, clock⟩ : Logger).logAll p rs = { p with fs := fs' } ∧
      LogDir fs' D name f.inode (segs'.zipIdx 1) cur' ∧
      Segmented f.keep (segs.reverse ++ [cur] ++ (rs.filter fun r => level.allows r.level).map (lineBytes clock))
        (segs', cur') := by
  constructor
  · intro q r allowed
    rw [log_file allowed]
    exact put_size f clock q r
  · obtain ⟨fs', run, h⟩ := LogDir.logAll level clock plainD plainName path bound rs p segs cur noLimit dir
    exact ⟨fs', _, _, run, h, segmented_run keep _ _ _ (segmented_start few cur)⟩

theorem rotatingLogFromCopies :
    let old : Bytes := [111, 108, 100, 10]
    let fs : FileSystem := ⟨[([], 0), (["r.log"], 1), (["r.log.1"], 2)],
      [(0, ⟨.dir, 0o755⟩), (1, ⟨.file [], 0o600⟩), (2, ⟨.file old, 0o400⟩)], 3⟩
    let f : LogFile := ⟨⟨true, ["r.log"], false⟩, 1, 16, 2⟩
    let p : Program := { fs := fs }
    let rs : List LogRecord := [⟨.info, some "app", "first record"⟩, ⟨.info, some "app", "second record"⟩,
      ⟨.debug, some "app", "dropped"⟩, ⟨.info, some "app", "third"⟩]
    LogDir fs [] "r.log" f.inode ([old].zipIdx 1) [] ∧
    (∀ (q : Program) (r : LogRecord), (LevelFilter.upTo .info).allows r.level = true →
      ((⟨some [.file f], .upTo .info, "T"⟩ : Logger).log q r).fs.sizeOf f.inode ≤ f.maxSize) ∧
    ∃ fs' segs' cur', (⟨some [.file f], .upTo .info, "T"⟩ : Logger).logAll p rs = { p with fs := fs' } ∧
      LogDir fs' [] "r.log" f.inode (segs'.zipIdx 1) cur' ∧
      Segmented f.keep ([old].reverse ++ [[]] ++
        (rs.filter fun r => (LevelFilter.upTo .info).allows r.level).map (lineBytes "T")) (segs', cur') := by
  intro old fs f p rs
  have listing : fs.children [] = [("r.log", 1), ("r.log.1", 2)] := by decide
  have dir : LogDir fs [] "r.log" 1 ([old].zipIdx 1) [] := by
    refine ⟨fun k short => ?_, rfl, ⟨0o600, rfl⟩, ?_, by simp, by rw [listing]; decide, ?_,
      namedFiles_of_names (by decide), by rw [listing]; decide, fun k late => ?_⟩
    · simp at short
      subst short
      rfl
    · simp only [List.zipIdx_cons, List.zipIdx_nil, List.mem_singleton, forall_eq]
      exact ⟨2, 0o400, by decide, by decide, rfl⟩
    · rw [listing]
      decide +kernel
    · have above : k ≠ 0 ∧ k ≠ 1 ∧ k ≠ 2 := by
        simp only [fs] at late
        omega
      simp [fs, FileSystem.inode?, List.lookup_cons, beq_false_of_ne above.1, beq_false_of_ne above.2.1,
        beq_false_of_ne above.2.2]
  exact ⟨dir, rotatingLogKeepsSegments f (.upTo .info) "T" p rs [] "r.log" [old] [] rfl (by simp)
    ⟨by decide, by decide⟩ dir rfl (by decide) (by decide) (by decide)⟩

theorem cutLineStaysLogged :
    let clock := "2024-01-01 00:00:00"
    let r : LogRecord := ⟨.info, some "ucased::server::relay", "ab"⟩
    let lg : Logger := ⟨some [.file ⟨⟨true, ["r.log"], false⟩, 1, 1024, 2⟩], .upTo .trace, clock⟩
    let p : Program :=
      { fs := ⟨[([], 0), (["r.log"], 1)], [(0, ⟨.dir, 0o755⟩), (1, ⟨.file [], 0o600⟩)], 2⟩, fileLimit := some 43 }
    let q := lg.logAll p [r]
    (lineBytes clock r).length = 45 ∧
      q.fs.inode? 1 = some ⟨.file ((lineBytes clock r).take 43), 0o600⟩ ∧ q.stdout = [] ∧ q.stderr = [] := by
  cbv

end UpperEcho

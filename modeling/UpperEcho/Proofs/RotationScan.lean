import UpperEcho.Proofs.LogDirectory

/-! What the rotation's scan reads over any directory: copies are kept to `keep` only where every file
read as a copy bears the name of its number (`Canonical`). -/
namespace UpperEcho

open Host

def scanEntry (fs : FileSystem) (name : String) (e : String × Nat) : Option Nat :=
  if (fs.inode? e.2).any Inode.isFile then rotationNumber name e.1 else none

def scanNumbers (fs : FileSystem) (D : Location) (name : String) : List Nat :=
  (fs.children D).filterMap (scanEntry fs name)

def highestFirst (fs : FileSystem) (D : Location) (name : String) : List Nat :=
  ((scanNumbers fs D name).mergeSort (· ≤ ·)).reverse

structure Kept (fs : FileSystem) (D : Location) : Prop where
  dirs : fs.DirsAt D
  unique : ((fs.children D).map Prod.fst).Nodup
  linked : ∀ e ∈ fs.children D, (fs.inode? e.2).isSome

def Canonical (fs : FileSystem) (D : Location) (name : String) : Prop :=
  ∀ e ∈ fs.children D, ∀ k ∈ scanEntry fs name e, e.1 = copyName name k

def Present (fs : FileSystem) (D : Location) (name : String) (k : Nat) : Prop :=
  k ≤ Nat.pow 2 64 - 1 ∧
    ∃ n, fs.number? (D ++ [copyName name k]) = some n ∧ (fs.inode? n).any Inode.isFile

theorem Host.FileSystem.mem_children_of_number {fs : FileSystem} {D : Location} {x : String} {n : Nat}
    (named : fs.number? (D ++ [x]) = some n) : (x, n) ∈ fs.children D := by
  rw [FileSystem.number?, ← FileSystem.children_lookup, ← FileSystem.children_eq] at named
  obtain ⟨l₁, l₂, split, -⟩ := List.lookup_eq_some_iff.1 named
  rw [split]
  simp

theorem Kept.number_of_child {fs : FileSystem} {D : Location} (kept : Kept fs D) {x : String} {n : Nat}
    (mem : (x, n) ∈ fs.children D) : fs.number? (D ++ [x]) = some n := by
  rw [FileSystem.number?, ← FileSystem.children_lookup, ← FileSystem.children_eq]
  exact lookup_of_mem kept.unique mem

/-! ### The scan -/

theorem rotationNumber_le {name x : String} {k : Nat} (h : rotationNumber name x = some k) :
    k ≤ Nat.pow 2 64 - 1 := by
  unfold rotationNumber at h
  split at h
  · exact (Net.decimal_eq_some.1 h).2.2.1
  · simp at h

theorem found_eq_scan (fs : FileSystem) (D : Location) (name : String) :
    ((fs.children D).filterMap fun e => (fs.inode? e.2).map fun i => (e.1, i)).filterMap
      (fun e => if e.2.isFile then rotationNumber name e.1 else none) = scanNumbers fs D name := by
  rw [List.filterMap_filterMap, scanNumbers]
  apply List.filterMap_congr
  rintro ⟨x, n⟩ -
  cases node : fs.inode? n <;> simp [scanEntry, node]

theorem scanEntry_le {fs : FileSystem} {name : String} {e : String × Nat} {k : Nat}
    (h : scanEntry fs name e = some k) : k ≤ Nat.pow 2 64 - 1 := by
  unfold scanEntry at h
  split at h
  · exact rotationNumber_le h
  · simp at h

theorem scan_le {fs : FileSystem} {D : Location} {name : String} {k : Nat}
    (mem : k ∈ scanNumbers fs D name) : k ≤ Nat.pow 2 64 - 1 := by
  obtain ⟨e, -, read⟩ := List.mem_filterMap.1 mem
  exact scanEntry_le read

theorem nodup_scan_of_named {fs : FileSystem} {name : String} :
    ∀ {l : List (String × Nat)}, (l.map Prod.fst).Nodup →
      (∀ e ∈ l, ∀ k ∈ scanEntry fs name e, e.1 = copyName name k) →
        (l.filterMap (scanEntry fs name)).Nodup
  | [], _, _ => List.nodup_nil
  | e :: l, unique, named => by
    obtain ⟨fresh, unique⟩ := List.nodup_cons.1 unique
    have rest := nodup_scan_of_named unique fun e' mem => named e' (List.mem_cons_of_mem _ mem)
    rw [List.filterMap_cons]
    cases read : scanEntry fs name e with
    | none => exact rest
    | some k =>
      refine List.nodup_cons.2 ⟨fun mem => fresh ?_, rest⟩
      obtain ⟨e', mem', read'⟩ := List.mem_filterMap.1 mem
      have same : e'.1 = e.1 := by
        rw [named e' (List.mem_cons_of_mem _ mem') k read', named e List.mem_cons_self k read]
      exact List.mem_map.2 ⟨e', mem', same⟩

theorem scan_nodup {fs : FileSystem} {D : Location} {name : String} (kept : Kept fs D)
    (canonical : Canonical fs D name) : (scanNumbers fs D name).Nodup :=
  nodup_scan_of_named kept.unique canonical

theorem highestFirst_perm (fs : FileSystem) (D : Location) (name : String) :
    (highestFirst fs D name).Perm (scanNumbers fs D name) :=
  (List.reverse_perm _).trans (List.mergeSort_perm _ _)

theorem highestFirst_desc (fs : FileSystem) (D : Location) (name : String) :
    (highestFirst fs D name).Pairwise (· ≥ ·) := by
  have ascending : ((scanNumbers fs D name).mergeSort (· ≤ ·)).Pairwise (fun a b => decide (a ≤ b) = true) :=
    List.pairwise_mergeSort (fun a b c ab bc => by simp at ab bc ⊢; omega) (fun a b => by simp; omega) _
  simpa [highestFirst, List.pairwise_reverse] using ascending

theorem present_of_scan {fs : FileSystem} {D : Location} {name : String} (kept : Kept fs D)
    (canonical : Canonical fs D name) {k : Nat} (mem : k ∈ scanNumbers fs D name) : Present fs D name k := by
  obtain ⟨⟨x, n⟩, child, read⟩ := List.mem_filterMap.1 mem
  have named : x = copyName name k := canonical (x, n) child k read
  subst named
  refine ⟨scanEntry_le read, n, kept.number_of_child child, ?_⟩
  · unfold scanEntry at read
    split at read
    · assumption
    · simp at read

/-! ### The surplus removal -/

theorem dropSurplus_fst (dir : Path) (name : String) (keep : Nat) (ns : List Nat) (q : Program) :
    (LogFile.dropSurplus dir name keep ns q).1 = ns.drop (ns.length + 1 - keep) := by
  induction ns generalizing q with
  | nil => simp [LogFile.dropSurplus]
  | cons k rest ih =>
    rw [LogFile.dropSurplus]
    split
    · rename_i few
      have none : (k :: rest).length + 1 - keep = 0 := by simp; omega
      rw [none, List.drop_zero]
    · rename_i many
      have one : (k :: rest).length + 1 - keep = rest.length + 1 - keep + 1 := by simp; omega
      rw [ih, one, List.drop_succ_cons]

theorem bound_mem_drop {m : Nat} :
    ∀ {l : List Nat}, l.Pairwise (· ≥ ·) → (∀ k ∈ l, k ≤ m) → ∀ d, m ∈ l.drop d ↔ d < l.count m
  | [], _, _, d => by simp
  | a :: t, desc, bounded, d => by
    obtain ⟨head, desc⟩ := List.pairwise_cons.1 desc
    by_cases top : a = m
    · subst top
      cases d with
      | zero => simp
      | succ d =>
        rw [List.drop_succ_cons, bound_mem_drop desc (fun k mem => bounded k (List.mem_cons_of_mem _ mem)) d]
        simp
    · -- every member lies below the bound, so none is dropped or kept
      have below : ∀ k ∈ a :: t, k < m := by
        intro k mem
        have lead : a < m := Nat.lt_of_le_of_ne (bounded a List.mem_cons_self) top
        rcases List.mem_cons.1 mem with rfl | later
        · exact lead
        · exact Nat.lt_of_le_of_lt (head k later) lead
      have none : (a :: t).count m = 0 := List.count_eq_zero.2 fun mem => Nat.lt_irrefl m (below m mem)
      rw [none]
      simpa using fun mem => Nat.lt_irrefl m (below m (List.mem_of_mem_drop mem))

theorem max_mem_dropSurplus (dir : Path) (name : String) (keep : Nat) (fs : FileSystem) (D : Location)
    (q : Program) :
    Nat.pow 2 64 - 1 ∈ (LogFile.dropSurplus dir name keep (highestFirst fs D name) q).1 ↔
      (scanNumbers fs D name).length + 1 - keep < (scanNumbers fs D name).count (Nat.pow 2 64 - 1) := by
  have perm := highestFirst_perm fs D name
  rw [dropSurplus_fst, bound_mem_drop (highestFirst_desc fs D name)
    (fun k mem => scan_le (perm.subset mem)), perm.length_eq, perm.count_eq]

/-! ### What each call does to the count -/

theorem scanEntry_congr {fs fs' : FileSystem} (name : String)
    (kinds : ∀ k, (fs'.inode? k).any Inode.isFile = (fs.inode? k).any Inode.isFile) :
    scanEntry fs' name = scanEntry fs name := by
  funext e
  simp [scanEntry, kinds]

theorem scan_filter_le (fs : FileSystem) (name : String) (l : List (String × Nat))
    (keep : String × Nat → Bool) :
    ((l.filter keep).filterMap (scanEntry fs name)).length ≤ (l.filterMap (scanEntry fs name)).length :=
  (List.filter_sublist.filterMap _).length_le

theorem scan_filter_lt {fs : FileSystem} {name : String} {l : List (String × Nat)} {c : String} {n : Nat}
    (mem : (c, n) ∈ l) (read : (scanEntry fs name (c, n)).isSome) :
    ((l.filter (·.1 != c)).filterMap (scanEntry fs name)).length < (l.filterMap (scanEntry fs name)).length := by
  simp only [List.length_filterMap_eq_countP]
  rw [List.countP_eq_countP_filter_add l _ (·.1 != c)]
  have taken : 0 < (l.filter fun e => !(e.1 != c)).countP fun e => (scanEntry fs name e).isSome :=
    List.countP_pos_iff.2 ⟨(c, n), List.mem_filter.2 ⟨mem, by simp⟩, read⟩
  omega

theorem scan_rename_le {fs : FileSystem} {name a b : String} (readable : (rotationNumber name a).isSome)
    (l : List (String × Nat)) :
    ((l.map (FileSystem.renameChild a b)).filterMap (scanEntry fs name)).length ≤
      (l.filterMap (scanEntry fs name)).length := by
  simp only [List.length_filterMap_eq_countP, List.countP_map]
  apply List.countP_mono_left
  rintro ⟨x, n⟩ - read
  by_cases xa : x = a
  · subst xa
    simp only [Function.comp_apply, FileSystem.renameChild, if_true, scanEntry] at read ⊢
    split at read
    · rw [if_pos ‹_›]
      exact readable
    · simp at read
  · simpa [Function.comp_apply, FileSystem.renameChild, xa] using read

/-! ### Removing and renaming within the directory -/

def movedWithin (fs : FileSystem) (D : Location) (a b : String) : FileSystem :=
  { fs with names := (fs.names.filter (·.1 != D ++ [b])).map (FileSystem.moveEntry (D ++ [a]) (D ++ [b])) }

theorem Host.Inode.isDir_of_isFile {i : Inode} (h : i.isFile = true) : i.isDir = false := by
  obtain ⟨node, mode⟩ := i
  cases node <;> simp_all [Inode.isFile, Inode.isDir]

theorem movedWithin_children (fs : FileSystem) (D : Location) (a b : String) :
    (movedWithin fs D a b).children D =
      ((fs.children D).filter (·.1 != b)).map (FileSystem.renameChild a b) := by
  rw [FileSystem.children_eq, FileSystem.children_eq]
  exact (FileSystem.children_move _ D a b).trans (congrArg _ (FileSystem.children_filter fs.names D b))

namespace Kept

variable {fs : FileSystem} {D : Location}

theorem number_of_at (kept : Kept fs D) {x : String} (absent : fs.at? (D ++ [x]) = none) :
    fs.number? (D ++ [x]) = none := by
  cases named : fs.number? (D ++ [x]) with
  | none => rfl
  | some n =>
    obtain ⟨i, node⟩ := Option.isSome_iff_exists.1 (kept.linked _ (FileSystem.mem_children_of_number named))
    simp [FileSystem.at?, named, node] at absent

theorem unlink (kept : Kept fs D) (c : String) :
    Kept { fs with names := fs.names.filter (·.1 != D ++ [c]) } D := by
  have listing : FileSystem.children { fs with names := fs.names.filter (·.1 != D ++ [c]) } D =
      (fs.children D).filter (·.1 != c) :=
    FileSystem.children_filter fs.names D c
  constructor
  · refine kept.dirs.frame (fun y short => ?_) fun _ _ found _ => found
    have far : y ≠ D ++ [c] := by
      rintro rfl
      simp at short
    simp [FileSystem.number?, FileSystem.lookup_filter_ne, far]
  · rw [listing]
    exact kept.unique.sublist (List.filter_sublist.map _)
  · rw [listing]
    exact fun e mem => kept.linked e (List.mem_of_mem_filter mem)

theorem move (kept : Kept fs D) {a b : String} (differ : a ≠ b) :
    Kept (movedWithin fs D a b) D := by
  have free : (fs.names.filter (·.1 != D ++ [b])).lookup (D ++ [b]) = none := by
    simp [FileSystem.lookup_filter_ne]
  constructor
  · refine kept.dirs.frame (fun y short => ?_) fun _ _ found _ => found
    have far : ∀ c, y ≠ D ++ [c] := by
      rintro c rfl
      simp at short
    show ((fs.names.filter (·.1 != D ++ [b])).map (FileSystem.moveEntry (D ++ [a]) (D ++ [b]))).lookup y = _
    rw [FileSystem.lookup_move _ free (by simpa using differ) (by simp) (by simp; omega), if_neg (far b),
      if_neg (far a), FileSystem.lookup_filter_ne, if_neg (far b)]
    rfl
  · rw [movedWithin_children, names_renameChild]
    have sub : (((fs.children D).filter (·.1 != b)).map Prod.fst).Nodup :=
      kept.unique.sublist (List.filter_sublist.map _)
    apply List.Nodup.map_on _ sub
    intro x xmem y ymem same
    have apart : ∀ z ∈ ((fs.children D).filter (·.1 != b)).map Prod.fst, z ≠ b := by
      intro z mem
      obtain ⟨e, inner, rfl⟩ := List.mem_map.1 mem
      simpa using (List.mem_filter.1 inner).2
    by_cases xa : x = a <;> by_cases ya : y = a
    · rw [xa, ya]
    · simp only [xa, ya, if_true, if_false] at same
      exact absurd same.symm (apart y ymem)
    · simp only [xa, ya, if_true, if_false] at same
      exact absurd same (apart x xmem)
    · simpa [xa, ya] using same
  · rw [movedWithin_children]
    intro e mem
    obtain ⟨e₀, mem₀, rfl⟩ := List.mem_map.1 mem
    have same : (FileSystem.renameChild a b e₀).2 = e₀.2 := by
      unfold FileSystem.renameChild
      split <;> rfl
    rw [same]
    exact kept.linked e₀ (List.mem_of_mem_filter mem₀)

end Kept

theorem scan_movedWithin_le (fs : FileSystem) (D : Location) {name a : String}
    (readable : (rotationNumber name a).isSome) (b : String) :
    (scanNumbers (movedWithin fs D a b) D name).length ≤ (scanNumbers fs D name).length := by
  have same : scanEntry (movedWithin fs D a b) name = scanEntry fs name := rfl
  rw [scanNumbers, scanNumbers, movedWithin_children, same]
  exact (scan_rename_le readable _).trans (scan_filter_le _ _ _ _)

theorem shiftUp_aborts (prof : Profile) (dir : Path) (name : String) :
    ∀ (ns : List Nat) (q : Program), (∀ k ∈ ns, k ≤ Nat.pow 2 64 - 1) →
      ((LogFile.shiftUp prof dir name ns q).1 = none ↔ prof = .dev ∧ Nat.pow 2 64 - 1 ∈ ns)
  | [], q, _ => by simp [LogFile.shiftUp]
  | k :: rest, q, small => by
    have smallRest : ∀ j ∈ rest, j ≤ Nat.pow 2 64 - 1 := fun j mem => small j (List.mem_cons_of_mem _ mem)
    by_cases top : k = Nat.pow 2 64 - 1
    · subst top
      cases prof with
      | dev => simp [LogFile.shiftUp, usizeSucc]
      | release => simp [shiftUp_release]
    · have below : k + 1 < Nat.pow 2 64 := by
        have := small k List.mem_cons_self
        have word : Nat.pow 2 64 = 18446744073709551616 := rfl
        omega
      rw [LogFile.shiftUp, usizeSucc_of_lt prof below]
      dsimp only
      rw [shiftUp_aborts prof dir name rest _ smallRest, List.mem_cons]
      simp [Ne.symm top]

section Calls

variable {p : Program} {D : Location} {name : String} (plainD : ∀ d ∈ D, Plain d)

include plainD

theorem remove_present (kept : Kept p.fs D) {k : Nat} (present : Present p.fs D name k) :
    ∃ fs', p.removeFile ⟨true, D ++ [copyName name k], false⟩ = .ok { p with fs := fs' } ∧ Kept fs' D ∧
      (scanNumbers fs' D name).length < (scanNumbers p.fs D name).length ∧
      ∀ j, j ≠ k → Present p.fs D name j → Present fs' D name j := by
  obtain ⟨small, n, named, file⟩ := present
  obtain ⟨i, node, isFile⟩ : ∃ i, p.fs.inode? n = some i ∧ i.isFile = true := by
    cases h : p.fs.inode? n with
    | none => simp [h] at file
    | some i => exact ⟨i, rfl, by simpa [h] using file⟩
  refine ⟨_, Program.removeFile_plain kept.dirs plainD (plain_copyName name k) named node
    (Host.Inode.isDir_of_isFile isFile), kept.unlink _, ?_, ?_⟩
  · have child := FileSystem.mem_children_of_number named
    have read : (scanEntry p.fs name (copyName name k, n)).isSome := by
      simp [scanEntry, node, isFile, rotationNumber_copyName name small]
    rw [scanNumbers, FileSystem.children_eq, FileSystem.children_filter, ← FileSystem.children_eq]
    exact scan_filter_lt child read
  · rintro j other ⟨smallJ, m, namedJ, fileJ⟩
    have far : D ++ [copyName name j] ≠ D ++ [copyName name k] := by
      simpa using fun same => other (copyName_injective name same)
    refine ⟨smallJ, m, ?_, fileJ⟩
    simpa [FileSystem.number?, FileSystem.lookup_filter_ne, far] using namedJ

theorem rename_either (kept : Kept p.fs D) {a b : String} (plainA : Plain a) (plainB : Plain b)
    (differ : a ≠ b) :
    (∃ e, p.rename ⟨true, D ++ [a], false⟩ ⟨true, D ++ [b], false⟩ = .error e) ∨
      p.rename ⟨true, D ++ [a], false⟩ ⟨true, D ++ [b], false⟩ =
        .ok { p with fs := movedWithin p.fs D a b } := by
  have dst : (Target.location <$> p.target ⟨true, D ++ [b], false⟩) = .ok (D ++ [b]) := by
    rw [Program.target_plain kept.dirs plainD plainB]
    rfl
  cases src : p.fs.at? (D ++ [a]) with
  | none =>
    have missing : p.place ⟨true, D ++ [a], false⟩ = .error .noEntry := by
      simp [Program.place, Program.target_plain kept.dirs plainD plainA, bind, Except.bind,
        FileSystem.existing, src]
    exact .inl ⟨_, by simp only [Program.rename, missing]; rfl⟩
  | some si =>
    obtain ⟨n, named, node⟩ : ∃ n, p.fs.number? (D ++ [a]) = some n ∧ p.fs.inode? n = some si := by
      simpa [FileSystem.at?, Option.bind_eq_some_iff] using src
    have found := FileSystem.find_of (FileSystem.reach_of_dirs kept.dirs a) named node
    have moved : (D ++ [a] == D ++ [b]) = false := by simpa using differ
    have notBelow : (D ++ [a]).isPrefixOf (D ++ [b]) = false := by
      cases below : (D ++ [a]).isPrefixOf (D ++ [b])
      · rfl
      · have := (List.isPrefixOf_iff_prefix.1 below).eq_of_length (by simp)
        simp_all
    -- what the tree call answers, case by case on what the two names hold
    have outcome : (∃ e, p.fs.rename (D ++ [a]) (D ++ [b]) = .error e) ∨
        p.fs.rename (D ++ [a]) (D ++ [b]) = .ok (movedWithin p.fs D a b) := by
      cases dstAt : p.fs.at? (D ++ [b]) with
      | none =>
        have free := kept.number_of_at dstAt
        have same : p.fs.names.filter (·.1 != D ++ [b]) = p.fs.names := by
          apply List.filter_eq_self.2
          intro e mem
          have apart := List.lookup_eq_none_iff.1 free e mem
          simpa [bne_comm] using apart
        right
        rw [movedWithin, same]
        simp only [FileSystem.rename, found, FileSystem.reach_of_dirs kept.dirs b, moved, notBelow, dstAt,
          Bool.and_false, Bool.false_eq_true, ↓reduceIte, bind, Except.bind, pure, Except.pure]
        rfl
      | some di =>
        simp only [FileSystem.rename, found, FileSystem.reach_of_dirs kept.dirs b, moved, notBelow, dstAt,
          Bool.and_false, Bool.false_eq_true, ↓reduceIte, bind, Except.bind, pure, Except.pure]
        split
        · split
          · exact .inl ⟨_, rfl⟩
          · split
            · exact .inl ⟨_, rfl⟩
            · exact .inr rfl
        · split
          · exact .inl ⟨_, rfl⟩
          · exact .inr rfl
    rcases outcome with ⟨e, failed⟩ | done
    · refine .inl ⟨e.fault, ?_⟩
      simp only [Program.rename, Program.place_plain kept.dirs plainD plainA src, dst, failed]
      rfl
    · refine .inr ?_
      simp only [Program.rename, Program.place_plain kept.dirs plainD plainA src, dst, done]
      rfl

theorem scan_dropSurplus (keep : Nat) (ns : List Nat) (q : Program) (kept : Kept q.fs D)
    (distinct : ns.Nodup) (present : ∀ k ∈ ns, Present q.fs D name k)
    (counted : (scanNumbers q.fs D name).length ≤ ns.length) :
    Kept (LogFile.dropSurplus ⟨true, D, false⟩ name keep ns q).2.fs D ∧
      (scanNumbers (LogFile.dropSurplus ⟨true, D, false⟩ name keep ns q).2.fs D name).length ≤
        (LogFile.dropSurplus ⟨true, D, false⟩ name keep ns q).1.length := by
  induction ns generalizing q with
  | nil => exact ⟨kept, counted⟩
  | cons k rest ih =>
    obtain ⟨fresh, distinct⟩ := List.nodup_cons.1 distinct
    rw [LogFile.dropSurplus]
    split
    · exact ⟨kept, counted⟩
    · -- the highest copy goes: one file fewer, and the others are still there
      obtain ⟨fs', removed, kept', fewer, others⟩ := remove_present plainD kept (present k List.mem_cons_self)
      simp only [copyPath_join, removed]
      exact ih _ kept' distinct (fun j mem => others j (ne_of_mem_of_not_mem mem fresh)
        (present j (List.mem_cons_of_mem _ mem))) (Nat.le_of_lt_succ (Nat.lt_of_lt_of_le fewer counted))

theorem scan_shiftUp (prof : Profile) (name : String) (ns : List Nat) (small : ∀ k ∈ ns, k ≤ Nat.pow 2 64 - 1)
    (q : Program) (kept : Kept q.fs D) :
    Kept (LogFile.shiftUp prof ⟨true, D, false⟩ name ns q).2.fs D ∧
      (scanNumbers (LogFile.shiftUp prof ⟨true, D, false⟩ name ns q).2.fs D name).length ≤
        (scanNumbers q.fs D name).length := by
  induction ns generalizing q with
  | nil => exact ⟨kept, le_rfl⟩
  | cons k rest ih =>
    have smallRest : ∀ j ∈ rest, j ≤ Nat.pow 2 64 - 1 := fun j mem => small j (List.mem_cons_of_mem _ mem)
    cases next : usizeSucc prof k with
    | none =>
      simp only [LogFile.shiftUp, next]
      exact ⟨kept, le_rfl⟩
    | some k' =>
      have differ : copyName name k ≠ copyName name k' := fun same =>
        usizeSucc_ne next (copyName_injective name same).symm
      have readable : (rotationNumber name (copyName name k)).isSome := by
        simp [rotationNumber_copyName name (small k List.mem_cons_self)]
      rcases rename_either plainD kept (plain_copyName name k) (plain_copyName name k') differ with
        ⟨e, failed⟩ | moved
      · -- a failed rename is only reported
        simp only [LogFile.shiftUp, next, copyPath_join, failed]
        exact ih smallRest _ kept
      · simp only [LogFile.shiftUp, next, copyPath_join, moved]
        obtain ⟨kept', fewer⟩ := ih smallRest { q with fs := movedWithin q.fs D _ _ } (kept.move differ)
        exact ⟨kept', fewer.trans (scan_movedWithin_le q.fs D readable _)⟩

end Calls

/-! ### Copying the log file and setting its mode -/

namespace Host.FileSystem

theorem inode_of_find {fs : FileSystem} {l : Location} {n : Nat} {i : Inode} (found : fs.find l = .ok (n, i)) :
    fs.inode? n = some i := by
  simp only [find, bind, Except.bind] at found
  split at found
  · simp at found
  · split at found
    · simp [throw, throwThe, MonadExceptOf.throw] at found
    · split at found
      · simp [throw, throwThe, MonadExceptOf.throw] at found
      · rename_i n' i' node
        simp only [pure, Except.pure, Except.ok.injEq, Prod.mk.injEq] at found
        obtain ⟨rfl, rfl⟩ := found
        exact node

theorem names_modifyInode (fs : FileSystem) (n : Nat) (g : Inode → Inode) :
    (fs.modifyInode n g).names = fs.names := by
  unfold modifyInode
  split <;> rfl

theorem kinds_modifyInode (fs : FileSystem) (n : Nat) {g : Inode → Inode} (same : ∀ i, (g i).isFile = i.isFile)
    (k : Nat) : ((fs.modifyInode n g).inode? k).any Inode.isFile = (fs.inode? k).any Inode.isFile := by
  unfold modifyInode
  cases node : fs.inode? n with
  | none => rfl
  | some i =>
    simp only
    rw [inode?_setInode]
    by_cases kn : k = n
    · subst kn
      simp [node, same]
    · simp [kn]

theorem openAppend_cases {fs : FileSystem} {D : Location} (kept : Kept fs D) {c : String} {mode n : Nat}
    {fs₁ : FileSystem} (opened : fs.openAppend (D ++ [c]) mode = .ok (n, fs₁)) :
    fs₁ = fs ∨
      fs₁ = ⟨fs.names ++ [(D ++ [c], fs.fresh)], fs.inodes ++ [(fs.fresh, ⟨.file [], mode⟩)], fs.fresh + 1⟩ := by
  simp only [openAppend, reach_of_dirs kept.dirs c] at opened
  cases named : fs.number? (D ++ [c]) with
  | none =>
    simp [named, create, reach_of_dirs kept.dirs c, bind, Except.bind, pure, Except.pure] at opened
    obtain ⟨-, rfl⟩ := opened
    exact .inr rfl
  | some m =>
    simp only [named] at opened
    split at opened
    · simp at opened
    · split at opened
      · simp at opened
      · split at opened
        · simp at opened
        · simp only [Except.ok.injEq, Prod.mk.injEq] at opened
          exact .inl opened.2.symm

end Host.FileSystem

theorem scan_of_kinds {fs fs' : FileSystem} (D : Location) (name : String) (names : fs'.names = fs.names)
    (kinds : ∀ k, (fs'.inode? k).any Inode.isFile = (fs.inode? k).any Inode.isFile) :
    scanNumbers fs' D name = scanNumbers fs D name := by
  rw [scanNumbers, scanNumbers, scanEntry_congr name kinds, FileSystem.children_eq, names,
    ← FileSystem.children_eq]

theorem scan_modifyInode (fs : FileSystem) (D : Location) (name : String) (n : Nat) {g : Inode → Inode}
    (same : ∀ i, (g i).isFile = i.isFile) : scanNumbers (fs.modifyInode n g) D name = scanNumbers fs D name :=
  scan_of_kinds D name (FileSystem.names_modifyInode fs n g) (FileSystem.kinds_modifyInode fs n same)

theorem scan_fsCopy {fs : FileSystem} {D : Location} {name : String} (kept : Kept fs D) {a : Location}
    {c : String} {umask : Nat} {fs' : FileSystem} (copied : fs.copy a (D ++ [c]) umask = .ok fs') :
    (scanNumbers fs' D name).length ≤ (scanNumbers fs D name).length + 1 := by
  simp only [FileSystem.copy] at copied
  split at copied
  · simp at copied
  · rename_i si _
    split at copied
    · simp at copied
    · split at copied
      · rename_i content _
        split at copied
        · simp at copied
        · rename_i n fs₁ opened
          simp only [Except.ok.injEq] at copied
          subst copied
          -- the bytes are put into the opened inode, which stays what it was
          rw [scan_modifyInode]
          swap
          · intro i
            split <;> simp_all [Inode.isFile]
          rcases FileSystem.openAppend_cases kept opened with rfl | rfl
          · exact Nat.le_succ _
          · -- a new entry: the old ones keep their inodes, as each names one
            have old : (fs.children D).filterMap (scanEntry ⟨fs.names ++ [(D ++ [c], fs.fresh)],
                fs.inodes ++ [(fs.fresh, ⟨.file [], masked umask si.mode⟩)], fs.fresh + 1⟩ name) =
                scanNumbers fs D name := by
              apply List.filterMap_congr
              intro e mem
              obtain ⟨i, node⟩ := Option.isSome_iff_exists.1 (kept.linked e mem)
              have same : (⟨fs.names ++ [(D ++ [c], fs.fresh)], fs.inodes ++ [(fs.fresh, ⟨.file [],
                  masked umask si.mode⟩)], fs.fresh + 1⟩ : FileSystem).inode? e.2 = fs.inode? e.2 := by
                have listed : fs.inodes.lookup e.2 = some i := node
                simp only [FileSystem.inode?, List.lookup_append, listed, Option.some_or]
              simp only [scanEntry, same]
            rw [scanNumbers, FileSystem.children_eq, FileSystem.children_append, ← FileSystem.children_eq,
              List.filterMap_append, old, List.length_append]
            exact Nat.add_le_add_left (by simp [List.filterMap_cons]; split <;> simp) _
      · simp at copied

theorem scan_setMode {p q : Program} {path : Path} {mode : Nat} (set : p.setMode path mode = .ok q)
    (D : Location) (name : String) : scanNumbers q.fs D name = scanNumbers p.fs D name := by
  simp only [Program.setMode, Program.withFs, Program.onPath] at set
  split at set
  · rename_i fs' changed
    simp only [Except.map, Except.ok.injEq] at set
    subst set
    cases placed : p.place path with
    | error e => simp [placed, bind, Except.bind] at changed
    | ok l =>
      simp only [placed, bind, Except.bind, FileSystem.chmod] at changed
      split at changed
      · simp at changed
      · rename_i pair found
        obtain ⟨n, i⟩ := pair
        simp only [pure, Except.pure, Except.ok.injEq] at changed
        subst changed
        refine scan_of_kinds D name rfl fun k => ?_
        rw [FileSystem.inode?_setInode]
        by_cases kn : k = n
        · subst kn
          simp [FileSystem.inode_of_find found, Inode.isFile]
        · simp [kn]
  · simp [Except.map] at set

/-! ### The rotation -/

section Rotation

variable {D : Location} {name : String} (plainD : ∀ d ∈ D, Plain d)

include plainD

theorem scan_copy {p q : Program} (kept : Kept p.fs D) (src : Path)
    (copied : p.copy src ⟨true, D ++ [copyName name 1], false⟩ = .ok q) :
    (scanNumbers q.fs D name).length ≤ (scanNumbers p.fs D name).length + 1 := by
  have dst : p.writePlace ⟨true, D ++ [copyName name 1], false⟩ = .ok (D ++ [copyName name 1]) := by
    simp [Program.writePlace, Program.target_plain kept.dirs plainD (plain_copyName name 1)]
  simp only [Program.copy, dst] at copied
  split at copied
  · rename_i a b _ written
    cases written
    cases fsCopy : p.fs.copy a (D ++ [copyName name 1]) p.umask with
    | error e => simp [Program.withFs, fsCopy, Except.map] at copied
    | ok fs' =>
      simp only [Program.withFs, fsCopy, Except.map, Except.ok.injEq] at copied
      subst copied
      exact scan_fsCopy kept fsCopy
  · simp at copied
  · simp at copied

theorem rotate_canonical (prof : Profile) (f : LogFile) (p : Program) (path : f.path = ⟨true, D ++ [name], false⟩)
    (plainName : Plain name) (kept : Kept p.fs D) (canonical : Canonical p.fs D name) (keep : 1 ≤ f.keep) :
    ((f.rotate p prof).1 = none ↔ prof = .dev ∧
      Nat.pow 2 64 - 1 ∈ (LogFile.dropSurplus ⟨true, D, false⟩ name f.keep (highestFirst p.fs D name) p).1) ∧
    (scanNumbers (f.rotate p prof).2.fs D name).length ≤ f.keep := by
  have perm := highestFirst_perm p.fs D name
  obtain ⟨kept₁, fewer₁⟩ := scan_dropSurplus plainD f.keep (highestFirst p.fs D name) p kept
    (perm.nodup_iff.2 (scan_nodup kept canonical))
    (fun k mem => present_of_scan kept canonical (perm.subset mem)) perm.length_eq.ge
  have left := dropSurplus_fst ⟨true, D, false⟩ name f.keep (highestFirst p.fs D name) p
  rcases dropped : LogFile.dropSurplus ⟨true, D, false⟩ name f.keep (highestFirst p.fs D name) p with
    ⟨ns, q₁⟩
  rw [dropped] at kept₁ fewer₁ left
  dsimp only at kept₁ fewer₁ left ⊢
  have short : ns.length ≤ f.keep - 1 := by
    rw [left, List.length_drop]
    omega
  have small : ∀ k ∈ ns, k ≤ Nat.pow 2 64 - 1 := fun k mem => by
    rw [left] at mem
    exact scan_le (perm.subset (List.mem_of_mem_drop mem))
  obtain ⟨kept₂, fewer₂⟩ := scan_shiftUp plainD prof name ns small q₁ kept₁
  have aborts := shiftUp_aborts prof ⟨true, D, false⟩ name ns q₁ small
  -- the rotation up to the moves: the listing is the scan, and the surplus goes
  have highest : ((scanNumbers p.fs D name).mergeSort (· ≤ ·)).reverse = highestFirst p.fs D name := rfl
  rw [LogFile.rotate, path, parent_plain plainD plainName, fileName_plain plainD plainName]
  dsimp only
  rw [readDir_dir plainD kept.dirs]
  dsimp only
  rw [found_eq_scan, highest, dropped]
  dsimp only
  rw [← path]
  rcases shifted : LogFile.shiftUp prof ⟨true, D, false⟩ name ns q₁ with ⟨_ | ⟨⟩, q₂⟩
  · -- an abort ends the rotation where the moves left it
    rw [shifted] at aborts kept₂ fewer₂
    dsimp only at aborts kept₂ fewer₂ ⊢
    exact ⟨by simpa using aborts, by omega⟩
  · rw [shifted] at aborts kept₂ fewer₂
    dsimp only at aborts kept₂ fewer₂ ⊢
    -- the tail of the rotation: the copy to `name.1`, then its mode
    cases copied : q₂.copy f.path (LogFile.copyPath ⟨true, D, false⟩ name 1) with
    | error e =>
      dsimp only
      exact ⟨by simpa using aborts, by omega⟩
    | ok q₃ =>
      have added := scan_copy plainD kept₂ f.path copied
      cases moded : q₃.setMode (LogFile.copyPath ⟨true, D, false⟩ name 1) 0o400 with
      | error e =>
        simp only [moded]
        exact ⟨by simpa using aborts, by omega⟩
      | ok q₄ =>
        simp only [moded, scan_setMode moded]
        exact ⟨by simpa using aborts, by omega⟩

end Rotation

theorem rotationKeepsCanonicalCopies (prof : Profile) (f : LogFile) (p : Program) {D : Location}
    {name : String} (path : f.path = ⟨true, D ++ [name], false⟩) (plainD : ∀ d ∈ D, Plain d)
    (plainName : Plain name) (kept : Kept p.fs D) (canonical : Canonical p.fs D name) (keep : 1 ≤ f.keep) :
    (Nat.pow 2 64 - 1 ∈ (LogFile.dropSurplus ⟨true, D, false⟩ name f.keep (highestFirst p.fs D name) p).1 ↔
      Nat.pow 2 64 - 1 ∈ scanNumbers p.fs D name ∧ (scanNumbers p.fs D name).length < f.keep) ∧
    ((f.rotate p prof).1 = none ↔
      prof = .dev ∧ Nat.pow 2 64 - 1 ∈ scanNumbers p.fs D name ∧ (scanNumbers p.fs D name).length < f.keep) ∧
    (scanNumbers (f.rotate p prof).2.fs D name).length ≤ f.keep := by
  obtain ⟨aborts, bounded⟩ := rotate_canonical plainD prof f p path plainName kept canonical keep
  -- canonical names read each number once, so the highest is found once or not at all
  have moved : Nat.pow 2 64 - 1 ∈ (LogFile.dropSurplus ⟨true, D, false⟩ name f.keep (highestFirst p.fs D name) p).1 ↔
      Nat.pow 2 64 - 1 ∈ scanNumbers p.fs D name ∧ (scanNumbers p.fs D name).length < f.keep := by
    rw [max_mem_dropSurplus, (scan_nodup kept canonical).count]
    by_cases found : Nat.pow 2 64 - 1 ∈ scanNumbers p.fs D name
    · simp only [found, if_true, true_and]
      omega
    · simp only [found, if_false, false_and, iff_false]
      omega
  exact ⟨moved, aborts.trans (and_congr_right fun _ => moved), bounded⟩

theorem canonicalRotation :
    let fs := FileSystem.ofEntries [(["r.log"], ⟨.file [], 0o600⟩),
      (["r.log.18446744073709551615"], ⟨.file [], 0o400⟩)]
    let log : LogFile := ⟨⟨true, ["r.log"], false⟩, 1, 0, 2⟩
    Kept fs [] ∧ Canonical fs [] "r.log" ∧
      ((Nat.pow 2 64 - 1 ∈ (LogFile.dropSurplus ⟨true, [], false⟩ "r.log" log.keep
          (highestFirst fs [] "r.log") { fs := fs }).1 ↔
        Nat.pow 2 64 - 1 ∈ scanNumbers fs [] "r.log" ∧ (scanNumbers fs [] "r.log").length < log.keep) ∧
      ((log.rotate { fs := fs } .dev).1 = none ↔
        Profile.dev = .dev ∧ Nat.pow 2 64 - 1 ∈ scanNumbers fs [] "r.log" ∧
          (scanNumbers fs [] "r.log").length < log.keep) ∧
      (scanNumbers (log.rotate { fs := fs } .dev).2.fs [] "r.log").length ≤ log.keep) := by
  intro fs log
  have kept : Kept fs [] := ⟨by unfold FileSystem.DirsAt; decide, by decide, by decide⟩
  have canonical : Canonical fs [] "r.log" := by
    unfold Canonical
    decide +kernel
  exact ⟨kept, canonical, rotationKeepsCanonicalCopies .dev log { fs := fs } rfl (by simp)
    ⟨by decide, by decide⟩ kept canonical (by decide)⟩

example :
    scanNumbers (LogFile.rotate ⟨⟨true, ["r.log"], false⟩, 1, 0, 2⟩
      { fs := FileSystem.ofEntries [(["r.log"], ⟨.file [], 0o600⟩),
        (["r.log.18446744073709551615"], ⟨.file [], 0o400⟩)] }).2.fs [] "r.log" = [0, 1] := by
  decide +kernel

theorem rotationKeepsStrayCopy :
    scanNumbers (LogFile.rotate ⟨⟨true, ["r.log"], false⟩, 1, 0, 1⟩
      { fs := FileSystem.ofEntries [(["r.log"], ⟨.file [], 0o600⟩), (["r.log.01"], ⟨.file [], 0o644⟩)] }).2.fs
      [] "r.log" = [1, 1] := by
  decide +kernel

end UpperEcho

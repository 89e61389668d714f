import UpperEcho.Host.Program

/-! File-tree calls on plain paths each change the tree in one place; later proofs cite these lemmas
instead of unfolding a call. -/
namespace UpperEcho.Host

def Plain (c : String) : Prop := c ≠ "." ∧ c ≠ ".."

namespace FileSystem

/-! ### Lookups in the name and inode lists -/

theorem lookup_filter_key {α β : Type} [BEq α] [LawfulBEq α] (l : List (α × β)) (p : α → Bool)
    (y : α) : (l.filter fun e => p e.1).lookup y = if p y then l.lookup y else none := by
  induction l with
  | nil => simp
  | cons e l ih =>
    obtain ⟨k, v⟩ := e
    by_cases yk : y = k
    · subst yk
      by_cases keep : p y <;> simp [keep, ih]
    · have skip : ((k, v) :: l).lookup y = l.lookup y := by
        simp [List.lookup_cons, beq_false_of_ne yk]
      rw [skip, List.filter_cons]
      split
      · rw [List.lookup_cons, beq_false_of_ne yk, ih]
      · exact ih

theorem lookup_filter_ne {α β : Type} [BEq α] [LawfulBEq α] [DecidableEq α] (l : List (α × β))
    (x y : α) :
    (l.filter (·.1 != x)).lookup y = if y = x then none else l.lookup y := by
  rw [lookup_filter_key l (· != x) y]
  by_cases yx : y = x <;> simp [yx]

def moveEntry (src dst : Location) (e : Location × Nat) : Location × Nat :=
  if src.isPrefixOf e.1 then (dst ++ e.1.drop src.length, e.2) else e

theorem move_names (fs : FileSystem) (src dst : Location) :
    (fs.move src dst).names = fs.names.map (moveEntry src dst) := rfl

theorem lookup_move (l : List (Location × Nat)) {src dst y : Location}
    (free : l.lookup dst = none) (moved : src ≠ dst) (same : src.length = dst.length)
    (level : y.length ≤ dst.length) :
    (l.map (moveEntry src dst)).lookup y =
      if y = dst then l.lookup src else if y = src then none else l.lookup y := by
  induction l with
  | nil => simp
  | cons e l ih =>
    obtain ⟨k, v⟩ := e
    have rest : l.lookup dst = none := by
      simp only [List.lookup_eq_none_iff, List.mem_cons, forall_eq_or_imp] at free ⊢
      exact free.2
    have notDst : k ≠ dst := by
      intro same'
      subst same'
      simp at free
    have step := ih rest
    rw [List.map_cons, List.lookup_cons]
    by_cases below : src.isPrefixOf k = true
    · obtain ⟨t, rfl⟩ : ∃ t, k = src ++ t := by
        obtain ⟨t, eq⟩ := List.isPrefixOf_iff_prefix.1 below
        exact ⟨t, eq.symm⟩
      have head : moveEntry src dst (src ++ t, v) = (dst ++ t, v) := by simp [moveEntry, below]
      rw [head]
      by_cases whole : t = []
      · -- the entry of `src` itself lands on `dst`
        subst whole
        simp only [List.append_nil] at step ⊢
        by_cases yd : y = dst
        · subst yd
          simp
        · rw [beq_false_of_ne yd]
          by_cases ys : y = src
          · subst ys
            simp [step, yd]
          · simp [List.lookup_cons, beq_false_of_ne ys, step, yd, ys]
      · -- an entry below `src` goes below `dst`, out of reach of `y`
        have far : ∀ z : Location, z.length ≤ dst.length → z ≠ dst ++ t ∧ z ≠ src ++ t := by
          intro z short
          have : 0 < t.length := List.length_pos_iff.2 whole
          constructor <;> (intro eq; rw [eq, List.length_append] at short; omega)
        have srcNe : src ≠ src ++ t := (far src (by omega)).2
        rw [beq_false_of_ne (far y level).1]
        simp only [step, List.lookup_cons, beq_false_of_ne srcNe, beq_false_of_ne (far y level).2]
    · have srcNe : k ≠ src := by
        intro eq
        subst eq
        simp at below
      have head : moveEntry src dst (k, v) = (k, v) := by simp [moveEntry, below]
      rw [head]
      by_cases yk : y = k
      · subst yk
        simp [notDst, srcNe]
      · rw [beq_false_of_ne yk]
        simp only [step, List.lookup_cons, beq_false_of_ne yk, beq_false_of_ne srcNe.symm]

theorem lookup_map_set (l : List (Nat × Inode)) (n m : Nat) (i : Inode) :
    (l.map fun e => if e.1 == n then (n, i) else e).lookup m =
      if m = n then (l.lookup n).map fun _ => i else l.lookup m := by
  induction l with
  | nil => simp
  | cons e l ih =>
    obtain ⟨k, j⟩ := e
    by_cases kn : k = n
    · subst kn
      by_cases mk : m = k
      · simp [mk]
      · simp only [List.map_cons, beq_self_eq_true, ↓reduceIte, List.lookup_cons, beq_false_of_ne mk, ih,
          if_neg mk]
    · have keep : (if (k == n) = true then (n, i) else (k, j)) = (k, j) := by simp [kn]
      simp only [List.map_cons, keep, List.lookup_cons]
      by_cases mk : m = k
      · subst mk
        simp [kn]
      · simp only [beq_false_of_ne mk, ih]
        by_cases mn : m = n <;> simp [mn, beq_false_of_ne (Ne.symm kn)]

theorem inode?_setInode (fs : FileSystem) (n m : Nat) (i : Inode) :
    (fs.setInode n i).inode? m = if m = n then (fs.inode? n).map fun _ => i else fs.inode? m :=
  lookup_map_set fs.inodes n m i

@[simp] theorem names_setInode (fs : FileSystem) (n : Nat) (i : Inode) :
    (fs.setInode n i).names = fs.names := rfl

@[simp] theorem fresh_setInode (fs : FileSystem) (n : Nat) (i : Inode) :
    (fs.setInode n i).fresh = fs.fresh := rfl

theorem modifyInode_of {fs : FileSystem} {n : Nat} {i : Inode} (h : fs.inode? n = some i)
    (g : Inode → Inode) : fs.modifyInode n g = fs.setInode n (g i) := by
  simp [modifyInode, h]

/-! ### A directory's entries -/

def childOf (D : Location) (e : Location × Nat) : Option (String × Nat) :=
  if isBelow D e.1 && e.1.length == D.length + 1 then e.1.getLast?.map fun c => (c, e.2) else none

theorem children_eq (fs : FileSystem) (D : Location) : fs.children D = fs.names.filterMap (childOf D) :=
  rfl

theorem childOf_eq_some {D x : Location} {n : Nat} {c : String} {m : Nat} :
    childOf D (x, n) = some (c, m) ↔ x = D ++ [c] ∧ m = n := by
  constructor
  · intro h
    simp only [childOf] at h
    split at h
    · rename_i inside
      simp only [isBelow, Bool.and_eq_true, List.isPrefixOf_iff_prefix, decide_eq_true_eq,
        beq_iff_eq] at inside
      obtain ⟨⟨⟨t, rfl⟩, -⟩, size⟩ := inside
      obtain ⟨d, rfl⟩ : ∃ d, t = [d] := List.length_eq_one_iff.1 (by simpa using size)
      simp only [List.getLast?_append, List.getLast?_singleton, Option.some_or, Option.map_some,
        Option.some.injEq, Prod.mk.injEq] at h
      exact ⟨by rw [h.1], h.2.symm⟩
    · simp at h
  · rintro ⟨rfl, rfl⟩
    simp [childOf, isBelow]

theorem childOf_none {D x : Location} (h : ∀ c, x ≠ D ++ [c]) (n : Nat) : childOf D (x, n) = none := by
  cases e : childOf D (x, n) with
  | none => rfl
  | some r => exact absurd (childOf_eq_some.1 e).1 (h r.1)

theorem children_filter (l : List (Location × Nat)) (D : Location) (c : String) :
    (l.filter (·.1 != D ++ [c])).filterMap (childOf D) = (l.filterMap (childOf D)).filter (·.1 != c) := by
  induction l with
  | nil => rfl
  | cons e l ih =>
    obtain ⟨x, n⟩ := e
    cases child : childOf D (x, n) with
    | none =>
      have far : x ≠ D ++ [c] := by
        rintro rfl
        simp [childOf_eq_some.2 ⟨rfl, rfl⟩] at child
      simp [far, ih, child]
    | some r =>
      obtain ⟨d, m⟩ := r
      obtain ⟨rfl, rfl⟩ := childOf_eq_some.1 child
      by_cases dc : d = c
      · subst dc
        simp [ih, child]
      · have far : D ++ [d] ≠ D ++ [c] := by simpa using dc
        simp [far, dc, ih, child]

def renameChild (a b : String) (e : String × Nat) : String × Nat := if e.1 = a then (b, e.2) else e

theorem children_move (l : List (Location × Nat)) (D : Location) (a b : String) :
    (l.map (moveEntry (D ++ [a]) (D ++ [b]))).filterMap (childOf D) =
      (l.filterMap (childOf D)).map (renameChild a b) := by
  induction l with
  | nil => rfl
  | cons e l ih =>
    obtain ⟨x, n⟩ := e
    rw [List.map_cons, List.filterMap_cons, List.filterMap_cons, ih]
    by_cases itself : x = D ++ [a]
    · -- the renamed entry itself
      subst itself
      have moved : moveEntry (D ++ [a]) (D ++ [b]) (D ++ [a], n) = (D ++ [b], n) := by simp [moveEntry]
      rw [moved, childOf_eq_some.2 ⟨rfl, rfl⟩, childOf_eq_some.2 ⟨rfl, rfl⟩]
      simp [renameChild]
    · by_cases below : (D ++ [a]).isPrefixOf x = true
      · -- deeper entries are in no listing of `D`, before or after
        obtain ⟨t, rfl⟩ : ∃ t, x = D ++ [a] ++ t := by
          obtain ⟨t, eq⟩ := List.isPrefixOf_iff_prefix.1 below
          exact ⟨t, eq.symm⟩
        have whole : t ≠ [] := by
          rintro rfl
          simp at itself
        have deep : ∀ y, childOf D (D ++ [y] ++ t, n) = none := by
          intro y
          refine childOf_none (fun c eq => whole ?_) n
          simp only [List.append_assoc, List.append_cancel_left_eq, List.cons_append, List.nil_append,
            List.cons.injEq] at eq
          exact eq.2
        have moved : moveEntry (D ++ [a]) (D ++ [b]) (D ++ [a] ++ t, n) = (D ++ [b] ++ t, n) := by
          simp [moveEntry]
        rw [moved, deep, deep]
      · have stays : moveEntry (D ++ [a]) (D ++ [b]) (x, n) = (x, n) := by simp [moveEntry, below]
        rw [stays]
        cases child : childOf D (x, n) with
        | none => rfl
        | some r =>
          obtain ⟨d, m⟩ := r
          obtain ⟨rfl, rfl⟩ := childOf_eq_some.1 child
          have da : d ≠ a := by
            rintro rfl
            exact itself rfl
          simp [renameChild, da]

theorem children_append (l : List (Location × Nat)) (D : Location) (c : String) (n : Nat) :
    (l ++ [(D ++ [c], n)]).filterMap (childOf D) = l.filterMap (childOf D) ++ [(c, n)] := by
  simp [childOf_eq_some.2 ⟨rfl, rfl⟩]

theorem children_lookup (l : List (Location × Nat)) (D : Location) (c : String) :
    (l.filterMap (childOf D)).lookup c = l.lookup (D ++ [c]) := by
  induction l with
  | nil => rfl
  | cons e l ih =>
    obtain ⟨x, n⟩ := e
    cases child : childOf D (x, n) with
    | none =>
      have far : D ++ [c] ≠ x := fun eq => by simp [← eq, childOf_eq_some.2 ⟨rfl, rfl⟩] at child
      simp [child, ih, List.lookup_cons, beq_false_of_ne far]
    | some r =>
      obtain ⟨d, m⟩ := r
      obtain ⟨rfl, rfl⟩ := childOf_eq_some.1 child
      by_cases cd : c = d
      · subst cd
        simp [child]
      · have far : D ++ [c] ≠ D ++ [d] := by simpa using cd
        simp [child, ih, List.lookup_cons, beq_false_of_ne cd, beq_false_of_ne far]

/-! ### Walking plain paths -/

theorem isDirAt_iff {fs : FileSystem} {l : Location} :
    fs.isDirAt l = true ↔ ∃ i, fs.at? l = some i ∧ i.isDir = true := by
  unfold isDirAt
  cases fs.at? l <;> simp

def DirsAt (fs : FileSystem) (D : Location) : Prop := ∀ k ≤ D.length, fs.isDirAt (D.take k) = true

theorem walk_ok (fs : FileSystem) (L : List String) :
    ∀ base, (∀ k, 1 ≤ k → k < L.length → fs.isDirAt (base ++ L.take k) = true) → fs.walk base L = .ok () := by
  induction L with
  | nil => intro base _; rfl
  | cons d L ih =>
    intro base dirs
    cases L with
    | nil => rfl
    | cons e L =>
      obtain ⟨i, found, dir⟩ := isDirAt_iff.1 (dirs 1 (Nat.le_refl 1) (by simp))
      simp only [List.take_succ_cons, List.take_zero] at found
      simp only [walk, found, dir, ↓reduceIte]
      refine ih (base ++ [d]) fun k pos short => ?_
      simpa using dirs (k + 1) (by omega) (by simpa using short)

theorem reach_of_dirs {fs : FileSystem} {D : Location} (dirs : fs.DirsAt D) (c : String) :
    fs.reach (D ++ [c]) = .ok () :=
  fs.walk_ok _ [] fun k pos short => by
    have inside : k ≤ D.length := by simp at short; omega
    simpa [List.take_append_of_le_length inside] using dirs k inside

theorem reach_dir {fs : FileSystem} {D : Location} (dirs : fs.DirsAt D) : fs.reach D = .ok () :=
  fs.walk_ok _ [] fun k _ short => by simpa using dirs k (Nat.le_of_lt short)

theorem walkTo_plain (fs : FileSystem) (slash : Bool) (c : String) (plain : Plain c) (D : Location) :
    ∀ here, (∀ d ∈ D, Plain d) → (∀ k, 1 ≤ k → k ≤ D.length → fs.isDirAt (here ++ D.take k) = true) →
      fs.walkTo slash here (D ++ [c]) = .ok (.entry (here ++ D) c slash) := by
  induction D with
  | nil =>
    intro here _ _
    simp [walkTo, plain.1, plain.2]
  | cons d D ih =>
    intro here plainD dirs
    obtain ⟨dot, dots⟩ := plainD d (by simp)
    obtain ⟨i, found, dir⟩ := isDirAt_iff.1 (dirs 1 (Nat.le_refl 1) (by simp))
    simp only [List.take_succ_cons, List.take_zero] at found
    obtain ⟨e, rest, split⟩ := List.exists_cons_of_ne_nil (by simp : D ++ [c] ≠ [])
    have down := ih (here ++ [d]) (fun d' mem => plainD d' (by simp [mem]))
      fun k pos short => by simpa using dirs (k + 1) (by omega) (by simpa using short)
    rw [split] at down
    simp only [List.cons_append, split, walkTo, beq_iff_eq, dot, dots, ↓reduceIte, found, dir, down]
    simp

theorem at?_of {fs : FileSystem} {l : Location} {n : Nat} {i : Inode} (named : fs.number? l = some n)
    (node : fs.inode? n = some i) : fs.at? l = some i := by
  simp [at?, named, node]

theorem find_of {fs : FileSystem} {l : Location} {n : Nat} {i : Inode} (reach : fs.reach l = .ok ())
    (named : fs.number? l = some n) (node : fs.inode? n = some i) : fs.find l = .ok (n, i) := by
  simp [find, reach, named, node, bind, Except.bind, pure, Except.pure]

/-! ### Calls that change one inode -/

def Replaced (fs fs' : FileSystem) (n : Nat) (i : Inode) : Prop :=
  fs'.names = fs.names ∧ fs'.fresh = fs.fresh ∧ ∀ k, fs'.inode? k = if k = n then some i else fs.inode? k

theorem replaced_setInode {fs : FileSystem} {n : Nat} {i j : Inode} (h : fs.inode? n = some j) :
    fs.Replaced (fs.setInode n i) n i := by
  refine ⟨rfl, rfl, fun k => ?_⟩
  rw [inode?_setInode]
  by_cases kn : k = n <;> simp [kn, h]

theorem truncate_file {fs : FileSystem} {n : Nat} {c : Bytes} {m : Nat} (h : fs.inode? n = some ⟨.file c, m⟩) :
    fs.Replaced (fs.truncate n) n ⟨.file [], m⟩ := by
  rw [truncate, modifyInode_of h]
  exact replaced_setInode h

theorem append_file {fs : FileSystem} {n : Nat} {c : Bytes} {m : Nat} (h : fs.inode? n = some ⟨.file c, m⟩)
    (bs : Bytes) : ∃ fs', fs.append n bs none = .ok (bs.length, fs') ∧ fs.Replaced fs' n ⟨.file (c ++ bs), m⟩ := by
  cases bs with
  | nil =>
    refine ⟨fs, by simp [append, h], rfl, rfl, fun k => ?_⟩
    by_cases kn : k = n <;> simp [kn, h]
  | cons b bs =>
    refine ⟨fs.setInode n ⟨.file (c ++ b :: bs), m⟩, by simp [append, h], replaced_setInode h⟩

/-! ### Making a file -/

def Created (fs fs' : FileSystem) (l : Location) (c : Bytes) (m : Nat) : Prop :=
  fs'.names = fs.names ++ [(l, fs.fresh)] ∧ fs'.fresh = fs.fresh + 1 ∧
    ∀ k, fs'.inode? k = if k = fs.fresh then some ⟨.file c, m⟩ else fs.inode? k

theorem copy_fresh {fs : FileSystem} {D : Location} (dirs : fs.DirsAt D) {a b : String} {n : Nat} {c : Bytes} {m : Nat}
    (named : fs.number? (D ++ [a]) = some n) (node : fs.inode? n = some ⟨.file c, m⟩)
    (free : fs.number? (D ++ [b]) = none) (unused : fs.inode? fs.fresh = none) (umask : Nat) :
    ∃ fs', fs.copy (D ++ [a]) (D ++ [b]) umask = .ok fs' ∧ fs.Created fs' (D ++ [b]) c m := by
  let made : FileSystem :=
    ⟨fs.names ++ [(D ++ [b], fs.fresh)], fs.inodes ++ [(fs.fresh, ⟨.file [], masked umask m⟩)], fs.fresh + 1⟩
  have madeNode : made.inode? fs.fresh = some ⟨.file [], masked umask m⟩ := by
    have none' : fs.inodes.lookup fs.fresh = none := unused
    simp [inode?, made, List.lookup_append, none']
  have opened : fs.openAppend (D ++ [b]) (masked umask m) = .ok (fs.fresh, made) := by
    simp [openAppend, reach_of_dirs dirs b, free, create, bind, Except.bind, pure, Except.pure, made]
  have found := find_of (reach_of_dirs dirs a) named node
  refine ⟨made.setInode fs.fresh ⟨.file c, m⟩, ?_, ?_⟩
  · simp [copy, found, opened, modifyInode_of madeNode]
  · refine ⟨rfl, rfl, fun k => ?_⟩
    rw [inode?_setInode]
    by_cases kf : k = fs.fresh
    · simp [kf, madeNode]
    · have other : List.lookup k [(fs.fresh, (⟨.file [], masked umask m⟩ : Inode))] = none := by
        simp [kf]
      simp [kf, inode?, made, List.lookup_append, other, Option.or_none]

end FileSystem

/-! ### The program's calls on plain paths -/

namespace Program

variable {p : Program} {D : Location}

theorem target_plain (dirs : p.fs.DirsAt D) (plainD : ∀ d ∈ D, Plain d) {c : String} (plain : Plain c) :
    p.target ⟨true, D ++ [c], false⟩ = .ok (.entry D c false) := by
  have walked := p.fs.walkTo_plain false c plain D [] plainD fun k _ short => by simpa using dirs k short
  simpa [target, FileSystem.target] using walked

theorem place_plain (dirs : p.fs.DirsAt D) (plainD : ∀ d ∈ D, Plain d) {c : String} (plain : Plain c)
    {i : Inode} (there : p.fs.at? (D ++ [c]) = some i) : p.place ⟨true, D ++ [c], false⟩ = .ok (D ++ [c]) := by
  simp [place, target_plain dirs plainD plain, bind, Except.bind, FileSystem.existing, there]

theorem removeFile_plain (dirs : p.fs.DirsAt D) (plainD : ∀ d ∈ D, Plain d) {c : String} (plain : Plain c)
    {n : Nat} {i : Inode} (named : p.fs.number? (D ++ [c]) = some n) (node : p.fs.inode? n = some i)
    (file : i.isDir = false) :
    p.removeFile ⟨true, D ++ [c], false⟩ =
      .ok { p with fs := { p.fs with names := p.fs.names.filter (·.1 != D ++ [c]) } } := by
  have there := FileSystem.at?_of named node
  have found := FileSystem.find_of (FileSystem.reach_of_dirs dirs c) named node
  simp [removeFile, target_plain dirs plainD plain, there, file, FileSystem.unlink, found, bind,
    Except.bind, pure, Except.pure]

theorem rename_plain (dirs : p.fs.DirsAt D) (plainD : ∀ d ∈ D, Plain d) {a b : String} (plainA : Plain a)
    (plainB : Plain b) (differ : a ≠ b) {n : Nat} {i : Inode} (named : p.fs.number? (D ++ [a]) = some n)
    (node : p.fs.inode? n = some i) (file : i.isDir = false) (free : p.fs.number? (D ++ [b]) = none) :
    p.rename ⟨true, D ++ [a], false⟩ ⟨true, D ++ [b], false⟩ =
      .ok { p with fs := p.fs.move (D ++ [a]) (D ++ [b]) } := by
  have there := FileSystem.at?_of named node
  have absent : p.fs.at? (D ++ [b]) = none := by simp [FileSystem.at?, free]
  have found := FileSystem.find_of (FileSystem.reach_of_dirs dirs a) named node
  have moved : (D ++ [a] == D ++ [b]) = false := by simpa using differ
  have renamed : p.fs.rename (D ++ [a]) (D ++ [b]) = .ok (p.fs.move (D ++ [a]) (D ++ [b])) := by
    simp only [FileSystem.rename, found, FileSystem.reach_of_dirs dirs b, moved, file, absent, bind,
      Except.bind, pure, Except.pure]
    rfl
  have dst : (Target.location <$> p.target ⟨true, D ++ [b], false⟩) = .ok (D ++ [b]) := by
    rw [target_plain dirs plainD plainB]
    rfl
  simp only [rename, place_plain dirs plainD plainA there, dst, renamed]
  rfl

theorem setMode_plain (dirs : p.fs.DirsAt D) (plainD : ∀ d ∈ D, Plain d) {c : String} (plain : Plain c)
    {n : Nat} {i : Inode} (named : p.fs.number? (D ++ [c]) = some n) (node : p.fs.inode? n = some i)
    (mode : Nat) :
    p.setMode ⟨true, D ++ [c], false⟩ mode = .ok { p with fs := p.fs.setInode n { i with mode := mode } } := by
  have there := FileSystem.at?_of named node
  have found := FileSystem.find_of (FileSystem.reach_of_dirs dirs c) named node
  simp [setMode, onPath, place_plain dirs plainD plain there, withFs, FileSystem.chmod, found, bind,
    Except.bind, pure, Except.pure]
  rfl

theorem copy_plain (dirs : p.fs.DirsAt D) (plainD : ∀ d ∈ D, Plain d) {a b : String} (plainA : Plain a)
    (plainB : Plain b) {n : Nat} {c : Bytes} {m : Nat} (named : p.fs.number? (D ++ [a]) = some n)
    (node : p.fs.inode? n = some ⟨.file c, m⟩) (free : p.fs.number? (D ++ [b]) = none)
    (unused : p.fs.inode? p.fs.fresh = none) :
    ∃ fs', p.copy ⟨true, D ++ [a], false⟩ ⟨true, D ++ [b], false⟩ = .ok { p with fs := fs' } ∧
      p.fs.Created fs' (D ++ [b]) c m := by
  have there := FileSystem.at?_of named node
  obtain ⟨fs', copied, made⟩ := FileSystem.copy_fresh dirs named node free unused p.umask
  refine ⟨fs', ?_, made⟩
  simp [copy, place_plain dirs plainD plainA there, writePlace, target_plain dirs plainD plainB, withFs,
    copied]
  rfl

theorem write_file {n : Nat} {c : Bytes} {m : Nat} (node : p.fs.inode? n = some ⟨.file c, m⟩)
    (noLimit : p.fileLimit = none) (bs : Bytes) :
    ∃ fs', p.write n bs = .ok (bs.length, { p with fs := fs' }) ∧ p.fs.Replaced fs' n ⟨.file (c ++ bs), m⟩ := by
  obtain ⟨fs', appended, replaced⟩ := FileSystem.append_file node bs
  exact ⟨fs', by simp [write, noLimit, appended], replaced⟩

end Program

end UpperEcho.Host

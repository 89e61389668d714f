import UpperEcho.Session.Datagram
import UpperEcho.Proofs.EndpointText
import UpperEcho.Proofs.FileTree

/-! The reply path of a unix datagram client: binding then removing a path restores the names, so a
client leaves no name of its own behind. -/
namespace UpperEcho.Host

namespace FileSystem

def Keeps (fs fs' : FileSystem) : Prop := ∀ l i, fs.at? l = some i → fs'.at? l = some i

section Keeps

variable {fs fs' : FileSystem} (keeps : fs.Keeps fs')
include keeps

theorem walkTo_keeps (slash : Bool) :
    ∀ (here : Location) (parts : List String) (t : Target),
      fs.walkTo slash here parts = .ok t → fs'.walkTo slash here parts = .ok t := by
  intro here parts
  -- only a component followed by more looks at the tree, and it finds the same directory there
  fun_induction fs.walkTo slash here parts with
  | case1 here => exact fun _ h => h
  | case2 here c dot => exact fun _ h => by rw [← h]; simp [walkTo, dot]
  | case3 here c dot up => exact fun _ h => by rw [← h]; simp [walkTo, dot, up]
  | case4 here c dot up => exact fun _ h => by rw [← h]; simp [walkTo, dot, up]
  | case5 here c rest more dot ih =>
    intro t h
    rw [walkTo.eq_3 _ _ _ _ _ more]
    simp [dot, ih t h]
  | case6 here c rest more dot up ih =>
    intro t h
    rw [walkTo.eq_3 _ _ _ _ _ more]
    simp [dot, up, ih t h]
  | case8 here c rest more dot up i found dir ih =>
    intro t h
    rw [walkTo.eq_3 _ _ _ _ _ more]
    simp [dot, up, keeps _ _ found, dir, ih t h]
  | case7 | case9 =>
    intro _ h
    cases h

theorem walk_keeps : ∀ (base : Location) (L : List String),
    fs.walk base L = .ok () → fs'.walk base L = .ok () := by
  intro base L
  fun_induction fs.walk base L with
  | case1 | case2 => exact fun _ => rfl
  | case4 base c rest more i found dir ih =>
    intro h
    rw [walk.eq_3 _ _ _ _ more]
    simp [keeps _ _ found, dir, ih h]
  | case3 | case5 =>
    intro h
    cases h

theorem target_keeps {cwd : Location} {P : Path} {t : Target} (h : fs.target cwd P = .ok t) :
    fs'.target cwd P = .ok t := by
  unfold target at h ⊢
  split
  · next bad => simp [bad] at h
  · next good =>
    rw [if_neg good] at h
    exact walkTo_keeps keeps _ _ _ _ h

end Keeps

theorem create_ok {fs fs' : FileSystem} {l : Location} {i : Inode} {n : Nat}
    (h : fs.create l i = .ok (n, fs')) :
    fs.reach l = .ok () ∧ fs.number? l = none ∧ n = fs.fresh ∧
      fs' = ⟨fs.names ++ [(l, fs.fresh)], fs.inodes ++ [(fs.fresh, i)], fs.fresh + 1⟩ := by
  unfold create at h
  cases reach : fs.reach l with
  | error e => simp [reach, bind, Except.bind] at h
  | ok u =>
    simp only [reach, bind, Except.bind] at h
    split at h
    · cases h
    · next free =>
      simp only [pure, Except.pure, Except.ok.injEq, Prod.mk.injEq] at h
      obtain ⟨rfl, rfl⟩ := h
      simp only [Bool.or_eq_true, Option.isSome_iff_ne_none, not_or, Ne, not_not] at free
      exact ⟨rfl, free.2, rfl, rfl⟩

theorem keeps_create (fs : FileSystem) (l : Location) (i : Inode) :
    fs.Keeps ⟨fs.names ++ [(l, fs.fresh)], fs.inodes ++ [(fs.fresh, i)], fs.fresh + 1⟩ := by
  intro x j found
  simp only [at?, number?, Option.bind_eq_some_iff] at found
  obtain ⟨m, named, node⟩ := found
  have node' : fs.inodes.lookup m = some j := node
  simp [at?, number?, inode?, List.lookup_append, named, node']

theorem newPlace_ok {fs : FileSystem} {t : Target} {l : Location} (h : fs.newPlace false t = .ok l) :
    ∃ d c, t = .entry d c false ∧ l = d ++ [c] := by
  cases t with
  | dir _ => cases h
  | entry d c slash =>
    simp only [newPlace] at h
    by_cases named : (fs.number? (d ++ [c])).isSome = true
    · simp [named] at h
    · cases slash with
      | true => simp [named] at h
      | false =>
        simp [named] at h
        exact ⟨d, c, rfl, h.symm⟩

theorem unlink_ok {fs fs' : FileSystem} {l : Location} (h : fs.unlink l = .ok fs') :
    fs'.inodes = fs.inodes ∧ fs'.fresh = fs.fresh := by
  unfold unlink at h
  cases found : fs.find l with
  | error e => simp [found, bind, Except.bind] at h
  | ok ni =>
    simp only [found, bind, Except.bind] at h
    split at h
    · cases h
    · cases h
      exact ⟨rfl, rfl⟩

end FileSystem

namespace Program

theorem removeFile_ok {p q : Program} {P : Path} (h : p.removeFile P = .ok q) :
    q.fs.inodes = p.fs.inodes ∧ q.fs.fresh = p.fs.fresh := by
  unfold removeFile at h
  simp only at h
  split at h
  · next fs' removed =>
    cases h
    -- every way to succeed goes through `unlink`
    split at removed
    · cases removed
    · cases removed
    · split at removed
      · cases removed
      · split at removed
        · cases removed
        · split at removed
          · cases removed
          · exact FileSystem.unlink_ok removed
  · cases h

theorem removeSocketPath_ok {p q : Program} {P : Path} (h : p.removeSocketPath P = .ok q) :
    q.fs.inodes = p.fs.inodes ∧ q.fs.fresh = p.fs.fresh := by
  unfold removeSocketPath at h
  split at h
  · next q' removed =>
    cases h
    exact removeFile_ok removed
  · split at h
    · cases h
      exact ⟨rfl, rfl⟩
    · cases h

def withSocket (p : Program) (l : Location) : Program :=
  { p with fs := ⟨p.fs.names ++ [(l, p.fs.fresh)],
    p.fs.inodes ++ [(p.fs.fresh, ⟨.socket, masked p.umask 0o777⟩)], p.fs.fresh + 1⟩ }

theorem bindName_ok {p q : Program} {P : Path} (h : p.bindName P = .ok q) :
    ∃ d c, p.target P = .ok (.entry d c false) ∧ p.fs.reach (d ++ [c]) = .ok () ∧
      p.fs.number? (d ++ [c]) = none ∧ q = p.withSocket (d ++ [c]) := by
  unfold bindName at h
  split at h
  · next n fs' made =>
    cases h
    unfold newPlace at made
    cases tgt : p.target P with
    | error e => simp [tgt, bind, Except.bind] at made
    | ok t =>
      simp only [tgt, bind, Except.bind] at made
      cases place : p.fs.newPlace false t with
      | error e => simp [place] at made
      | ok l =>
        simp only [place] at made
        obtain ⟨reach, free, -, rfl⟩ := FileSystem.create_ok made
        obtain ⟨d, c, rfl, rfl⟩ := FileSystem.newPlace_ok place
        exact ⟨d, c, rfl, reach, free, rfl⟩
  · cases h

theorem withSocket_found {p : Program} {P : Path} {d : Location} {c : String}
    (tgt : p.target P = .ok (.entry d c false)) (reach : p.fs.reach (d ++ [c]) = .ok ())
    (free : p.fs.number? (d ++ [c]) = none) (unused : p.fs.inode? p.fs.fresh = none) :
    (p.withSocket (d ++ [c])).target P = .ok (.entry d c false) ∧
    (p.withSocket (d ++ [c])).fs.at? (d ++ [c]) = some ⟨.socket, masked p.umask 0o777⟩ ∧
    (p.withSocket (d ++ [c])).fs.find (d ++ [c]) =
      .ok (p.fs.fresh, ⟨.socket, masked p.umask 0o777⟩) := by
  have keeps := FileSystem.keeps_create p.fs (d ++ [c]) ⟨.socket, masked p.umask 0o777⟩
  have named : (p.withSocket (d ++ [c])).fs.number? (d ++ [c]) = some p.fs.fresh := by
    have unnamed : p.fs.names.lookup (d ++ [c]) = none := free
    simp [withSocket, FileSystem.number?, List.lookup_append, unnamed]
  have node : (p.withSocket (d ++ [c])).fs.inode? p.fs.fresh = some ⟨.socket, masked p.umask 0o777⟩ := by
    have unusedHere : p.fs.inodes.lookup p.fs.fresh = none := unused
    simp [withSocket, FileSystem.inode?, List.lookup_append, unusedHere]
  exact ⟨FileSystem.target_keeps keeps tgt, FileSystem.at?_of named node,
    FileSystem.find_of (FileSystem.walk_keeps keeps _ _ reach) named node⟩

theorem removeSocketPath_bindName {p q : Program} {P : Path} (bound : p.bindName P = .ok q)
    (unused : p.fs.inode? p.fs.fresh = none) :
    ∃ r, q.removeSocketPath P = .ok r ∧ r.fs.names = p.fs.names := by
  obtain ⟨d, c, tgt, reach, free, rfl⟩ := bindName_ok bound
  obtain ⟨tgt', there, found⟩ := withSocket_found tgt reach free unused
  refine ⟨{ p.withSocket (d ++ [c]) with
    fs := { (p.withSocket (d ++ [c])).fs with
      names := (p.withSocket (d ++ [c])).fs.names.filter (·.1 != d ++ [c]) } }, ?_, ?_⟩
  · simp [removeSocketPath, removeFile, tgt', there, Inode.isDir, FileSystem.unlink, found, bind,
      Except.bind, pure, Except.pure]
  · -- the name was free before, so the filter keeps every older name
    have unnamed : ∀ e ∈ p.fs.names, (e.1 != d ++ [c]) = true := by
      intro e mem
      have := List.lookup_eq_none_iff.1 free e mem
      simpa [bne_comm] using this
    simp [withSocket, List.filter_append, List.filter_eq_self.2 unnamed]

theorem nodeAt_bindName {p q : Program} {P : Path} (bound : p.bindName P = .ok q)
    (unused : p.fs.inode? p.fs.fresh = none) : q.nodeAt? P = some .socket := by
  obtain ⟨d, c, tgt, reach, free, rfl⟩ := bindName_ok bound
  obtain ⟨tgt', there, found⟩ := withSocket_found tgt reach free unused
  simp [nodeAt?, stat, onPath, place, tgt', FileSystem.existing, there, Inode.isDir,
    FileSystem.stat, found, bind, Except.bind]

end Program

end UpperEcho.Host

namespace UpperEcho.UnixClient

open Host

theorem drop_cases (c : UnixClient) (p : Program) :
    (c.drop p).1 = [] ∧ p.removeSocketPath (Path.ofString c.path) = .ok (c.drop p).2 ∨
    ∃ e, p.removeSocketPath (Path.ofString c.path) = .error e ∧
      c.drop p = ([⟨.warn, some clientModule,
        "failed to remove " ++ c.path ++ ": " ++ (SysError.io e).message⟩], p) := by
  unfold drop
  cases removal : p.removeSocketPath (Path.ofString c.path) with
  | ok q => exact .inl ⟨rfl, rfl⟩
  | error e => exact .inr ⟨e, rfl, rfl⟩

theorem drop_of_removed {c : UnixClient} {p q : Program}
    (gone : p.removeSocketPath (Path.ofString c.path) = .ok q) : c.drop p = ([], q) := by
  simp [drop, gone]

section Connect

variable {p : Program} {path server : String} {live : Bool} {mismatch : Option IoFault}

theorem connectFrom_badLength (bad : path.utf8ByteSize = 0 ∨ 108 ≤ path.utf8ByteSize) :
    ∃ what reason,
      connectFrom p path server live mismatch = (.error (.endpoint what reason), [], p) := by
  unfold connectFrom Endpoint.ofPath Endpoint.pathLimit
  rcases bad with empty | long
  · simp [empty, Endpoint.refuse]
  · have full : path.utf8ByteSize ≠ 0 := by omega
    simp [full, long, Endpoint.refuse]

theorem unused_of_removed {q : Program} (removed : p.removeSocketPath (Path.ofString path) = .ok q)
    (unused : p.fs.inode? p.fs.fresh = none) : q.fs.inode? q.fs.fresh = none := by
  obtain ⟨inodes, fresh⟩ := Program.removeSocketPath_ok removed
  simpa [FileSystem.inode?, inodes, fresh] using unused

theorem connectFrom_cases {r : Except ServiceError UnixClient × List LogRecord × Program}
    (h : connectFrom p path server live mismatch = r) :
    (∃ e, r = (.error e, [], p)) ∨
    (∃ p₁ e, p.removeSocketPath (Path.ofString path) = .ok p₁ ∧
      p₁.bindName (Path.ofString path) = .error e ∧ r = (.error (.io e), [], p₁)) ∨
    ∃ p₁ q, p.removeSocketPath (Path.ofString path) = .ok p₁ ∧
      p₁.bindName (Path.ofString path) = .ok q ∧
      ((∃ f, connectFault q server live mismatch = some f ∧
          r = (.error (.io f), (drop ⟨path⟩ q).1, (drop ⟨path⟩ q).2)) ∨
        (connectFault q server live mismatch = none ∧ r = (.ok ⟨path⟩, [], q))) := by
  subst h
  unfold connectFrom
  cases Endpoint.ofPath path with
  | error e => exact .inl ⟨e, rfl⟩
  | ok _ =>
    dsimp only
    cases removal : p.removeSocketPath (Path.ofString path) with
    | error e => exact .inl ⟨.io e, rfl⟩
    | ok p₁ =>
      dsimp only
      cases binding : p₁.bindName (Path.ofString path) with
      | error e => exact .inr (.inl ⟨p₁, e, rfl, binding, rfl⟩)
      | ok q =>
        dsimp only
        cases fault : connectFault q server live mismatch with
        | some f => exact .inr (.inr ⟨p₁, q, rfl, binding, .inl ⟨f, fault, rfl⟩⟩)
        | none => exact .inr (.inr ⟨p₁, q, rfl, binding, .inr ⟨fault, rfl⟩⟩)

theorem connectFrom_error (unused : p.fs.inode? p.fs.fresh = none) {e : ServiceError}
    {logs : List LogRecord} {p' : Program}
    (h : connectFrom p path server live mismatch = (.error e, logs, p')) :
    logs = [] ∧ ∃ q, (q = p ∨ p.removeSocketPath (Path.ofString path) = .ok q) ∧
      p'.fs.names = q.fs.names := by
  rcases connectFrom_cases h with ⟨e', same⟩ | ⟨p₁, e', removal, -, same⟩ |
    ⟨p₁, q, removal, binding, ⟨f, -, same⟩ | ⟨-, same⟩⟩
  · simp only [Prod.mk.injEq] at same
    exact ⟨same.2.1, p, .inl rfl, by rw [same.2.2]⟩
  · simp only [Prod.mk.injEq] at same
    exact ⟨same.2.1, p₁, .inr removal, by rw [same.2.2]⟩
  · -- the bind went through: the connect failed, and dropping the client takes the name away
    obtain ⟨r, gone, names⟩ :=
      Program.removeSocketPath_bindName binding (unused_of_removed removal unused)
    simp only [drop_of_removed gone, Prod.mk.injEq] at same
    exact ⟨same.2.1, p₁, .inr removal, by rw [same.2.2, names]⟩
  · cases same

theorem connectFrom_ok (unused : p.fs.inode? p.fs.fresh = none) {c : UnixClient}
    {logs : List LogRecord} {q : Program}
    (h : connectFrom p path server live mismatch = (.ok c, logs, q)) :
    c.path = path ∧ logs = [] ∧ q.nodeAt? (Path.ofString path) = some .socket ∧
      ∃ p₁, p.removeSocketPath (Path.ofString path) = .ok p₁ ∧ (c.drop q).1 = [] ∧
        (c.drop q).2.fs.names = p₁.fs.names := by
  rcases connectFrom_cases h with ⟨e', same⟩ | ⟨p₁, e', -, -, same⟩ |
    ⟨p₁, q', removal, binding, ⟨f, -, same⟩ | ⟨-, same⟩⟩
  · cases same
  · cases same
  · cases same
  · simp only [Prod.mk.injEq, Except.ok.injEq] at same
    obtain ⟨rfl, rfl, rfl⟩ := same
    have unused₁ := unused_of_removed removal unused
    obtain ⟨r, gone, names⟩ := Program.removeSocketPath_bindName binding unused₁
    refine ⟨rfl, rfl, Program.nodeAt_bindName binding unused₁, p₁, removal, ?_⟩
    rw [drop_of_removed gone]
    exact ⟨rfl, names⟩

end Connect

theorem replyPathLifecycle (p : Program) (unused : p.fs.inode? p.fs.fresh = none)
    (path server : String) (live : Bool) (mismatch : Option IoFault) :
    ((path.utf8ByteSize = 0 ∨ 108 ≤ path.utf8ByteSize) → ∃ what reason,
      connectFrom p path server live mismatch = (.error (.endpoint what reason), [], p)) ∧
    (∀ e logs p', connectFrom p path server live mismatch = (.error e, logs, p') →
      logs = [] ∧ ∃ q, (q = p ∨ p.removeSocketPath (Path.ofString path) = .ok q) ∧
        p'.fs.names = q.fs.names) ∧
    (∀ c logs q, connectFrom p path server live mismatch = (.ok c, logs, q) →
      c.path = path ∧ q.nodeAt? (Path.ofString path) = some .socket ∧
      ∃ p₁, p.removeSocketPath (Path.ofString path) = .ok p₁ ∧ (c.drop q).1 = [] ∧
        (c.drop q).2.fs.names = p₁.fs.names) ∧
    (∀ (c : UnixClient) (q : Program),
      (c.drop q).1 = [] ∧ q.removeSocketPath (Path.ofString c.path) = .ok (c.drop q).2 ∨
      ∃ e, q.removeSocketPath (Path.ofString c.path) = .error e ∧
        c.drop q = ([⟨.warn, some clientModule,
          "failed to remove " ++ c.path ++ ": " ++ (SysError.io e).message⟩], q)) ∧
    (∀ pid c logs q, connect p pid server live mismatch = (.ok c, logs, q) →
      c.path = "/tmp/ud_ucase_cl." ++ pid) := by
  refine ⟨connectFrom_badLength, fun _ _ _ h => connectFrom_error unused h, ?_, drop_cases, ?_⟩
  · intro c logs q h
    obtain ⟨same, -, bound, rest⟩ := connectFrom_ok unused h
    exact ⟨same, bound, rest⟩
  · intro pid c logs q h
    exact (connectFrom_ok unused h).1

theorem replyPathInTmp :
    let p : Program := { fs := ⟨[([], 0), (["tmp"], 1)], [(0, ⟨.dir, 0o755⟩), (1, ⟨.dir, 0o1777⟩)], 2⟩ }
    p.fs.inode? p.fs.fresh = none ∧
    (("/tmp/c".utf8ByteSize = 0 ∨ 108 ≤ "/tmp/c".utf8ByteSize) → ∃ what reason,
      connectFrom p "/tmp/c" "/tmp/s" true none = (.error (.endpoint what reason), [], p)) ∧
    (∀ e logs p', connectFrom p "/tmp/c" "/tmp/s" true none = (.error e, logs, p') →
      logs = [] ∧ ∃ q, (q = p ∨ p.removeSocketPath (Path.ofString "/tmp/c") = .ok q) ∧
        p'.fs.names = q.fs.names) ∧
    (∀ c logs q, connectFrom p "/tmp/c" "/tmp/s" true none = (.ok c, logs, q) →
      c.path = "/tmp/c" ∧ q.nodeAt? (Path.ofString "/tmp/c") = some .socket ∧
      ∃ p₁, p.removeSocketPath (Path.ofString "/tmp/c") = .ok p₁ ∧ (c.drop q).1 = [] ∧
        (c.drop q).2.fs.names = p₁.fs.names) ∧
    (∀ (c : UnixClient) (q : Program),
      (c.drop q).1 = [] ∧ q.removeSocketPath (Path.ofString c.path) = .ok (c.drop q).2 ∨
      ∃ e, q.removeSocketPath (Path.ofString c.path) = .error e ∧
        c.drop q = ([⟨.warn, some clientModule,
          "failed to remove " ++ c.path ++ ": " ++ (SysError.io e).message⟩], q)) ∧
    (∀ pid c logs q, connect p pid "/tmp/s" true none = (.ok c, logs, q) →
      c.path = "/tmp/ud_ucase_cl." ++ pid) :=
  ⟨rfl, replyPathLifecycle _ rfl "/tmp/c" "/tmp/s" true none⟩

end UpperEcho.UnixClient

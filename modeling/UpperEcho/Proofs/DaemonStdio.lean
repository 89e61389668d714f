import UpperEcho.Host.Descriptors
import UpperEcho.Host.Machine
import UpperEcho.Proofs.FileTree

/-! A detached process: its session, and its standard descriptors all on the null device. -/
namespace UpperEcho.Host

namespace FdTable

theorem lookup_put (t : FdTable) (fd k : Nat) (f : OpenFile) :
    (t.put fd f).entries.lookup k = if k = fd then some f else t.entries.lookup k := by
  unfold put
  rw [List.lookup_append, FileSystem.lookup_filter_ne]
  by_cases same : k = fd
  · subst same
    simp
  · simp [same, List.lookup_cons, beq_false_of_ne same]

theorem isOpen_put (t : FdTable) (fd k : Nat) (f : OpenFile) :
    (t.put fd f).isOpen k = (k == fd || t.isOpen k) := by
  by_cases same : k = fd <;> simp [isOpen, lookup_put, same]

@[simp] theorem limit_put (t : FdTable) (fd : Nat) (f : OpenFile) : (t.put fd f).limit = t.limit :=
  rfl

theorem isOpen_closeAll (t : FdTable) (b : Int) (k : Nat) :
    (t.closeAll b).isOpen k = (decide (b ≤ (k : Int)) && t.isOpen k) := by
  rw [closeAll_eq]
  simp only [isOpen]
  rw [FileSystem.lookup_filter_key t.entries (fun k : Nat => decide (b ≤ (k : Int))) k]
  by_cases above : b ≤ (k : Int) <;> simp [above]

@[simp] theorem limit_closeAll (t : FdTable) (b : Int) : (t.closeAll b).limit = t.limit := by
  rw [closeAll_eq]

theorem dup2_of_open (t : FdTable) (src dst : Nat) (f : OpenFile)
    (opened : t.entries.lookup src = some f) (fits : dst < t.limit) :
    t.dup2 src dst = .ok (dst, t.put dst f) := by
  unfold dup2
  rw [opened]
  exact if_neg (by omega)

theorem dupStdin_cons_of_open (t : FdTable) (target : Nat) (rest : List Nat) (f : OpenFile)
    (opened : t.entries.lookup 0 = some f) (fits : target < t.limit) :
    t.dupStdin (target :: rest) = (t.put target f).dupStdin rest := by
  simp [dupStdin, dup2_of_open t 0 target f opened fits]

theorem lowestFree_of_free (t : FdTable) (fuel : Nat) (free : t.isOpen 0 = false) :
    t.lowestFree (fuel + 1) 0 = 0 := by
  simp [lowestFree, free]

theorem openMax_range (t : FdTable) : 1 ≤ t.openMax ∧ t.openMax ≤ 2147483647 := by
  unfold openMax closeFallback
  split <;> omega

theorem limit_of_openMax (t : FdTable) (room : 0 < t.limit) (wide : 3 ≤ t.openMax) :
    3 ≤ t.limit := by
  unfold openMax at wide
  rw [if_pos room] at wide
  omega

end FdTable

namespace ProcIds

theorem setsid_fork (ids : ProcIds) : ids.fork.setsid = .ok ids.fork.lead := by
  have := ids.issued
  unfold setsid fork
  rw [if_neg (by dsimp only; omega)]

end ProcIds

namespace Holder

variable (h : Holder) {n : Nat} {i : Inode}

def stdioTable (t : FdTable) (n : Nat) : FdTable :=
  ((t.put 0 (.inode n)).put 1 (.inode n)).put 2 (.inode n)

theorem reopenStdioNull_of_free (null : (h.prog.place nullDevice >>= h.prog.fs.find) = .ok (n, i))
    (free : ∀ fd < 3, h.fds.isOpen fd = false) (room : 3 ≤ h.fds.limit) :
    h.reopenStdioNull = (.ok (), { h with fds := stdioTable h.fds n }) := by
  have lowest : h.fds.lowestFree (h.fds.entries.length + 1) 0 = 0 :=
    FdTable.lowestFree_of_free _ _ (free 0 (by omega))
  have opened : h.openPath nullDevice = .ok (0, { h with fds := h.fds.put 0 (.inode n) }) := by
    simp only [openPath, null, FdTable.attach, lowest]
    rw [if_neg (by omega)]
  -- each copy answers its own target, so neither mismatch check fails
  have first := FdTable.dupStdin_cons_of_open (h.fds.put 0 (.inode n)) 1 [2] (.inode n)
    (by simp [FdTable.lookup_put]) (by simp only [FdTable.limit_put]; omega)
  have second := FdTable.dupStdin_cons_of_open ((h.fds.put 0 (.inode n)).put 1 (.inode n)) 2 []
    (.inode n) (by simp [FdTable.lookup_put]) (by simp only [FdTable.limit_put]; omega)
  simp only [reopenStdioNull, opened, first, second]
  rfl

theorem get_stdioTable (t : FdTable) (fd : Nat) (std : fd < 3) :
    (stdioTable t n).get? fd = some (.inode n) := by
  have : fd = 0 ∨ fd = 1 ∨ fd = 2 := by omega
  rcases this with rfl | rfl | rfl <;> simp [stdioTable, FdTable.get?, FdTable.lookup_put]

theorem isOpen_stdioTable (t : FdTable) (fd : Nat) (other : 3 ≤ fd) :
    (stdioTable t n).isOpen fd = t.isOpen fd := by
  have (k : Nat) (std : k < 3) : (fd == k) = false := beq_false_of_ne (by omega)
  simp [stdioTable, FdTable.isOpen_put, this]

theorem place_nullDevice (cwd : Location) (umask : Nat) :
    { h.prog with cwd := cwd, umask := umask }.place nullDevice = h.prog.place nullDevice := by
  simp [Program.place, Program.target, FileSystem.target, nullDevice]

theorem daemonStdioOnNull (null : (h.prog.place nullDevice >>= h.prog.fs.find) = .ok (n, i))
    (room : 0 < h.fds.limit) (wide : 3 ≤ h.fds.openMax) :
    h.becomeDaemon.1 = .ok () ∧
    (∀ fd : Nat, fd < 3 → h.becomeDaemon.2.fds.get? fd = some (.inode n)) ∧
    (∀ fd : Nat, 3 ≤ fd → fd < h.fds.openMax → h.becomeDaemon.2.fds.isOpen fd = false) ∧
    (∀ t : FdTable, 1 ≤ t.openMax ∧ t.openMax ≤ 2147483647) := by
  -- the detached process: its mask and directory reset, everything below the largest number shut
  let closed : Holder := { prog := { h.prog with umask := 0, cwd := [] },
                           fds := h.fds.closeAll h.fds.openMax, ids := h.ids.fork.lead.fork }
  have null' : (closed.prog.place nullDevice >>= closed.prog.fs.find) = .ok (n, i) := by
    rw [place_nullDevice]
    exact null
  have free : ∀ fd < 3, closed.fds.isOpen fd = false := by
    intro fd std
    simp [closed, FdTable.isOpen_closeAll]
    omega
  have reopened := reopenStdioNull_of_free closed null' free
    (by simpa [closed] using FdTable.limit_of_openMax h.fds room wide)
  have daemon : h.becomeDaemon = closed.reopenStdioNull := by
    unfold becomeDaemon
    rw [ProcIds.setsid_fork]
  rw [daemon, reopened]
  refine ⟨rfl, fun fd std => get_stdioTable _ fd std, ?_, FdTable.openMax_range⟩
  intro fd other below
  rw [isOpen_stdioTable _ fd other]
  simp [closed, FdTable.isOpen_closeAll]
  omega

theorem ids_openPath {path : Path} {fd : Nat} {h' : Holder} (opened : h.openPath path = .ok (fd, h')) :
    h'.ids = h.ids := by
  unfold openPath at opened
  split at opened
  · cases opened
  · split at opened <;> cases opened
    rfl

theorem ids_reopenStdioNull : h.reopenStdioNull.2.ids = h.ids := by
  unfold reopenStdioNull
  split
  · rfl
  · next fd h' opened =>
    split
    · exact ids_openPath h opened
    · split
      dsimp only
      exact ids_openPath h opened

theorem becomeDaemon_ids : h.becomeDaemon.2.ids = h.ids.fork.lead.fork := by
  unfold becomeDaemon
  rw [ProcIds.setsid_fork]
  exact ids_reopenStdioNull _

theorem daemonLeavesSession :
    h.becomeDaemon.2.ids.sid ≠ h.ids.sid ∧ h.becomeDaemon.2.ids.pid ≠ h.becomeDaemon.2.ids.sid ∧
      h.becomeDaemon.2.ids.pgid = h.becomeDaemon.2.ids.sid ∧
      h.becomeDaemon.2.ids.openTty = .error .noDeviceAddress := by
  have issued := h.ids.issued
  rw [becomeDaemon_ids]
  refine ⟨?_, ?_, rfl, rfl⟩ <;> dsimp only [ProcIds.fork, ProcIds.lead] <;> omega

theorem daemonFromPipes :
    let h : Holder :=
      { prog := { fs := ⟨[([], 0), (["dev"], 1), (["dev", "null"], 2)],
          [(0, ⟨.dir, 0o755⟩), (1, ⟨.dir, 0o755⟩), (2, ⟨.device .null, 0o666⟩)], 3⟩ }
        fds := ⟨[(0, .pipe 0), (1, .pipe 1), (7, .pipe 2)], 64⟩ }
    (h.prog.place nullDevice >>= h.prog.fs.find) = .ok (2, ⟨.device .null, 0o666⟩) ∧
    0 < h.fds.limit ∧ 3 ≤ h.fds.openMax ∧
    h.becomeDaemon.1 = .ok () ∧
    (∀ fd : Nat, fd < 3 → h.becomeDaemon.2.fds.get? fd = some (.inode 2)) ∧
    (∀ fd : Nat, 3 ≤ fd → fd < h.fds.openMax → h.becomeDaemon.2.fds.isOpen fd = false) ∧
    (∀ t : FdTable, 1 ≤ t.openMax ∧ t.openMax ≤ 2147483647) := by
  intro h
  have null : (h.prog.place nullDevice >>= h.prog.fs.find) = .ok (2, ⟨.device .null, 0o666⟩) := rfl
  have room : 0 < h.fds.limit := by decide
  have wide : 3 ≤ h.fds.openMax := by decide
  exact ⟨null, room, wide, daemonStdioOnNull h null room wide⟩

end Holder

end UpperEcho.Host

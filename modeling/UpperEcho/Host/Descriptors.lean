import UpperEcho.Host.Program
import UpperEcho.SysError

/-! A process's descriptor table, its place among the processes, and detaching it from its
terminal by a double fork (`becomeDaemon`). -/
namespace UpperEcho.Host

inductive OpenFile where
  | inode (n : Nat)
  | pipe (id : Nat)
  deriving DecidableEq, Repr

structure FdTable where
  entries : List (Nat × OpenFile)
  limit : Nat
  deriving DecidableEq, Repr

def closeFallback : Nat := 8192

namespace FdTable

def get? (t : FdTable) (fd : Int) : Option OpenFile :=
  if fd < 0 then none else t.entries.lookup fd.toNat

def isOpen (t : FdTable) (fd : Nat) : Bool := (t.entries.lookup fd).isSome

def lowestFree (t : FdTable) : Nat → Nat → Nat
  | 0, k => k
  | fuel + 1, k => if t.isOpen k then t.lowestFree fuel (k + 1) else k

def put (t : FdTable) (fd : Nat) (f : OpenFile) : FdTable :=
  { t with entries := (t.entries.filter (·.1 != fd)) ++ [(fd, f)] }

def attach (t : FdTable) (f : OpenFile) : Except Errno (Nat × FdTable) :=
  let fd := t.lowestFree (t.entries.length + 1) 0
  if t.limit ≤ fd then .error .tooManyFiles else .ok (fd, t.put fd f)

def close (t : FdTable) (fd : Nat) : FdTable := { t with entries := t.entries.filter (·.1 != fd) }

def procListing (t : FdTable) : Option (List Nat) :=
  let own := t.lowestFree (t.entries.length + 1) 0
  if t.limit ≤ own then none else some (t.entries.map (·.1) ++ [own])

def closeAll (t : FdTable) (bound : Int) : FdTable :=
  match t.procListing with
  | some fds => (fds.filter fun (fd : Nat) => (fd : Int) < bound).foldl close t
  | none => (List.range bound.toNat).foldl close t

def dup2 (t : FdTable) (src dst : Nat) : Except Errno (Nat × FdTable) :=
  match t.entries.lookup src with
  | none => .error .badDescriptor
  | some f => if t.limit ≤ dst then .error .badDescriptor else .ok (dst, t.put dst f)

def dupStdin (t : FdTable) : List Nat → Except SysError Unit × FdTable
  | [] => (.ok (), t)
  | target :: rest =>
    match t.dup2 0 target with
    | .error e => (.error (.syscall e), t)
    | .ok (got, t) =>
      if got != target then (.error (.stdioMismatch target got), t) else t.dupStdin rest

def openMax (t : FdTable) : Nat := if 0 < t.limit then min t.limit 2147483647 else closeFallback

def listed (t : FdTable) : List Nat := ((t.entries.map (·.1)).filter (· < 256)).mergeSort (· ≤ ·)

end FdTable

/-- Where a process stands among the processes; `next`, the id the machine hands out next, is
above every id in use. -/
structure ProcIds where
  pid : Nat
  pgid : Nat
  sid : Nat
  tty : Bool
  next : Nat
  issued : pid < next ∧ pgid < next ∧ sid < next

namespace ProcIds

def initial : ProcIds := ⟨2, 1, 1, true, 3, by decide⟩

def fork (ids : ProcIds) : ProcIds :=
  { ids with pid := ids.next, next := ids.next + 1, issued := by have := ids.issued; omega }

def lead (ids : ProcIds) : ProcIds :=
  { ids with pgid := ids.pid, sid := ids.pid, tty := false, issued := by have := ids.issued; omega }

def setsid (ids : ProcIds) : Except Errno ProcIds :=
  if ids.pid = ids.pgid then .error .perm else .ok ids.lead

def openTty (ids : ProcIds) : Except Errno Unit :=
  if ids.tty then .ok () else .error .noDeviceAddress

end ProcIds

structure DaemonFlags where
  bits : UInt32 := 0
  deriving DecidableEq, Repr

structure Holder where
  prog : Program
  fds : FdTable
  ids : ProcIds := .initial

namespace Holder

def openPath (h : Holder) (path : Path) : Except Errno (Nat × Holder) :=
  match h.prog.place path >>= h.prog.fs.find with
  | .error e => .error e
  | .ok (n, _) =>
    match h.fds.attach (.inode n) with
    | .error e => .error e
    | .ok (fd, t) => .ok (fd, { h with fds := t })

def fstat (h : Holder) (fd : Int) : Except SysError OpenFile :=
  match h.fds.get? fd with
  | some f => .ok f
  | none => .error (.syscall .badDescriptor)

def fdIsFile (h : Holder) (fd : Int) (path : String) : Except SysError Bool := do
  let f ← h.fstat fd
  match h.prog.place (Path.ofString path) >>= h.prog.fs.find with
  | .error e => throw (.syscall e)
  | .ok (n, _) => pure (f == .inode n)

def isChar (h : Holder) (fd : Int) : Except SysError Bool := do
  match ← h.fstat fd with
  | .inode n =>
    match h.prog.fs.inode? n with
    | some ⟨.device _, _⟩ => pure true
    | _ => pure false
  | .pipe _ => pure false

def nullDevice : Path := ⟨true, ["dev", "null"], false⟩

def reopenStdioNull (h : Holder) : Except SysError Unit × Holder :=
  match h.openPath nullDevice with
  | .error e => (.error (.syscall e), h)
  | .ok (fd, h) =>
    if fd != 0 then (.error (.stdioMismatch 0 fd), h)
    else
      let (r, t) := h.fds.dupStdin [1, 2]
      (r, { h with fds := t })

def becomeDaemon (h : Holder) (_flags : DaemonFlags := {}) : Except SysError Unit × Holder :=
  match h.ids.fork.setsid with
  | .error e => (.error (.newSession e), { h with ids := h.ids.fork })
  | .ok ids =>
    let h := { h with ids := ids.fork, prog := { h.prog with umask := 0, cwd := [] } }
    let h := { h with fds := h.fds.closeAll h.fds.openMax }
    h.reopenStdioNull

def stdioNull (h : Holder) : Bool :=
  [0, 1, 2].all fun fd => (h.fdIsFile fd "/dev/null").toOption == some true

end Holder

namespace FdTable

theorem foldl_close (fds : List Nat) (t : FdTable) :
    fds.foldl close t = { t with entries := t.entries.filter fun e => e.1 ∉ fds } := by
  induction fds generalizing t with
  | nil => simp [List.filter_eq_self.2]
  | cons fd rest ih =>
    rw [List.foldl_cons, ih]
    simp only [close, List.filter_filter, mk.injEq, and_true]
    congr 1
    funext e
    by_cases same : e.1 = fd <;> simp [same]

theorem closeAll_eq (t : FdTable) (bound : Int) :
    t.closeAll bound = { t with entries := t.entries.filter fun e => bound ≤ (e.1 : Int) } := by
  unfold closeAll
  split
  · next fds listing =>
    unfold procListing at listing
    dsimp only at listing
    split at listing
    · cases listing
    · cases listing
      rw [foldl_close]
      congr 1
      apply List.filter_congr
      intro e open_
      have listed : e.1 ∈ t.entries.map (·.1) := List.mem_map_of_mem open_
      simp only [List.filter_append, List.mem_append, List.mem_filter, listed, true_and]
      by_cases below : (e.1 : Int) < bound
      · simp [below]
      · have : bound ≤ (e.1 : Int) := by omega
        simp [below, this]
  · rw [foldl_close]
    congr 1
    apply List.filter_congr
    intro e _
    simp only [List.mem_range, decide_eq_decide]
    omega

theorem closeAll_listed (t : FdTable) (b : Int) (fd : Nat)
    (h : fd ∈ (t.closeAll b).entries.map (·.1)) : b ≤ fd := by
  simp only [closeAll_eq, List.mem_map, List.mem_filter, decide_eq_true_eq] at h
  obtain ⟨e, ⟨_, hb⟩, rfl⟩ := h
  exact hb

end FdTable

end UpperEcho.Host

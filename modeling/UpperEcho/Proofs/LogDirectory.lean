import Mathlib.Data.List.Basic
import Mathlib.Data.List.Nodup
import UpperEcho.Proofs.FileTree
import UpperEcho.Proofs.NumeralText
import UpperEcho.Log.Logger

/-! The directory of a rotated log (`LogDir`), kept by every file call the rotation makes. -/
namespace UpperEcho

open Host

def copyName (name : String) (k : Nat) : String := name ++ "." ++ toString k

theorem copyPath_join (D : Location) (name : String) (k : Nat) :
    LogFile.copyPath ⟨true, D, false⟩ name k = ⟨true, D ++ [copyName name k], false⟩ := rfl

theorem rotationNumber_copyName (name : String) {k : Nat} (small : k ≤ Nat.pow 2 64 - 1) :
    rotationNumber name (copyName name k) = some k := by
  have start : (copyName name k).startsWith (name ++ ".") = true := by
    simp [copyName, String.startsWith_string_iff]
  have rest : String.ofList ((copyName name k).toList.drop (name.length + 1)) = toString k := by
    rw [← String.toList_inj]
    simp [copyName, ← String.length_toList, List.drop_append]
  rw [rotationNumber, if_pos start, rest, Net.parseDecimal_toString small]

theorem copyName_injective (name : String) : Function.Injective (copyName name) := by
  intro k j same
  have digits : toString k = toString j := by
    have := congrArg String.toList same
    simp only [copyName, String.toList_append, List.append_cancel_left_eq] at this
    exact String.toList_inj.1 this
  -- both numbers read back from the same digits, under a bound above both
  have read := Net.parseDecimal_toString (le_max_left k j)
  rw [digits, Net.parseDecimal_toString (le_max_right k j)] at read
  exact (Option.some.inj read).symm

theorem copyName_toList (name : String) (k : Nat) :
    (copyName name k).toList = name.toList ++ '.' :: Nat.toDigits 10 k := by
  simp [copyName, Nat.toString_eq_repr, Nat.toList_repr]

theorem plain_copyName (name : String) (k : Nat) : Plain (copyName name k) := by
  have digits := Nat.toDigits_ne_nil (n := k) (b := 10)
  have nodot : '.' ∉ Nat.toDigits 10 k := fun mem => by simpa using Net.isDigit_of_mem_toDigits mem
  constructor
  · intro same
    have := congrArg String.toList same
    rw [copyName_toList] at this
    cases h : name.toList <;> simp_all
  · intro same
    have := congrArg String.toList same
    rw [copyName_toList] at this
    rcases h : name.toList with _ | ⟨a, _ | ⟨b, t⟩⟩ <;> simp_all

theorem copyName_ne (name : String) (k : Nat) : copyName name k ≠ name := by
  intro same
  have := congrArg (fun s => s.toList.length) same
  simp [copyName_toList] at this

theorem usizeSucc_of_lt (prof : Profile) {k : Nat} (small : k + 1 < Nat.pow 2 64) :
    usizeSucc prof k = some (k + 1) :=
  if_pos small

theorem usizeSucc_release (k : Nat) : usizeSucc .release k = some ((k + 1) % Nat.pow 2 64) := by
  by_cases small : k + 1 < Nat.pow 2 64
  · rw [usizeSucc_of_lt _ small, Nat.mod_eq_of_lt small]
  · simp [usizeSucc, small]

theorem usizeSucc_ne {prof : Profile} {k k' : Nat} (next : usizeSucc prof k = some k') : k' ≠ k := by
  unfold usizeSucc at next
  split at next
  · cases next
    omega
  · split at next
    · cases next
    · cases next
      -- the successor wraps: `k` is the largest word and its successor 0
      have word : Nat.pow 2 64 = 18446744073709551616 := rfl
      rw [word] at *
      omega

theorem shiftUp_release (dir : Path) (name : String) :
    ∀ (ns : List Nat) (p : Program), (LogFile.shiftUp .release dir name ns p).1 = some ()
  | [], _ => rfl
  | k :: rest, p => by
    rw [LogFile.shiftUp, usizeSucc_release]
    exact shiftUp_release dir name rest _

theorem rotate_returns (f : LogFile) (p : Program) : (f.rotate p).1.isSome := by
  unfold LogFile.rotate
  split
  · rfl
  · rfl
  · split
    · rfl
    · dsimp only
      split
      · rename_i aborted
        have returned := congrArg Prod.fst aborted
        rw [shiftUp_release] at returned
        cases returned
      · split
        · rfl
        · split <;> rfl

theorem Host.FileSystem.DirsAt.frame {fs fs' : FileSystem} {D : Location} (dirs : fs.DirsAt D)
    (names : ∀ y : Location, y.length ≤ D.length → fs'.number? y = fs.number? y)
    (dirNodes : ∀ k i, fs.inode? k = some i → i.isDir = true → fs'.inode? k = some i) : fs'.DirsAt D := by
  intro j short
  obtain ⟨i, found, dir⟩ := FileSystem.isDirAt_iff.1 (dirs j short)
  simp only [FileSystem.at?, Option.bind_eq_some_iff] at found
  obtain ⟨n, named, node⟩ := found
  have level : (D.take j).length ≤ D.length := by simp
  apply FileSystem.isDirAt_iff.2
  refine ⟨i, ?_, dir⟩
  simp only [FileSystem.at?, Option.bind_eq_some_iff]
  exact ⟨n, by rw [names _ level, named], dirNodes n i node dir⟩

theorem rotationNumber_self (name : String) : rotationNumber name name = none := by
  have longer : ¬(name ++ ".").toList <+: name.toList := fun pre => by
    have := pre.length_le
    simp at this
  rw [rotationNumber, if_neg (by rwa [String.startsWith_string_iff])]

/-! ### The directory of a rotated log -/

def numberedNames (fs : FileSystem) (name : String) (listing : List (String × Nat)) : List String :=
  (listing.filter fun e => (fs.inode? e.2).any Inode.isFile && (rotationNumber name e.1).isSome).map Prod.fst

/-- The directory `D` holds the log file `name`, open as inode `node` with bytes `cur`, and the
rotated copies `copies`, each with its bytes and number; nothing else there reads as a copy. -/
structure LogDir (fs : FileSystem) (D : Location) (name : String) (node : Nat)
    (copies : List (Bytes × Nat)) (cur : Bytes) : Prop where
  dirs : fs.DirsAt D
  activeNamed : fs.number? (D ++ [name]) = some node
  activeFile : ∃ m, fs.inode? node = some ⟨.file cur, m⟩
  copyFiles : ∀ e ∈ copies, ∃ n m, fs.number? (D ++ [copyName name e.2]) = some n ∧ n ≠ node ∧
    fs.inode? n = some ⟨.file e.1, m⟩
  small : ∀ e ∈ copies, e.2 ≤ Nat.pow 2 64 - 1
  unique : ((fs.children D).map Prod.fst).Nodup
  numbered : (numberedNames fs name (fs.children D)).Perm (copies.map fun e => copyName name e.2)
  namedFiles : ∀ k n, 0 < k → fs.number? (D ++ [copyName name k]) = some n → (fs.inode? n).any Inode.isFile
  listed : ∀ e ∈ fs.children D, e.2 < fs.fresh
  unused : ∀ k, fs.fresh ≤ k → fs.inode? k = none

theorem namedFiles_of_names {fs : FileSystem} {D : Location} {name : String}
    (files : ∀ e ∈ fs.names, e.1 ≠ [] → (fs.inode? e.2).any Inode.isFile) :
    ∀ k n, 0 < k → fs.number? (D ++ [copyName name k]) = some n → (fs.inode? n).any Inode.isFile := by
  intro k n _ named
  obtain ⟨l₁, l₂, split, -⟩ := List.lookup_eq_some_iff.1 named
  exact files (D ++ [copyName name k], n) (by rw [split]; simp) (by simp)

theorem numberedNames_filter (fs : FileSystem) (name c : String) (l : List (String × Nat)) :
    numberedNames fs name (l.filter (·.1 != c)) = (numberedNames fs name l).filter (· != c) := by
  simp only [numberedNames, List.filter_map, List.filter_filter]
  congr 1
  apply List.filter_congr
  intro e _
  simp only [Function.comp_apply, Bool.and_comm]

theorem numberedNames_congr {fs fs' : FileSystem} (name : String) {l : List (String × Nat)}
    (kinds : ∀ e ∈ l, (fs'.inode? e.2).any Inode.isFile = (fs.inode? e.2).any Inode.isFile) :
    numberedNames fs' name l = numberedNames fs name l := by
  simp only [numberedNames]
  congr 1
  apply List.filter_congr
  intro e mem
  rw [kinds e mem]

theorem names_renameChild (a b : String) (l : List (String × Nat)) :
    (l.map (FileSystem.renameChild a b)).map Prod.fst = (l.map Prod.fst).map fun x => if x = a then b else x := by
  rw [List.map_map, List.map_map]
  apply List.map_congr_left
  intro e _
  by_cases ea : e.1 = a <;> simp [FileSystem.renameChild, ea]

theorem numberedNames_rename {fs : FileSystem} {name a b : String} (ha : (rotationNumber name a).isSome)
    (hb : (rotationNumber name b).isSome) (l : List (String × Nat)) :
    numberedNames fs name (l.map (FileSystem.renameChild a b)) =
      (numberedNames fs name l).map fun x => if x = a then b else x := by
  -- both names are read as copies, and the inodes stay, so renaming keeps which entries are
  have same : ((fun e : String × Nat => (fs.inode? e.2).any Inode.isFile && (rotationNumber name e.1).isSome) ∘
      FileSystem.renameChild a b) =
      fun e => (fs.inode? e.2).any Inode.isFile && (rotationNumber name e.1).isSome := by
    funext e
    by_cases ea : e.1 = a <;> simp [FileSystem.renameChild, ea, ha, hb]
  rw [numberedNames, numberedNames, List.filter_map, same, names_renameChild]

theorem mem_split {α : Type} {A B : List α} {x e : α} : e ∈ A ++ x :: B ↔ e = x ∨ e ∈ A ++ B := by
  simp only [List.mem_append, List.mem_cons]
  tauto

theorem lookup_of_mem {l : List (String × Nat)} (unique : (l.map Prod.fst).Nodup) {x : String} {n : Nat}
    (mem : (x, n) ∈ l) : l.lookup x = some n := by
  induction l with
  | nil => simp at mem
  | cons e l ih =>
    obtain ⟨y, k⟩ := e
    obtain ⟨fresh, unique⟩ := List.nodup_cons.1 unique
    rcases List.mem_cons.1 mem with same | later
    · cases same
      simp
    · have other : x ≠ y := fun same => fresh (List.mem_map.2 ⟨(x, n), later, same⟩)
      simp [List.lookup_cons, beq_false_of_ne other, ih unique later]

namespace LogDir

variable {fs : FileSystem} {D : Location} {name : String} {node : Nat} {copies : List (Bytes × Nat)}
  {cur : Bytes}

theorem number_of_child (h : LogDir fs D name node copies cur) {x : String} {n : Nat}
    (mem : (x, n) ∈ fs.children D) : fs.number? (D ++ [x]) = some n := by
  rw [FileSystem.number?, ← FileSystem.children_lookup, ← FileSystem.children_eq]
  exact lookup_of_mem h.unique mem

theorem copy_of_numbered (h : LogDir fs D name node copies cur) {x : String}
    (mem : x ∈ numberedNames fs name (fs.children D)) : ∃ e ∈ copies, copyName name e.2 = x := by
  obtain ⟨e, mem, same⟩ := List.mem_map.1 (h.numbered.subset mem)
  exact ⟨e, mem, same⟩

theorem found (h : LogDir fs D name node copies cur) :
    (((fs.children D).filterMap fun e => (fs.inode? e.2).map fun i => (e.1, i)).filterMap
      fun e => if e.2.isFile then rotationNumber name e.1 else none).Perm (copies.map Prod.snd) := by
  -- on the listing, the rotation reads exactly the numbers of the regular files' names
  have read : ((fs.children D).filterMap fun e => (fs.inode? e.2).map fun i => (e.1, i)).filterMap
      (fun e => if e.2.isFile then rotationNumber name e.1 else none) =
      (numberedNames fs name (fs.children D)).filterMap (rotationNumber name) := by
    rw [List.filterMap_filterMap, numberedNames, List.filterMap_map, List.filterMap_filter]
    apply List.filterMap_congr
    rintro ⟨x, n⟩ -
    cases fs.inode? n <;> cases number : rotationNumber name x <;> simp [number]
  have named : (copies.map fun e => copyName name e.2).filterMap (rotationNumber name) = copies.map Prod.snd := by
    rw [List.filterMap_map, ← List.filterMap_eq_map]
    apply List.filterMap_congr
    intro e mem
    simp [rotationNumber_copyName name (h.small e mem)]
  rw [read, ← named]
  exact h.numbered.filterMap _

theorem distinct (h : LogDir fs D name node copies cur) : (copies.map Prod.snd).Nodup := by
  have names : ((copies.map Prod.snd).map (copyName name)).Nodup := by
    rw [List.map_map]
    apply h.numbered.nodup_iff.1
    exact h.unique.sublist (List.filter_sublist.map _)
  exact List.Pairwise.of_map (copyName name) (fun _ _ differ same => differ (congrArg _ same)) names

theorem apart {A B : List (Bytes × Nat)} {b : Bytes} {k : Nat}
    (h : LogDir fs D name node (A ++ (b, k) :: B) cur) : ∀ e ∈ A ++ B, e.2 ≠ k := by
  have nodup := h.distinct
  simp only [List.map_append, List.map_cons, List.nodup_append, List.nodup_cons, List.mem_map] at nodup
  intro e mem same
  rcases List.mem_append.1 mem with left | right
  · exact nodup.2.2 e.2 ⟨e, left, rfl⟩ k (by simp) same
  · exact nodup.2.1.1 ⟨e, right, same⟩

theorem unnamed (h : LogDir fs D name node copies cur) {j : Nat} (pos : 0 < j) (small : j ≤ Nat.pow 2 64 - 1)
    (free : ∀ e ∈ copies, e.2 ≠ j) : fs.number? (D ++ [copyName name j]) = none := by
  cases named : fs.number? (D ++ [copyName name j]) with
  | none => rfl
  | some n =>
    -- whatever bears the name is a regular file, and so read as the copy of that number
    have file := h.namedFiles j n pos named
    rw [FileSystem.number?, ← FileSystem.children_lookup, ← FileSystem.children_eq] at named
    obtain ⟨l₁, l₂, split, -⟩ := List.lookup_eq_some_iff.1 named
    have listed : copyName name j ∈ numberedNames fs name (fs.children D) := by
      simp only [numberedNames, List.mem_map, List.mem_filter, Bool.and_eq_true]
      exact ⟨(copyName name j, n), ⟨by rw [split]; simp, file, by simp [rotationNumber_copyName name small]⟩, rfl⟩
    obtain ⟨e, mem, same⟩ := h.copy_of_numbered listed
    exact absurd (copyName_injective name same) (free e mem)

theorem unlisted (h : LogDir fs D name node copies cur) {x : String} (none : fs.number? (D ++ [x]) = none) :
    x ∉ (fs.children D).map Prod.fst := fun mem => by
  obtain ⟨⟨y, n⟩, child, rfl⟩ := List.mem_map.1 mem
  simp [h.number_of_child child] at none

theorem replaced (h : LogDir fs D name node copies cur) {fs' : FileSystem} {n : Nat} {c c' : Bytes}
    {m m' : Nat} (r : fs.Replaced fs' n ⟨.file c', m'⟩) (was : fs.inode? n = some ⟨.file c, m⟩)
    (kept : n ≠ node → c' = c) : LogDir fs' D name node copies (if n = node then c' else cur) := by
  obtain ⟨names, fresh, nodes⟩ := r
  have number : fs'.number? = fs.number? := by
    funext y
    simp [FileSystem.number?, names]
  have listing : fs'.children D = fs.children D := by simp [FileSystem.children_eq, names]
  -- the inode keeps being a file, with the same bytes unless it is the open one
  have file : ∀ k c₀ m₀, fs.inode? k = some ⟨.file c₀, m₀⟩ →
      ∃ m₁, fs'.inode? k = some ⟨.file (if k = node then (if n = node then c' else c₀) else c₀), m₁⟩ := by
    intro k c₀ m₀ found
    rw [nodes k]
    by_cases kn : k = n
    · subst kn
      rw [was] at found
      cases found
      by_cases active : k = node <;> simp [active, kept]
    · by_cases active : k = node
      · subst active
        simp [kn, found, Ne.symm kn]
      · simp [kn, found, active]
  have kinds : ∀ k, (fs'.inode? k).any Inode.isFile = (fs.inode? k).any Inode.isFile := by
    intro k
    rw [nodes k]
    by_cases kn : k = n
    · simp [kn, was, Inode.isFile]
    · simp [kn]
  constructor
  · refine h.dirs.frame (fun y _ => by rw [number]) fun k i found dir => ?_
    have kn : k ≠ n := by
      rintro rfl
      rw [was] at found
      cases found
      simp [Inode.isDir] at dir
    simp [nodes k, kn, found]
  · rw [number]
    exact h.activeNamed
  · obtain ⟨m₀, found⟩ := h.activeFile
    obtain ⟨m₁, found'⟩ := file node cur m₀ found
    exact ⟨m₁, by simpa using found'⟩
  · intro e mem
    obtain ⟨k, m₀, named, other, found⟩ := h.copyFiles e mem
    obtain ⟨m₁, found'⟩ := file k e.1 m₀ found
    exact ⟨k, m₁, by rw [number]; exact named, other, by simpa [other] using found'⟩
  · exact h.small
  · rw [listing]
    exact h.unique
  · rw [listing, numberedNames_congr name fun e _ => kinds e.2]
    exact h.numbered
  · intro k j pos named
    rw [kinds]
    exact h.namedFiles k j pos (by rwa [number] at named)
  · rw [listing, fresh]
    exact h.listed
  · intro k late
    rw [nodes k]
    have kn : k ≠ n := by
      rintro rfl
      simp [h.unused k (fresh ▸ late)] at was
    simp [kn, h.unused k (fresh ▸ late)]

theorem truncate (h : LogDir fs D name node copies cur) : LogDir (fs.truncate node) D name node copies [] := by
  obtain ⟨m, active⟩ := h.activeFile
  simpa using h.replaced (FileSystem.truncate_file active) active (fun differ => absurd rfl differ)

theorem write {p : Program} (h : LogDir p.fs D name node copies cur) (noLimit : p.fileLimit = none)
    (bs : Bytes) : ∃ fs', p.write node bs = .ok (bs.length, { p with fs := fs' }) ∧
      LogDir fs' D name node copies (cur ++ bs) := by
  obtain ⟨m, active⟩ := h.activeFile
  obtain ⟨fs', written, r⟩ := Program.write_file active noLimit bs
  exact ⟨fs', written, by simpa using h.replaced r active (fun differ => absurd rfl differ)⟩

theorem sizeOf_active (h : LogDir fs D name node copies cur) : fs.sizeOf node = cur.length := by
  obtain ⟨m, active⟩ := h.activeFile
  simp [FileSystem.sizeOf, active, Inode.size]

theorem others_named_apart {A B : List (Bytes × Nat)} {b : Bytes} {k : Nat}
    (h : LogDir fs D name node (A ++ (b, k) :: B) cur) : ∀ e ∈ A ++ B, copyName name e.2 ≠ copyName name k :=
  fun e mem same => h.apart e mem (copyName_injective name same)

end LogDir

theorem lexical_plain {L : List String} (plain : ∀ c ∈ L, Plain c) : (⟨true, L, false⟩ : Path).lexical = L := by
  have kept : L.filter (· != ".") = L := List.filter_eq_self.2 fun c mem => by simpa using (plain c mem).1
  cases L with
  | nil => rfl
  | cons c rest =>
    have dot := (plain c List.mem_cons_self).1
    simpa [Path.lexical, dot] using kept

theorem plain_concat {D : Location} {name : String} (plainD : ∀ d ∈ D, Plain d) (plainName : Plain name) :
    ∀ c ∈ D ++ [name], Plain c := by
  intro c mem
  rcases List.mem_append.1 mem with inside | last
  · exact plainD c inside
  · rw [List.mem_singleton.1 last]
    exact plainName

theorem parent_plain {D : Location} {name : String} (plainD : ∀ d ∈ D, Plain d) (plainName : Plain name) :
    (⟨true, D ++ [name], false⟩ : Path).parent? = some ⟨true, D, false⟩ := by
  rw [Path.parent?, lexical_plain (plain_concat plainD plainName)]
  simp

theorem fileName_plain {D : Location} {name : String} (plainD : ∀ d ∈ D, Plain d) (plainName : Plain name) :
    (⟨true, D ++ [name], false⟩ : Path).fileName? = some name := by
  rw [Path.fileName?, lexical_plain (plain_concat plainD plainName), List.getLast?_concat]
  obtain ⟨dot, dots⟩ := plainName
  split <;> simp_all

section Steps

open LogDir

variable {p : Program} {D : Location} {name : String} {node : Nat} {cur : Bytes}
  (plainD : ∀ d ∈ D, Plain d)

include plainD

theorem LogDir.remove {A B : List (Bytes × Nat)} {b : Bytes} {k : Nat}
    (h : LogDir p.fs D name node (A ++ (b, k) :: B) cur) :
    ∃ fs', p.removeFile ⟨true, D ++ [copyName name k], false⟩ = .ok { p with fs := fs' } ∧
      LogDir fs' D name node (A ++ B) cur := by
  have this : (b, k) ∈ A ++ (b, k) :: B := by simp
  obtain ⟨n, m, named, -, file⟩ := h.copyFiles (b, k) this
  refine ⟨_, Program.removeFile_plain h.dirs plainD (plain_copyName name k) named file rfl, ?_⟩
  have others := h.others_named_apart
  have listing : FileSystem.children { p.fs with names := p.fs.names.filter (·.1 != D ++ [copyName name k]) } D =
      (p.fs.children D).filter (·.1 != copyName name k) :=
    FileSystem.children_filter p.fs.names D _
  constructor
  · refine h.dirs.frame (fun y short => ?_) fun _ _ found _ => found
    have far : y ≠ D ++ [copyName name k] := by
      rintro rfl
      simp at short
    simp [FileSystem.number?, FileSystem.lookup_filter_ne, far]
  · simpa [FileSystem.number?, FileSystem.lookup_filter_ne, Ne.symm (copyName_ne name k)] using h.activeNamed
  · exact h.activeFile
  · intro e mem
    obtain ⟨n, m, named, other, file⟩ := h.copyFiles e (mem_split.2 (.inr mem))
    refine ⟨n, m, ?_, other, file⟩
    simpa [FileSystem.number?, FileSystem.lookup_filter_ne, others e mem] using named
  · exact fun e mem => h.small e (mem_split.2 (.inr mem))
  · rw [listing]
    exact h.unique.sublist (List.filter_sublist.map _)
  · rw [listing]
    show (numberedNames p.fs name _).Perm _
    rw [numberedNames_filter]
    have keep : ((A ++ B).map fun e => copyName name e.2).filter (· != copyName name k) =
        (A ++ B).map fun e => copyName name e.2 := by
      apply List.filter_eq_self.2
      intro x mem
      obtain ⟨e, inner, rfl⟩ := List.mem_map.1 mem
      simpa using others e inner
    have drop : ((A ++ (b, k) :: B).map fun e => copyName name e.2).filter (· != copyName name k) =
        (A ++ B).map fun e => copyName name e.2 := by
      rw [← keep]
      simp
    rw [← drop]
    exact h.numbered.filter _
  · -- a name left was there before, with the same inode
    intro j n pos named
    simp only [FileSystem.number?, FileSystem.lookup_filter_ne] at named
    split at named
    · cases named
    · exact h.namedFiles j n pos named
  · rw [listing]
    exact fun e mem => h.listed e (List.mem_of_mem_filter mem)
  · exact h.unused

theorem LogDir.rename {A B : List (Bytes × Nat)} {b : Bytes} {k : Nat}
    (h : LogDir p.fs D name node (A ++ (b, k) :: B) cur) (free : ∀ e ∈ A ++ B, e.2 ≠ k + 1)
    (small : k + 1 ≤ Nat.pow 2 64 - 1) :
    ∃ fs', p.rename ⟨true, D ++ [copyName name k], false⟩ ⟨true, D ++ [copyName name (k + 1)], false⟩ =
      .ok { p with fs := fs' } ∧ LogDir fs' D name node (A ++ (b, k + 1) :: B) cur := by
  have this : (b, k) ∈ A ++ (b, k) :: B := by simp
  obtain ⟨n, m, named, other, file⟩ := h.copyFiles (b, k) this
  have smallK : k ≤ Nat.pow 2 64 - 1 := h.small (b, k) this
  have target : p.fs.number? (D ++ [copyName name (k + 1)]) = none := by
    apply h.unnamed (by omega) small
    intro e mem same
    rcases mem_split.1 mem with rfl | kept
    · simp at same
    · exact free e kept same
  have differ : copyName name k ≠ copyName name (k + 1) := fun same => by
    simpa using copyName_injective name same
  refine ⟨_, Program.rename_plain h.dirs plainD (plain_copyName name k) (plain_copyName name (k + 1)) differ
    named file rfl target, ?_⟩
  have moves : ∀ y : Location, y.length ≤ D.length + 1 →
      (p.fs.move (D ++ [copyName name k]) (D ++ [copyName name (k + 1)])).number? y =
        if y = D ++ [copyName name (k + 1)] then some n
        else if y = D ++ [copyName name k] then none else p.fs.number? y := by
    intro y level
    show (p.fs.names.map (FileSystem.moveEntry _ _)).lookup y = _
    rw [FileSystem.lookup_move p.fs.names target (by simpa using differ) (by simp) (by simpa using level)]
    simp only [FileSystem.number?] at named ⊢
    rw [named]
  have listing : (p.fs.move (D ++ [copyName name k]) (D ++ [copyName name (k + 1)])).children D =
      (p.fs.children D).map (FileSystem.renameChild (copyName name k) (copyName name (k + 1))) :=
    FileSystem.children_move p.fs.names D _ _
  have others := h.others_named_apart
  have notNext : ∀ e ∈ A ++ B, copyName name e.2 ≠ copyName name (k + 1) := fun e mem same =>
    free e mem (copyName_injective name same)
  have absent := h.unlisted target
  constructor
  · refine h.dirs.frame (fun y short => ?_) fun _ _ found _ => found
    have far : ∀ c, y ≠ D ++ [c] := by
      rintro c rfl
      simp at short
    rw [moves y (by omega), if_neg (far _), if_neg (far _)]
  · rw [moves _ (by simp), if_neg (by simpa using Ne.symm (copyName_ne name (k + 1))),
      if_neg (by simpa using Ne.symm (copyName_ne name k))]
    exact h.activeNamed
  · exact h.activeFile
  · intro e mem
    rcases mem_split.1 mem with rfl | kept
    · exact ⟨n, m, by rw [moves _ (by simp)]; simp, other, file⟩
    · -- the other copies keep their names and inodes
      obtain ⟨n', m', named', other', file'⟩ := h.copyFiles e (mem_split.2 (.inr kept))
      refine ⟨n', m', ?_, other', file'⟩
      rw [moves _ (by simp), if_neg (by simpa using notNext e kept), if_neg (by simpa using others e kept)]
      exact named'
  · intro e mem
    rcases mem_split.1 mem with rfl | kept
    · exact small
    · exact h.small e (mem_split.2 (.inr kept))
  · rw [listing, names_renameChild]
    apply List.Nodup.map_on _ h.unique
    intro x xmem y ymem same
    by_cases xa : x = copyName name k <;> by_cases ya : y = copyName name k
    · rw [xa, ya]
    · simp only [xa, ya, if_true, if_false] at same
      exact absurd (same ▸ ymem) absent
    · simp only [xa, ya, if_true, if_false] at same
      exact absurd (same ▸ xmem) absent
    · simpa [xa, ya] using same
  · rw [listing, numberedNames_rename (by simp [rotationNumber_copyName name smallK])
      (by simp [rotationNumber_copyName name small])]
    have keep : ∀ C ⊆ A ++ B, C.map (fun e => if copyName name e.2 = copyName name k then copyName name (k + 1)
        else copyName name e.2) = C.map fun e => copyName name e.2 :=
      fun C sub => List.map_congr_left fun e mem => if_neg (others e (sub mem))
    have renamed : ((A ++ (b, k) :: B).map fun e => copyName name e.2).map
        (fun x => if x = copyName name k then copyName name (k + 1) else x) =
        (A ++ (b, k + 1) :: B).map fun e => copyName name e.2 := by
      simp only [List.map_append, List.map_cons, List.map_map, Function.comp_def, if_true]
      rw [keep A (fun _ mem => by simp [mem]), keep B (fun _ mem => by simp [mem])]
    rw [← renamed]
    exact h.numbered.map _
  · -- the moved copy is a regular file, and every other name keeps its entry
    intro j n' pos named'
    rw [moves _ (by simp)] at named'
    split at named'
    · cases named'
      show (p.fs.inode? n).any Inode.isFile = true
      simp [file, Inode.isFile]
    · split at named'
      · cases named'
      · exact h.namedFiles j n' pos named'
  · rw [listing]
    intro e mem
    obtain ⟨e', mem', rfl⟩ := List.mem_map.1 mem
    unfold FileSystem.renameChild
    split <;> exact h.listed e' mem'
  · exact h.unused

theorem LogDir.copy {copies : List (Bytes × Nat)} (h : LogDir p.fs D name node copies cur)
    (plainName : Plain name) (free : ∀ e ∈ copies, e.2 ≠ 1) :
    ∃ fs', p.copy ⟨true, D ++ [name], false⟩ ⟨true, D ++ [copyName name 1], false⟩ = .ok { p with fs := fs' } ∧
      LogDir fs' D name node ((cur, 1) :: copies) cur := by
  have one : 1 ≤ Nat.pow 2 64 - 1 := by decide
  have target := h.unnamed Nat.one_pos one free
  obtain ⟨m, active⟩ := h.activeFile
  have unused := h.unused p.fs.fresh (Nat.le_refl _)
  obtain ⟨fs', copied, names, fresh, nodes⟩ :=
    Program.copy_plain h.dirs plainD plainName (plain_copyName name 1) h.activeNamed active target unused
  refine ⟨fs', copied, ?_⟩
  have number : ∀ y, fs'.number? y = if y = D ++ [copyName name 1] then some p.fs.fresh else p.fs.number? y := by
    intro y
    by_cases new : y = D ++ [copyName name 1]
    · subst new
      have before : p.fs.names.lookup (D ++ [copyName name 1]) = none := target
      simp [FileSystem.number?, names, List.lookup_append, before]
    · simp [FileSystem.number?, names, List.lookup_append, new, List.lookup_cons, beq_false_of_ne new]
  have listing : fs'.children D = p.fs.children D ++ [(copyName name 1, p.fs.fresh)] := by
    rw [FileSystem.children_eq, names, FileSystem.children_append, ← FileSystem.children_eq]
  -- the new inode is the only one that changes, and no name had it
  have old : ∀ k i, p.fs.inode? k = some i → fs'.inode? k = some i := by
    intro k i found
    have kf : k ≠ p.fs.fresh := by
      rintro rfl
      simp [unused] at found
    rw [nodes k, if_neg kf, found]
  have apart : ∀ e ∈ copies, copyName name e.2 ≠ copyName name 1 :=
    fun e mem same => free e mem (copyName_injective name same)
  constructor
  · refine h.dirs.frame (fun y short => ?_) fun k i found _ => old k i found
    have far : y ≠ D ++ [copyName name 1] := by
      rintro rfl
      simp at short
    rw [number y, if_neg far]
  · rw [number, if_neg (by simpa using Ne.symm (copyName_ne name 1))]
    exact h.activeNamed
  · exact ⟨m, old node _ active⟩
  · intro e mem
    rcases List.mem_cons.1 mem with rfl | mem
    · refine ⟨p.fs.fresh, m, by simp [number], fun same => ?_, by simp [nodes]⟩
      rw [← same] at active
      simp [unused] at active
    · obtain ⟨k, m₀, named, other, found⟩ := h.copyFiles e mem
      refine ⟨k, m₀, ?_, other, old k _ found⟩
      rw [number, if_neg (by simpa using apart e mem)]
      exact named
  · intro e mem
    rcases List.mem_cons.1 mem with rfl | mem
    · exact one
    · exact h.small e mem
  · rw [listing, List.map_append, List.nodup_append]
    refine ⟨h.unique, by simp, ?_⟩
    intro x mem y same
    simp only [List.map_cons, List.map_nil, List.mem_singleton] at same
    subst same
    exact fun eq => h.unlisted target (eq ▸ mem)
  · have read : numberedNames fs' name (p.fs.children D ++ [(copyName name 1, p.fs.fresh)]) =
        numberedNames p.fs name (p.fs.children D) ++ [copyName name 1] := by
      -- the listed entries keep their kinds, as none of them has the new inode
      have kinds : ∀ e ∈ p.fs.children D,
          (fs'.inode? e.2).any Inode.isFile = (p.fs.inode? e.2).any Inode.isFile := by
        intro e mem
        rw [nodes e.2, if_neg (Nat.ne_of_lt (h.listed e mem))]
      have head := numberedNames_congr name kinds
      unfold numberedNames at head ⊢
      rw [List.filter_append, List.map_append, head]
      simp [nodes, Inode.isFile, rotationNumber_copyName name one]
    rw [listing, read, List.map_cons]
    exact (h.numbered.append_right _).trans (List.perm_append_singleton _ _)
  · intro j n pos named
    rw [number] at named
    split at named
    · cases named
      simp [nodes, Inode.isFile]
    · -- an old name keeps its inode, which is not the new one
      have file := h.namedFiles j n pos named
      have old' : n ≠ p.fs.fresh := by
        rintro rfl
        simp [unused] at file
      rw [nodes n, if_neg old']
      exact file
  · rw [listing, fresh]
    intro e mem
    rcases List.mem_append.1 mem with before | new
    · exact Nat.lt_succ_of_lt (h.listed e before)
    · rw [List.mem_singleton.1 new]
      exact Nat.lt_succ_self _
  · intro k late
    have kf : k ≠ p.fs.fresh := by
      rw [fresh] at late
      omega
    rw [nodes k, if_neg kf]
    exact h.unused k (by rw [fresh] at late; omega)

theorem LogDir.setMode {copies : List (Bytes × Nat)} (h : LogDir p.fs D name node copies cur)
    {e : Bytes × Nat} (mem : e ∈ copies) (mode : Nat) :
    ∃ fs', p.setMode ⟨true, D ++ [copyName name e.2], false⟩ mode = .ok { p with fs := fs' } ∧
      LogDir fs' D name node copies cur := by
  obtain ⟨n, m, named, other, found⟩ := h.copyFiles e mem
  refine ⟨_, Program.setMode_plain h.dirs plainD (plain_copyName name e.2) named found mode, ?_⟩
  simpa [other] using h.replaced (FileSystem.replaced_setInode found) found (fun _ => rfl)

theorem place_dir (dirs : p.fs.DirsAt D) : p.place ⟨true, D, false⟩ = .ok D := by
  obtain rfl | ⟨D', d, rfl⟩ := D.eq_nil_or_concat'
  · rfl
  · have upper : p.fs.DirsAt D' := fun k short => by
      simpa [List.take_append_of_le_length short] using dirs k (by simp; omega)
    have whole := dirs (D' ++ [d]).length (Nat.le_refl _)
    rw [List.take_length] at whole
    obtain ⟨i, there, -⟩ := FileSystem.isDirAt_iff.1 whole
    exact Program.place_plain upper (fun c mem => plainD c (by simp [mem])) (plainD d (by simp)) there

theorem readDir_dir (dirs : p.fs.DirsAt D) :
    p.readDir ⟨true, D, false⟩ =
      .ok ((p.fs.children D).filterMap fun e => (p.fs.inode? e.2).map fun i => (e.1, i)) := by
  have whole := dirs D.length (Nat.le_refl _)
  rw [List.take_length] at whole
  obtain ⟨i, there, dir⟩ := FileSystem.isDirAt_iff.1 whole
  simp only [FileSystem.at?, Option.bind_eq_some_iff] at there
  obtain ⟨n, named, node⟩ := there
  have found := FileSystem.find_of (FileSystem.reach_dir dirs) named node
  simp [Program.readDir, Program.onPath, place_dir plainD dirs, FileSystem.readDir, found, dir, bind,
    Except.bind, pure, Except.pure]

end Steps

end UpperEcho

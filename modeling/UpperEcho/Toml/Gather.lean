import UpperEcho.Toml.Tree

/-! How the sections of a TOML document gather into tables, one walk per table, and when two sections
met in one walk clash (duplicate tables, array items). -/
namespace UpperEcho.Toml

structure Walk where
  depth : Nat
  next : Nat
  leader : Nat
  stop : Nat
  deriving DecidableEq, Repr

def pathAt (secs : List Section) (i : Nat) : List String :=
  ((secs[i]?).map Section.path).getD []

def isItemAt (secs : List Section) (i : Nat) : Bool :=
  ((secs[i]?).map Section.isArray).getD false

def firstOpen (secs : List Section) (gathered : List Bool) (pre : List String)
    (start stop : Nat) : Option Nat :=
  (List.range' start (stop - start)).find? fun i =>
    pre.isPrefixOf (pathAt secs i) && !gathered.getD i false

def nextItem (secs : List Section) (item stop : Nat) : Nat :=
  ((List.range' (item + 1) (stop - (item + 1))).find? fun i =>
    pathAt secs i == pathAt secs item && isItemAt secs i).getD stop

mutual

def walkTable : Nat → List Section → Walk → List Bool → Option (List Bool)
  | 0, _, _, _ => none
  | fuel + 1, secs, w, gathered =>
    if w.leader == w.stop || w.next == w.stop then some gathered
    else
      let lead := pathAt secs w.leader
      match firstOpen secs gathered (lead.take w.depth) w.next w.stop with
      | none => some gathered
      | some pos =>
        let path := pathAt secs pos
        if w.leader != pos && lead == path then none
        else
          let leader := if w.leader != pos && path.length < lead.length then pos else w.leader
          if w.depth == path.length then
            if isItemAt secs pos then none
            else walkTable fuel secs { w with next := pos, leader := leader } (gathered.set pos true)
          else
            let inner :=
              if isItemAt secs pos && w.depth + 1 == path.length then
                walkItems fuel secs w.depth pos w.stop gathered
              else walkTable fuel secs ⟨w.depth + 1, 0, pos, w.stop⟩ gathered
            inner >>= walkTable fuel secs { w with next := pos + 1, leader := leader }

def walkItems : Nat → List Section → Nat → Nat → Nat → List Bool → Option (List Bool)
  | 0, _, _, _, _, _ => none
  | fuel + 1, secs, depth, item, stop, gathered =>
    if item == stop then some gathered
    else if gathered.getD item false then none
    else
      let next := nextItem secs item stop
      walkTable fuel secs ⟨depth + 1, 0, item, next⟩ (gathered.set item true) >>=
        walkItems fuel secs depth next stop

end

def deepest (secs : List Section) : Nat :=
  secs.foldl (fun m s => max m s.path.length) 0

def walkBudget (secs : List Section) : Nat :=
  secs.length * (2 * deepest secs + 5) + 1

def gathers (secs : List Section) : Bool :=
  (walkTable (walkBudget secs) secs ⟨0, 0, 0, secs.length⟩
    (List.replicate secs.length false)).isSome

theorem gathers_nil : gathers [] = true := rfl

end UpperEcho.Toml

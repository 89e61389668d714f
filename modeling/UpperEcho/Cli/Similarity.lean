import UpperEcho.Binary64

/-! Jaro-Winkler similarity of two words, computed in binary64 operation by operation: close
candidates (`usend` and `send` against `sund`) are told apart only by rounding. A candidate is
suggested above 0.8, and the best suggestion comes last. -/
namespace UpperEcho.Cli

abbrev Score := Binary64

structure JaroScan where
  taken : List Bool
  hits : Nat := 0
  swaps : Nat := 0
  last : Nat := 0
  deriving DecidableEq, Repr

def freeMatch (b : List Char) (taken : List Bool) (c : Char) (lo hi : Nat) : Option Nat :=
  (List.range (hi + 1)).find? fun j => lo ≤ j && b[j]? == some c && taken[j]? == some false

def JaroScan.step (b : List Char) (reach : Nat) (s : JaroScan) (c : Char) (i : Nat) : JaroScan :=
  match freeMatch b s.taken c (i - reach) (min (b.length - 1) (i + reach)) with
  | none => s
  | some j =>
    { taken := s.taken.set j true, hits := s.hits + 1,
      swaps := if j < s.last then s.swaps + 1 else s.swaps, last := j }

def jaro (a b : String) : Score :=
  let xs := a.toList
  let ys := b.toList
  if xs.isEmpty && ys.isEmpty then .ofNat 1
  else if xs.isEmpty || ys.isEmpty then .ofNat 0
  else if xs.length == 1 && ys.length == 1 then .ofNat (if xs == ys then 1 else 0)
  else
    let reach := max xs.length ys.length / 2 - 1
    let s : JaroScan := xs.zipIdx.foldl (fun (s : JaroScan) ci => s.step ys reach ci.1 ci.2)
      { taken := List.replicate ys.length false }
    let m := Binary64.ofNat s.hits
    if s.hits == 0 then .ofNat 0
    else
      let sum := ((m.div (.ofNat xs.length)).add (m.div (.ofNat ys.length))).add
        ((m.sub (.ofNat s.swaps)).div m)
      ((Binary64.ofNat 1).div (.ofNat 3)).mul sum

def commonStart : List Char → List Char → Nat
  | x :: xs, y :: ys => if x == y then commonStart xs ys + 1 else 0
  | _, _ => 0

def jaroWinkler (a b : String) : Score :=
  let j := jaro a b
  let bonus := ((Binary64.nearest 1 10).mul (.ofNat (commonStart a.toList b.toList))).mul
    ((Binary64.ofNat 1).sub j)
  let w := j.add bonus
  if w.le (.ofNat 1) then w else .ofNat 1

def likelyScore : Score := .nearest 4 5

def suggestions (word : String) (candidates : List String) : List String :=
  let scored := candidates.filterMap fun c =>
    let s := jaroWinkler word c
    if likelyScore.lt s then some (s, c) else none
  (scored.mergeSort fun x y => x.1.le y.1).map (·.2)

def bestSuggestion (word : String) (candidates : List String) : Option String :=
  (suggestions word candidates).getLast?

theorem suggestions_subset (word : String) (candidates : List String) :
    ∀ c ∈ suggestions word candidates, c ∈ candidates := by
  intro c hc
  simp only [suggestions, List.mem_map] at hc
  obtain ⟨⟨s, c'⟩, hmem, rfl⟩ := hc
  have hp := (List.mergeSort_perm _ _).mem_iff.mp hmem
  simp only [List.mem_filterMap] at hp
  obtain ⟨x, hx, hsx⟩ := hp
  split at hsx
  · simp only [Option.some.injEq, Prod.mk.injEq] at hsx
    obtain ⟨-, rfl⟩ := hsx
    exact hx
  · simp at hsx

end UpperEcho.Cli

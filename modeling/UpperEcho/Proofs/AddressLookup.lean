import Mathlib.Data.List.Basic
import Mathlib.Data.List.Induction
import UpperEcho.Net.Resolve
import UpperEcho.Proofs.NumeralText

/-! Resolving a host checks the service first, and returns the resolver's addresses with repeats
dropped, each at its first occurrence (`firstOccurrences`). -/
namespace UpperEcho.Net

section FirstOccurrences

variable {α : Type} [DecidableEq α]

theorem firstOccurrences_append_singleton (xs : List α) (x : α) :
    firstOccurrences (xs ++ [x]) =
      if x ∈ firstOccurrences xs then firstOccurrences xs else firstOccurrences xs ++ [x] := by
  unfold firstOccurrences
  rw [List.foldl_append]
  rfl

theorem mem_firstOccurrences {xs : List α} {x : α} : x ∈ firstOccurrences xs ↔ x ∈ xs := by
  induction xs using List.reverseRecOn with
  | nil => simp [firstOccurrences]
  | append_singleton xs y ih =>
    rw [firstOccurrences_append_singleton, List.mem_append, List.mem_singleton, ← ih]
    split
    · next seen =>
      constructor
      · exact .inl
      · rintro (kept | rfl)
        · exact kept
        · exact seen
    · exact List.mem_append.trans (by rw [List.mem_singleton])

theorem firstOccurrences_pairwise (xs : List α) :
    (firstOccurrences xs).Pairwise (fun a b => xs.idxOf a < xs.idxOf b) := by
  induction xs using List.reverseRecOn with
  | nil => simp [firstOccurrences]
  | append_singleton xs y ih =>
    -- a new last element leaves the first positions of the kept ones where they were
    have keep : ∀ a ∈ firstOccurrences xs, (xs ++ [y]).idxOf a = xs.idxOf a :=
      fun a kept => List.idxOf_append_of_mem (mem_firstOccurrences.1 kept)
    have before : (firstOccurrences xs).Pairwise
        (fun a b => (xs ++ [y]).idxOf a < (xs ++ [y]).idxOf b) :=
      ih.imp_of_mem fun ka kb lt => by rw [keep _ ka, keep _ kb]; exact lt
    rw [firstOccurrences_append_singleton]
    split
    · exact before
    · next fresh =>
      refine List.pairwise_append.2 ⟨before, List.pairwise_singleton _ _, ?_⟩
      intro a kept b hb
      rw [List.mem_singleton] at hb
      subst hb
      have unseen : b ∉ xs := fun seen => fresh (mem_firstOccurrences.2 seen)
      have inside := List.idxOf_lt_length_of_mem (mem_firstOccurrences.1 kept)
      rw [keep _ kept, List.idxOf_append_of_notMem unseen]
      omega

theorem nodup_firstOccurrences (xs : List α) : (firstOccurrences xs).Nodup :=
  (firstOccurrences_pairwise xs).imp fun lt same => by subst same; exact lt_irrefl _ lt

end FirstOccurrences

theorem resolve_of_bad_service {hosts : HostTable} {host : String} {service : Option String}
    (bad : parsePort (service.getD "80") = none) :
    resolve hosts host service =
      .error (.service (.endpoint (service.getD "80") "service must be a port number")) := by
  simp [resolve, bad]

theorem resolve_of_port {hosts : HostTable} {host : String} {service : Option String} {p : UInt16}
    (port : parsePort (service.getD "80") = some p) :
    resolve hosts host service = (lookupHost hosts host).map firstOccurrences := by
  simp [resolve, port]

theorem resolveKeepsFirstOccurrences (hosts : HostTable) (host : String)
    (service : Option String) :
    (∀ p, parsePort (service.getD "80") = some p ↔ PortText (service.getD "80") p) ∧
    (parsePort (service.getD "80") = none → ∀ hosts' host',
      resolve hosts' host' service =
        .error (.service (.endpoint (service.getD "80") "service must be a port number"))) ∧
    (∀ p, parsePort (service.getD "80") = some p →
      resolve hosts host service = (lookupHost hosts host).map firstOccurrences) ∧
    (∀ ips : List IpAddr, (firstOccurrences ips).Nodup ∧
      (∀ ip, ip ∈ firstOccurrences ips ↔ ip ∈ ips) ∧
      (firstOccurrences ips).Pairwise (fun a b => ips.idxOf a < ips.idxOf b)) :=
  ⟨fun p => parsePort_eq_some_iff _ p, fun bad _ _ => resolve_of_bad_service bad,
    fun _ port => resolve_of_port port,
    fun ips => ⟨nodup_firstOccurrences ips, fun _ => mem_firstOccurrences,
      firstOccurrences_pairwise ips⟩⟩

end UpperEcho.Net

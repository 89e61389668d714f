import UpperEcho.IoFault
import UpperEcho.Bytes

/-! A datagram socket's queue of waiting messages as a script: each message with its peeked size and
its interruptions, or a failure. Every call lowers the queue's weight. -/
namespace UpperEcho

inductive InboxItem where
  | message (data : Bytes) (peer : String) (size : Nat) (peekStalls recvStalls : Nat)
  | peekFault (e : IoFault)
  | recvFault (size : Nat) (e : IoFault)
  deriving DecidableEq, Repr

inductive SendAnswer where
  | whole
  | upTo (limit : Nat)
  | fail (e : IoFault)
  deriving DecidableEq, Repr

def SendAnswer.sent (a : SendAnswer) (len : Nat) : Except IoFault Nat :=
  match a with
  | .whole => .ok len
  | .upTo limit => .ok (min limit len)
  | .fail e => .error e

def exhaustedSocket : IoFault := .os 9

abbrev Inbox := List InboxItem

def InboxItem.weight : InboxItem → Nat
  | .message _ _ _ p r => p + r + 1
  | _ => 1

def Inbox.weight : Inbox → Nat
  | [] => 0
  | i :: rest => i.weight + Inbox.weight rest

def Inbox.nextSize : Inbox → Except IoFault Nat × Inbox
  | [] => (.error exhaustedSocket, [])
  | .message d p size 0 r :: rest => (.ok size, .message d p size 0 r :: rest)
  | .message d p size (k + 1) r :: rest => (.error IoFault.interrupted, .message d p size k r :: rest)
  | .peekFault e :: rest => (.error e, rest)
  | .recvFault n e :: rest => (.ok n, .recvFault n e :: rest)

def Inbox.recvMsg (len : Nat) : Inbox → Except IoFault (Bytes × String) × Inbox
  | [] => (.error exhaustedSocket, [])
  | .message d p _ _ 0 :: rest => (.ok (d.take len, p), rest)
  | .message d p size s (k + 1) :: rest => (.error IoFault.interrupted, .message d p size s k :: rest)
  | .peekFault e :: rest => (.error e, rest)
  | .recvFault _ e :: rest => (.error e, rest)

namespace Inbox

theorem nextSize_ok (ib ib' : Inbox) (n : Nat) (h : nextSize ib = (.ok n, ib')) : ib' = ib := by
  unfold nextSize at h
  split at h <;> simp only [Prod.mk.injEq, reduceCtorEq, false_and] at h <;> exact h.2.symm

theorem weight_nextSize_le (ib : Inbox) : (nextSize ib).2.weight ≤ ib.weight := by
  unfold nextSize
  split <;> simp [weight, InboxItem.weight]

theorem nextSize_fail_weight (ib ib' : Inbox) (e : IoFault) (h : nextSize ib = (.error e, ib'))
    (hi : e.isInterrupted = true) : ib'.weight < ib.weight := by
  unfold nextSize at h
  split at h
  · simp only [Prod.mk.injEq, Except.error.injEq] at h
    obtain ⟨rfl, -⟩ := h
    simp [exhaustedSocket, IoFault.isInterrupted] at hi
  · simp at h
  · simp only [Prod.mk.injEq] at h
    obtain ⟨-, rfl⟩ := h
    simp [weight, InboxItem.weight]
  · simp only [Prod.mk.injEq] at h
    obtain ⟨-, rfl⟩ := h
    simp [weight, InboxItem.weight]
  · simp at h

theorem recvMsg_fail_weight (len : Nat) (ib ib' : Inbox) (e : IoFault)
    (h : recvMsg len ib = (.error e, ib')) (hi : e.isInterrupted = true) :
    ib'.weight < ib.weight := by
  unfold recvMsg at h
  split at h
  · simp only [Prod.mk.injEq, Except.error.injEq] at h
    obtain ⟨rfl, -⟩ := h
    simp [exhaustedSocket, IoFault.isInterrupted] at hi
  · simp at h
  all_goals
    simp only [Prod.mk.injEq] at h
    obtain ⟨-, rfl⟩ := h
    simp [weight, InboxItem.weight]
    try omega

theorem recvMsg_ok_weight (len : Nat) (ib ib' : Inbox) (m : Bytes × String)
    (h : recvMsg len ib = (.ok m, ib')) : ib'.weight < ib.weight := by
  unfold recvMsg at h
  split at h
  · simp at h
  · simp only [Prod.mk.injEq] at h
    obtain ⟨-, rfl⟩ := h
    simp [weight, InboxItem.weight]
  all_goals simp at h

end Inbox

end UpperEcho

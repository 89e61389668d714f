import UpperEcho.Proofs.Stepwise

/-! Clients piping their input through one echo server over reliable byte streams; `EchoNet.Step` lets
any party make its next call. -/
namespace UpperEcho

def Delivers (avail : Bytes) (ended : Bool) (len : Nat) (bs : Bytes) : Prop :=
  bs <+: avail ∧ bs.length ≤ len ∧ (bs ≠ [] ∨ (avail = [] ∧ ended = true))

def Takes (bs : Bytes) (k : Nat) : Prop := 0 < k ∧ k ≤ bs.length

theorem Delivers.ready {avail : Bytes} {ended : Bool} {len : Nat} (pos : 0 < len)
    (ready : avail ≠ [] ∨ ended = true) : ∃ bs, Delivers avail ended len bs := by
  by_cases empty : avail = []
  · refine ⟨[], List.nil_prefix, Nat.zero_le _, Or.inr ⟨empty, ?_⟩⟩
    simpa [empty] using ready
  · refine ⟨avail.take 1, List.take_prefix _ _, by simp; omega, Or.inl ?_⟩
    simpa using empty

theorem Delivers.head (x : UInt8) (rest : Bytes) (ended : Bool) {len : Nat} (pos : 0 < len) :
    Delivers (x :: rest) ended len [x] :=
  ⟨by simp, pos, .inl (by simp)⟩

theorem Delivers.drained (len : Nat) : Delivers [] true len [] :=
  ⟨List.nil_prefix, Nat.zero_le _, .inr ⟨rfl, rfl⟩⟩

theorem Takes.first {bs : Bytes} (nonempty : bs ≠ []) : Takes bs 1 :=
  ⟨Nat.one_pos, List.length_pos_iff.mpr nonempty⟩

inductive Service where
  | waiting
  | serving (st : EchoStage)
  | closed (r : Except ServiceError Nat)

def Service.isClosed : Service → Bool
  | .closed _ => true
  | _ => false

structure Session where
  input : Bytes
  bufSize : Nat
  unread : Bytes := input
  output : Bytes := []
  pipe : Option PipeStage := none
  hungUp : Bool := false
  up : Bytes := []
  down : Bytes := []
  service : Service := .waiting

/-- The clients, the connections waiting at the listener in arrival order, the client being
served, the failure the server stopped with, and the server's buffer size. -/
structure EchoNet (ι : Type) where
  session : ι → Session
  backlog : List ι := []
  current : Option ι := none
  halted : Option ServiceError := none
  bufSize : Nat

namespace EchoNet

variable {ι : Type} [DecidableEq ι]

def start (inputs : ι → Bytes) (bufSizes : ι → Nat) (bufSize : Nat) : EchoNet ι :=
  { session := fun c => { input := inputs c, bufSize := bufSizes c }, bufSize }

def set (n : EchoNet ι) (c : ι) (s : Session) : EchoNet ι :=
  { n with session := Function.update n.session c s }

def stopsWith : Except ServiceError Nat → Option ServiceError
  | .ok _ => none
  | .error e => some e

inductive Step : EchoNet ι → EchoNet ι → Prop
  | connect {n c} (idle : (n.session c).pipe = none) :
      Step n { n.set c { n.session c with pipe := some (.readInput 0) } with
        backlog := n.backlog ++ [c] }
  | readInput {n c st len bs} (piping : (n.session c).pipe = some st)
      (calls : st.request (max (n.session c).bufSize 1) = some (.input, .read len))
      (gets : Delivers (n.session c).unread true len bs) :
      Step n (n.set c { n.session c with
        pipe := some (st.advance (.data bs))
        unread := (n.session c).unread.drop bs.length })
  | readEcho {n c st len bs} (piping : (n.session c).pipe = some st)
      (calls : st.request (max (n.session c).bufSize 1) = some (.conn, .read len))
      (gets : Delivers (n.session c).down (n.session c).service.isClosed len bs) :
      Step n (n.set c { n.session c with
        pipe := some (st.advance (.data bs))
        down := (n.session c).down.drop bs.length })
  | send {n c st bs k} (piping : (n.session c).pipe = some st)
      (calls : st.request (max (n.session c).bufSize 1) = some (.conn, .write bs))
      (takes : Takes bs k) :
      Step n (n.set c { n.session c with
        pipe := some (st.advance (.took k))
        up := (n.session c).up ++ bs.take k })
  | writeOutput {n c st bs k} (piping : (n.session c).pipe = some st)
      (calls : st.request (max (n.session c).bufSize 1) = some (.output, .write bs))
      (takes : Takes bs k) :
      Step n (n.set c { n.session c with
        pipe := some (st.advance (.took k))
        output := (n.session c).output ++ bs.take k })
  | flush {n c st} (piping : (n.session c).pipe = some st)
      (calls : st.request (max (n.session c).bufSize 1) = some (.output, .flush)) :
      Step n (n.set c { n.session c with pipe := some (st.advance .flushed) })
  | hangUp {n c r} (returned : (n.session c).pipe = some (.finished r))
      (connected : (n.session c).hungUp = false) :
      Step n (n.set c { n.session c with hungUp := true })
  | accept {n c rest} (idle : n.current = none) (running : n.halted = none)
      (next : n.backlog = c :: rest) :
      Step n { n.set c { n.session c with service := .serving (.reading 0) } with
        backlog := rest
        current := some c }
  | readChunk {n c st len bs} (serving : n.current = some c)
      (echoing : (n.session c).service = .serving st)
      (calls : st.request (max n.bufSize 1) = some ((), .read len))
      (gets : Delivers (n.session c).up (n.session c).hungUp len bs) :
      Step n (n.set c { n.session c with
        service := .serving (st.advance (.data bs))
        up := (n.session c).up.drop bs.length })
  | writeBack {n c st bs k} (serving : n.current = some c)
      (echoing : (n.session c).service = .serving st)
      (calls : st.request (max n.bufSize 1) = some ((), .write bs)) (takes : Takes bs k) :
      Step n (n.set c { n.session c with
        service := .serving (st.advance (.took k))
        down := (n.session c).down ++ bs.take k })
  | release {n c r} (serving : n.current = some c)
      (returned : (n.session c).service = .serving (.finished r)) :
      Step n { n.set c { n.session c with service := .closed r } with
        current := none
        halted := stopsWith r }

@[simp] theorem sessionSetSelf (n : EchoNet ι) (c : ι) (s : Session) : (n.set c s).session c = s := by
  simp [set]

theorem sessionSetOther (n : EchoNet ι) {c d : ι} (s : Session) (other : d ≠ c) :
    (n.set c s).session d = n.session d := by
  simp [set, other]

@[simp] theorem backlogSet (n : EchoNet ι) (c : ι) (s : Session) : (n.set c s).backlog = n.backlog := rfl

@[simp] theorem currentSet (n : EchoNet ι) (c : ι) (s : Session) : (n.set c s).current = n.current := rfl

@[simp] theorem haltedSet (n : EchoNet ι) (c : ι) (s : Session) : (n.set c s).halted = n.halted := rfl

@[simp] theorem bufSizeSet (n : EchoNet ι) (c : ι) (s : Session) : (n.set c s).bufSize = n.bufSize := rfl

end EchoNet

end UpperEcho

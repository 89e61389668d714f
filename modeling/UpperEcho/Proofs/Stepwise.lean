import UpperEcho.Client.Pipe
import Mathlib.Logic.Relation
import Mathlib.Logic.Function.Basic

/-! The transfer loops one call at a time (`Loop`, `Loop.Scripted`): `pipeLoop` and `echoLoop` make the
calls `pipe` and `serveConnection` make, in the same order. -/
namespace UpperEcho

inductive Request where
  | read (len : Nat)
  | write (bs : Bytes)
  | flush
  deriving DecidableEq, Repr

inductive Answer where
  | data (bs : Bytes)
  | took (n : Nat)
  | fault (e : IoFault)
  | flushed
  deriving DecidableEq, Repr

namespace Answer

def onRead {σ : Type} (a : Answer) (next : Except SysError Bytes → σ) (retry : σ) : σ :=
  match a with
  | .data bs => next (.ok bs)
  | .fault e => if e.isInterrupted then retry else next (.error (.io e))
  | _ => retry

def onWrite {σ : Type} (a : Answer) (left : Bytes) (more : Bytes → σ) (fail : SysError → σ)
    (retry : σ) : σ :=
  match a with
  | .took 0 => fail (.syscall .brokenPipe)
  | .took (n + 1) => more (left.drop (n + 1))
  | .fault e => if e.isInterrupted then retry else fail (.io e)
  | _ => retry

end Answer

def Request.entry (name : String) : Request → Answer → Call
  | .read len, .data bs => ⟨name, .read, len, .count bs.length⟩
  | .read len, .fault e => ⟨name, .read, len, .fail e⟩
  | .write bs, .took n => ⟨name, .write, bs.length, .count n⟩
  | .write bs, .fault e => ⟨name, .write, bs.length, .fail e⟩
  | _, .fault e => ⟨name, .flush, 0, .fail e⟩
  | _, _ => ⟨name, .flush, 0, .count 0⟩

def Answer.ofRead : Except IoFault Bytes → Answer
  | .ok bs => .data bs
  | .error e => .fault e

def Answer.ofWrite : Except IoFault Nat → Answer
  | .ok n => .took n
  | .error e => .fault e

def Answer.ofFlush : Except IoFault Unit → Answer
  | .ok () => .flushed
  | .error e => .fault e

def Channel.perform (c : Channel) : Request → Answer × Channel
  | .read len => (.ofRead (c.read len).1, (c.read len).2)
  | .write bs => (.ofWrite (c.write bs).1, (c.write bs).2)
  | .flush => (.ofFlush c.flush.1, c.flush.2)

structure Streams (ε : Type) where
  chan : ε → Channel
  record : Record

/-- A loop seen one call at a time: the name of each stream end, the end and call a stage makes
(none once the loop returned), and the stage an answer leads to. -/
structure Loop (σ ε : Type) where
  name : ε → String
  request : σ → Option (ε × Request)
  advance : σ → Answer → σ

namespace Loop

variable {σ ε : Type} [DecidableEq ε] (m : Loop σ ε)

def perform (w : Streams ε) (e : ε) (req : Request) : Answer × Streams ε :=
  let r := (w.chan e).perform req
  (r.1, ⟨Function.update w.chan e r.2, w.record ++ [req.entry (m.name e) r.1]⟩)

inductive Scripted : σ × Streams ε → σ × Streams ε → Prop
  | call {s w e req} (next : m.request s = some (e, req)) :
      Scripted (s, w) (m.advance s (m.perform w e req).1, (m.perform w e req).2)

variable {m}

theorem Scripted.answer {s : σ} {w w' : Streams ε} {e : ε} {req : Request} {a : Answer}
    (next : m.request s = some (e, req)) (answered : m.perform w e req = (a, w')) :
    m.Scripted (s, w) (m.advance s a, w') := by
  have step := Scripted.call (m := m) (w := w) next
  rwa [answered] at step

theorem performRead {w : Streams ε} {e : ε} {len : Nat} {c c' : Channel} {x : Except IoFault Bytes}
    (here : w.chan e = c) (read : c.read len = (x, c')) :
    m.perform w e (.read len) =
      (.ofRead x, ⟨Function.update w.chan e c', w.record ++ [(Request.read len).entry (m.name e) (.ofRead x)]⟩) := by
  simp [perform, Channel.perform, here, read]

theorem performWrite {w : Streams ε} {e : ε} {bs : Bytes} {c c' : Channel} {x : Except IoFault Nat}
    (here : w.chan e = c) (write : c.write bs = (x, c')) :
    m.perform w e (.write bs) =
      (.ofWrite x, ⟨Function.update w.chan e c', w.record ++ [(Request.write bs).entry (m.name e) (.ofWrite x)]⟩) := by
  simp [perform, Channel.perform, here, write]

theorem runsReadChunk {s : σ} {e : ε} {len : Nat} (next : Except SysError Bytes → σ)
    (calls : m.request s = some (e, .read len)) (answers : ∀ a, m.advance s a = a.onRead next s)
    (c : Channel) (r : Record) :
    ∀ w : Streams ε, w.chan e = c → w.record = r →
      Relation.ReflTransGen m.Scripted (s, w) (next (readChunk (m.name e) len c r).1,
        ⟨Function.update w.chan e (readChunk (m.name e) len c r).2.1,
          (readChunk (m.name e) len c r).2.2⟩) := by
  fun_induction readChunk (m.name e) len c r with
  | case1 c r bs c' read =>
    intro w here recorded
    have step := Scripted.answer calls (performRead here read)
    rw [answers] at step
    subst recorded
    exact .single step
  | case2 c r f c' read r' interrupted ih =>
    intro w here recorded
    have step := Scripted.answer calls (performRead here read)
    rw [answers] at step
    simp only [Answer.ofRead, Answer.onRead, interrupted, if_true] at step
    have rest := ih ⟨Function.update w.chan e c', w.record ++ [(Request.read len).entry (m.name e) (.fault f)]⟩
      (by simp) (by subst recorded; rfl)
    simpa using Relation.ReflTransGen.head step rest
  | case3 c r f c' read r' interrupted =>
    intro w here recorded
    have step := Scripted.answer calls (performRead here read)
    rw [answers] at step
    simp only [Answer.ofRead, Answer.onRead, interrupted] at step
    subst recorded
    exact .single step

theorem runsLoopWrite {e : ε} (writing : Bytes → σ) (finish : Except SysError Unit → σ)
    (calls : ∀ left, left ≠ [] → m.request (writing left) = some (e, .write left))
    (answers : ∀ left a, left ≠ [] → m.advance (writing left) a =
      a.onWrite left (fun rest => if rest.isEmpty then finish (.ok ()) else writing rest)
        (fun x => finish (.error x)) (writing left))
    (bs : Bytes) (c : Channel) (r : Record) :
    ∀ w : Streams ε, w.chan e = c → w.record = r →
      Relation.ReflTransGen m.Scripted (if bs.isEmpty then finish (.ok ()) else writing bs, w)
        (finish (loopWrite (m.name e) bs c r).1,
          ⟨Function.update w.chan e (loopWrite (m.name e) bs c r).2.1,
            (loopWrite (m.name e) bs c r).2.2⟩) := by
  fun_induction loopWrite (m.name e) bs c r with
  | case1 bs c r empty =>
    intro w here recorded
    subst here recorded
    simp only [empty, if_true, Function.update_eq_self]
    exact .refl
  | case2 bs c r nonempty c' write =>
    intro w here recorded
    have ne : bs ≠ [] := by simpa using nonempty
    have step := Scripted.answer (calls bs ne) (performWrite here write)
    rw [answers bs _ ne] at step
    simp only [nonempty]
    subst recorded
    exact .single step
  | case3 bs c r nonempty n c' write ih =>
    intro w here recorded
    have ne : bs ≠ [] := by simpa using nonempty
    have step := Scripted.answer (calls bs ne) (performWrite here write)
    rw [answers bs _ ne] at step
    have rest := ih ⟨Function.update w.chan e c', w.record ++ [(Request.write bs).entry (m.name e) (.took (n + 1))]⟩
      (by simp) (by subst recorded; rfl)
    simp only [nonempty]
    simpa using Relation.ReflTransGen.head step rest
  | case4 bs c r nonempty f c' write r' interrupted ih =>
    intro w here recorded
    have ne : bs ≠ [] := by simpa using nonempty
    have step := Scripted.answer (calls bs ne) (performWrite here write)
    rw [answers bs _ ne] at step
    simp only [Answer.ofWrite, Answer.onWrite, interrupted, if_true] at step
    have rest := ih ⟨Function.update w.chan e c', w.record ++ [(Request.write bs).entry (m.name e) (.fault f)]⟩
      (by simp) (by subst recorded; rfl)
    simp only [nonempty] at rest ⊢
    simpa using Relation.ReflTransGen.head step rest
  | case5 bs c r nonempty f c' write r' interrupted =>
    intro w here recorded
    have ne : bs ≠ [] := by simpa using nonempty
    have step := Scripted.answer (calls bs ne) (performWrite here write)
    rw [answers bs _ ne] at step
    simp only [Answer.ofWrite, Answer.onWrite, interrupted] at step
    simp only [nonempty]
    subst recorded
    exact .single step

end Loop

inductive PipeEnd where
  | input | conn | output
  deriving DecidableEq, Repr

def PipeEnd.name : PipeEnd → String
  | .input => "in" | .conn => "conn" | .output => "out"

def Pipe.streams (p : Pipe) : Streams PipeEnd :=
  ⟨fun | .input => p.input | .conn => p.conn | .output => p.output, p.record⟩

inductive PipeStage where
  | readInput (total : Nat)
  | sendChunk (total n : Nat) (left : Bytes)
  | awaitEcho (total n left : Nat) (got : Bytes)
  | writeOutput (total : Nat) (reply left : Bytes)
  | flushOutput (total : Nat)
  | finished (r : Except ServiceError Nat)
  deriving Repr

namespace PipeStage

def failed (e : SysError) : PipeStage := .finished (.error (.ofSys e))

def writing (total : Nat) (reply left : Bytes) : PipeStage :=
  if left.isEmpty then .flushOutput (total + reply.length) else .writeOutput total reply left

def echoed (total n : Nat) (got : Bytes) : PipeStage :=
  if got.length ≠ n then .finished (.error (.eof got.length n)) else writing total got got

def receiving (total n left : Nat) (got : Bytes) : PipeStage :=
  if left = 0 then echoed total n got else .awaitEcho total n left got

def sending (total n : Nat) (left : Bytes) : PipeStage :=
  if left.isEmpty then receiving total n n [] else .sendChunk total n left

def request (bufLen : Nat) : PipeStage → Option (PipeEnd × Request)
  | .readInput _ => some (.input, .read bufLen)
  | .sendChunk _ _ left => some (.conn, .write left)
  | .awaitEcho _ _ left _ => some (.conn, .read left)
  | .writeOutput _ _ left => some (.output, .write left)
  | .flushOutput _ => some (.output, .flush)
  | .finished _ => none

def afterInput (total : Nat) : Except SysError Bytes → PipeStage
  | .ok bs => if bs.isEmpty then .finished (.ok total) else sending total bs.length bs
  | .error e => failed e

def afterSend (total n : Nat) : Except SysError Unit → PipeStage
  | .ok () => receiving total n n []
  | .error e => failed e

def afterRead (total n left : Nat) (got : Bytes) : Except SysError Bytes → PipeStage
  | .ok bs => if bs.isEmpty then echoed total n got else receiving total n (left - bs.length) (got ++ bs)
  | .error e => failed e

def afterEcho (total n : Nat) : Except SysError Bytes → PipeStage
  | .ok got => echoed total n got
  | .error e => failed e

def afterOutput (total : Nat) (reply : Bytes) : Except SysError Unit → PipeStage
  | .ok () => .flushOutput (total + reply.length)
  | .error e => failed e

def advance : PipeStage → Answer → PipeStage
  | .readInput total, a => a.onRead (afterInput total) (.readInput total)
  | .sendChunk total n left, a => a.onWrite left (sending total n) failed (.sendChunk total n left)
  | .awaitEcho total n left got, a => a.onRead (afterRead total n left got) (.awaitEcho total n left got)
  | .writeOutput total reply left, a =>
      a.onWrite left (writing total reply) failed (.writeOutput total reply left)
  | .flushOutput _, .fault e => failed (.io e)
  | .flushOutput total, _ => .readInput total
  | .finished r, _ => .finished r

end PipeStage

def pipeLoop (bufLen : Nat) : Loop PipeStage PipeEnd :=
  ⟨PipeEnd.name, PipeStage.request bufLen, PipeStage.advance⟩

theorem pipeLoopConn (bufLen : Nat) : (pipeLoop bufLen).name .conn = "conn" := rfl

namespace Pipe

theorem streamsInput (p : Pipe) (c : Channel) (r : Record) :
    (⟨Function.update p.streams.chan .input c, r⟩ : Streams PipeEnd) =
      { p with input := c, record := r }.streams := by
  simp only [streams, Streams.mk.injEq, and_true]
  funext e
  cases e <;> rfl

theorem streamsConn (p : Pipe) (c : Channel) (r : Record) :
    (⟨Function.update p.streams.chan .conn c, r⟩ : Streams PipeEnd) =
      { p with conn := c, record := r }.streams := by
  simp only [streams, Streams.mk.injEq, and_true]
  funext e
  cases e <;> rfl

theorem streamsOutput (p : Pipe) (c : Channel) (r : Record) :
    (⟨Function.update p.streams.chan .output c, r⟩ : Streams PipeEnd) =
      { p with output := c, record := r }.streams := by
  simp only [streams, Streams.mk.injEq, and_true]
  funext e
  cases e <;> rfl

end Pipe

section PipeRuns

variable (bufLen total : Nat)

theorem inputRuns (p : Pipe) :
    Relation.ReflTransGen (pipeLoop bufLen).Scripted (.readInput total, p.streams)
      (PipeStage.afterInput total (readChunk "in" bufLen p.input p.record).1,
        { p with
          input := (readChunk "in" bufLen p.input p.record).2.1
          record := (readChunk "in" bufLen p.input p.record).2.2 }.streams) := by
  have run := Loop.runsReadChunk (m := pipeLoop bufLen) (s := .readInput total) (e := .input)
    (PipeStage.afterInput total) rfl (fun _ => rfl) _ _ p.streams rfl rfl
  rwa [Pipe.streamsInput] at run

theorem sendingRuns (n : Nat) (bs : Bytes) (p : Pipe) :
    Relation.ReflTransGen (pipeLoop bufLen).Scripted (PipeStage.sending total n bs, p.streams)
      (PipeStage.afterSend total n (loopWrite "conn" bs p.conn p.record).1,
        { p with
          conn := (loopWrite "conn" bs p.conn p.record).2.1
          record := (loopWrite "conn" bs p.conn p.record).2.2 }.streams) := by
  have run := Loop.runsLoopWrite (m := pipeLoop bufLen) (e := .conn) (.sendChunk total n)
    (PipeStage.afterSend total n) (fun _ _ => rfl) (fun _ _ _ => rfl) bs _ _ p.streams rfl rfl
  rwa [Pipe.streamsConn] at run

theorem writingRuns (reply bs : Bytes) (p : Pipe) :
    Relation.ReflTransGen (pipeLoop bufLen).Scripted (PipeStage.writing total reply bs, p.streams)
      (PipeStage.afterOutput total reply (loopWrite "out" bs p.output p.record).1,
        { p with
          output := (loopWrite "out" bs p.output p.record).2.1
          record := (loopWrite "out" bs p.output p.record).2.2 }.streams) := by
  have run := Loop.runsLoopWrite (m := pipeLoop bufLen) (e := .output)
    (.writeOutput total reply) (PipeStage.afterOutput total reply)
    (fun _ _ => rfl) (fun _ _ _ => rfl) bs _ _ p.streams rfl rfl
  rwa [Pipe.streamsOutput] at run

theorem receivingRuns (n : Nat) (left : Nat) (got : Bytes) (c : Channel) (r : Record) :
    ∀ p : Pipe, p.conn = c → p.record = r →
      Relation.ReflTransGen (pipeLoop bufLen).Scripted (PipeStage.receiving total n left got, p.streams)
        (PipeStage.afterEcho total n (fillFrom "conn" left got c r).1,
          { p with
            conn := (fillFrom "conn" left got c r).2.1
            record := (fillFrom "conn" left got c r).2.2 }.streams) := by
  fun_induction fillFrom "conn" left got c r with
  | case1 got c r =>
    intro p here recorded
    subst here recorded
    exact .refl
  | case2 left got c r nonzero bs c' r' read empty =>
    intro p here recorded
    have run := Loop.runsReadChunk (m := pipeLoop bufLen) (s := .awaitEcho total n left got)
      (e := .conn) (PipeStage.afterRead total n left got) rfl (fun _ => rfl) c r p.streams
      here recorded
    rw [pipeLoopConn, read, Pipe.streamsConn] at run
    simpa [PipeStage.receiving, nonzero, PipeStage.afterRead, PipeStage.afterEcho, empty] using run
  | case3 left got c r nonzero bs c' r' read nonempty ih =>
    intro p here recorded
    have run := Loop.runsReadChunk (m := pipeLoop bufLen) (s := .awaitEcho total n left got)
      (e := .conn) (PipeStage.afterRead total n left got) rfl (fun _ => rfl) c r p.streams
      here recorded
    rw [pipeLoopConn, read, Pipe.streamsConn] at run
    have rest := ih { p with conn := c', record := r' } rfl rfl
    simp only [PipeStage.afterRead, nonempty] at run
    simpa [PipeStage.receiving, nonzero] using run.trans rest
  | case4 left got c r nonzero f c' r' read =>
    intro p here recorded
    have run := Loop.runsReadChunk (m := pipeLoop bufLen) (s := .awaitEcho total n left got)
      (e := .conn) (PipeStage.afterRead total n left got) rfl (fun _ => rfl) c r p.streams
      here recorded
    rw [pipeLoopConn, read, Pipe.streamsConn] at run
    simpa [PipeStage.receiving, nonzero, PipeStage.afterRead, PipeStage.afterEcho] using run

theorem exchangedRuns (p : Pipe) {bs : Bytes} {inp : Channel} {rIn : Record}
    (read : readChunk "in" bufLen p.input p.record = (.ok bs, inp, rIn)) (nonempty : ¬bs.isEmpty = true)
    {c : Channel} {rSent : Record} (send : loopWrite "conn" bs p.conn rIn = (.ok (), c, rSent)) :
    Relation.ReflTransGen (pipeLoop bufLen).Scripted (.readInput total, p.streams)
      (PipeStage.afterEcho total bs.length (loopRead "conn" bs.length c rSent).1,
        { p with
          input := inp
          conn := (loopRead "conn" bs.length c rSent).2.1
          record := (loopRead "conn" bs.length c rSent).2.2 }.streams) := by
  have input := inputRuns bufLen total p
  rw [read] at input
  simp only [PipeStage.afterInput, nonempty] at input
  have sent := sendingRuns bufLen total bs.length bs { p with input := inp, record := rIn }
  rw [send] at sent
  have back := receivingRuns bufLen total bs.length bs.length [] c rSent
    { p with input := inp, conn := c, record := rSent } rfl rfl
  exact (input.trans sent).trans back

theorem flushRuns (p : Pipe) :
    Relation.ReflTransGen (pipeLoop bufLen).Scripted (.flushOutput total, p.streams)
      (PipeStage.advance (.flushOutput total) (.ofFlush p.output.flush.1),
        { p with
          output := p.output.flush.2
          record := p.record ++ [Request.flush.entry "out" (.ofFlush p.output.flush.1)] }.streams) := by
  have performed : (pipeLoop bufLen).perform p.streams .output .flush =
      (.ofFlush p.output.flush.1,
        { p with
          output := p.output.flush.2
          record := p.record ++ [Request.flush.entry "out" (.ofFlush p.output.flush.1)] }.streams) := by
    show (Answer.ofFlush p.output.flush.1, (⟨Function.update p.streams.chan .output p.output.flush.2,
      p.record ++ [Request.flush.entry "out" (.ofFlush p.output.flush.1)]⟩ : Streams PipeEnd)) = _
    rw [Pipe.streamsOutput]
  exact .single (Loop.Scripted.answer rfl performed)

theorem echoedRuns (p : Pipe) {bs got : Bytes} {inp c c' : Channel} {rIn rSent rBack : Record}
    (read : readChunk "in" bufLen p.input p.record = (.ok bs, inp, rIn)) (nonempty : ¬bs.isEmpty = true)
    (send : loopWrite "conn" bs p.conn rIn = (.ok (), c, rSent))
    (echo : loopRead "conn" bs.length c rSent = (.ok got, c', rBack)) (length : got.length = bs.length) :
    Relation.ReflTransGen (pipeLoop bufLen).Scripted (.readInput total, p.streams)
      (PipeStage.writing total got got, { p with input := inp, conn := c', record := rBack }.streams) := by
  have back := exchangedRuns bufLen total p read nonempty send
  rw [echo] at back
  simpa only [PipeStage.afterEcho, PipeStage.echoed, length, ne_eq, not_true_eq_false, if_false] using back

theorem outputRuns (p : Pipe) {bs got : Bytes} {inp c c' o : Channel} {rIn rSent rBack rOut : Record}
    (read : readChunk "in" bufLen p.input p.record = (.ok bs, inp, rIn)) (nonempty : ¬bs.isEmpty = true)
    (send : loopWrite "conn" bs p.conn rIn = (.ok (), c, rSent))
    (echo : loopRead "conn" bs.length c rSent = (.ok got, c', rBack)) (length : got.length = bs.length)
    (out : loopWrite "out" got p.output rBack = (.ok (), o, rOut)) :
    Relation.ReflTransGen (pipeLoop bufLen).Scripted (.readInput total, p.streams)
      (.flushOutput (total + bs.length),
        { p with input := inp, conn := c', output := o, record := rOut }.streams) := by
  have written := writingRuns bufLen total got got { p with input := inp, conn := c', record := rBack }
  rw [out] at written
  simp only [PipeStage.afterOutput, length] at written
  exact (echoedRuns bufLen total p read nonempty send echo length).trans written

theorem pipeFromRuns (p : Pipe) :
    Relation.ReflTransGen (pipeLoop bufLen).Scripted (.readInput total, p.streams)
      (.finished (p.pipeFrom bufLen total).1, (p.pipeFrom bufLen total).2.streams) := by
  fun_induction p.pipeFrom bufLen total with
  | case1 p total e inp rIn read =>
    have input := inputRuns bufLen total p
    rw [read] at input
    simpa [PipeStage.afterInput, PipeStage.failed] using input
  | case2 p total bs inp rIn read empty =>
    have input := inputRuns bufLen total p
    rw [read] at input
    simpa [PipeStage.afterInput, empty] using input
  | case3 p total bs inp rIn read nonempty e c rSent send =>
    have input := inputRuns bufLen total p
    rw [read] at input
    simp only [PipeStage.afterInput, nonempty] at input
    have sent := sendingRuns bufLen total bs.length bs { p with input := inp, record := rIn }
    rw [send] at sent
    simpa [PipeStage.afterSend, PipeStage.failed] using input.trans sent
  | case4 p total bs inp rIn read nonempty n c rSent send e c' rBack echo =>
    have back := exchangedRuns bufLen total p read nonempty send
    rw [show bs.length = n from rfl, echo] at back
    simpa [PipeStage.afterEcho, PipeStage.failed] using back
  | case5 p total bs inp rIn read nonempty n c rSent send got c' rBack echo short =>
    have back := exchangedRuns bufLen total p read nonempty send
    rw [show bs.length = n from rfl, echo] at back
    have short : got.length ≠ n := short
    simpa [PipeStage.afterEcho, PipeStage.echoed, short] using back
  | case6 p total bs inp rIn read nonempty n c rSent send got c' rBack echo whole e o rOut out =>
    have length : got.length = n := by simpa using whole
    have written := writingRuns bufLen total got got { p with input := inp, conn := c', record := rBack }
    rw [out] at written
    simpa [PipeStage.afterOutput, PipeStage.failed] using
      (echoedRuns bufLen total p read nonempty send echo length).trans written
  | case7 p total bs inp rIn read nonempty n c rSent send got c' rBack echo whole o rOut out e o' flushOut =>
    have length : got.length = n := by simpa using whole
    have flushed := flushRuns bufLen (total + bs.length)
      { p with input := inp, conn := c', output := o, record := rOut }
    simp only [flushOut, Answer.ofFlush, PipeStage.advance, Request.entry] at flushed
    simpa [PipeStage.failed, ServiceError.ofSys] using
      (outputRuns bufLen total p read nonempty send echo length out).trans flushed
  | case8 p total bs inp rIn read nonempty n c rSent send got c' rBack echo whole o rOut out o' flushOut ih =>
    have length : got.length = n := by simpa using whole
    have flushed := flushRuns bufLen (total + bs.length)
      { p with input := inp, conn := c', output := o, record := rOut }
    simp only [flushOut, Answer.ofFlush, PipeStage.advance, Request.entry] at flushed
    exact ((outputRuns bufLen total p read nonempty send echo length out).trans flushed).trans ih

end PipeRuns

theorem pipeRuns (p : Pipe) (bufSize : Nat) :
    Relation.ReflTransGen (pipeLoop (max bufSize 1)).Scripted (.readInput 0, p.streams)
      (.finished (pipe p bufSize).1, (pipe p bufSize).2.streams) :=
  pipeFromRuns (max bufSize 1) 0 p

inductive EchoStage where
  | reading (total : Nat)
  | echoing (total n : Nat) (left : Bytes)
  | finished (r : Except ServiceError Nat)
  deriving Repr

namespace EchoStage

def failed (e : SysError) : EchoStage := .finished (.error (.ofSys e))

def echoingFrom (total n : Nat) (left : Bytes) : EchoStage :=
  if left.isEmpty then .reading (total + n) else .echoing total n left

def afterRead (total : Nat) : Except SysError Bytes → EchoStage
  | .ok bs => if bs.isEmpty then .finished (.ok total) else echoingFrom total bs.length (toUpper bs)
  | .error e => failed e

def afterWrite (total n : Nat) : Except SysError Unit → EchoStage
  | .ok () => .reading (total + n)
  | .error e => failed e

def request (bufLen : Nat) : EchoStage → Option (Unit × Request)
  | .reading _ => some ((), .read bufLen)
  | .echoing _ _ left => some ((), .write left)
  | .finished _ => none

def advance : EchoStage → Answer → EchoStage
  | .reading total, a => a.onRead (afterRead total) (.reading total)
  | .echoing total n left, a => a.onWrite left (echoingFrom total n) failed (.echoing total n left)
  | .finished r, _ => .finished r

end EchoStage

def echoLoop (bufLen : Nat) : Loop EchoStage Unit :=
  ⟨fun _ => "conn", EchoStage.request bufLen, EchoStage.advance⟩

theorem echoLoopConn (bufLen : Nat) : (echoLoop bufLen).name () = "conn" := rfl

def Streams.single (c : Channel) (r : Record) : Streams Unit := ⟨fun _ => c, r⟩

theorem Streams.updateSingle (c c' : Channel) (r r' : Record) :
    (⟨Function.update (Streams.single c r).chan () c', r'⟩ : Streams Unit) = Streams.single c' r' := by
  simp only [single, Streams.mk.injEq, and_true]
  funext u
  simp

theorem echoReadRuns (bufSize total : Nat) (c : Channel) (r : Record) :
    Relation.ReflTransGen (echoLoop (max bufSize 1)).Scripted (.reading total, .single c r)
      (EchoStage.afterRead total (readChunk "conn" (max bufSize 1) c r).1,
        .single (readChunk "conn" (max bufSize 1) c r).2.1 (readChunk "conn" (max bufSize 1) c r).2.2) := by
  have run := Loop.runsReadChunk (m := echoLoop (max bufSize 1)) (s := .reading total) (e := ())
    (EchoStage.afterRead total) rfl (fun _ => rfl) c r (.single c r) rfl rfl
  rwa [echoLoopConn, Streams.updateSingle] at run

theorem echoWriteRuns (bufSize total n : Nat) (bs : Bytes) (c : Channel) (r : Record) :
    Relation.ReflTransGen (echoLoop (max bufSize 1)).Scripted (EchoStage.echoingFrom total n bs, .single c r)
      (EchoStage.afterWrite total n (loopWrite "conn" bs c r).1,
        .single (loopWrite "conn" bs c r).2.1 (loopWrite "conn" bs c r).2.2) := by
  have back := Loop.runsLoopWrite (m := echoLoop (max bufSize 1)) (e := ())
    (.echoing total n) (EchoStage.afterWrite total n)
    (fun _ _ => rfl) (fun _ _ _ => rfl) bs c r (.single c r) rfl rfl
  rwa [echoLoopConn, Streams.updateSingle] at back

theorem echoFromRuns (bufSize total : Nat) (c : Channel) (r : Record) :
    Relation.ReflTransGen (echoLoop (max bufSize 1)).Scripted (.reading total, .single c r)
      (.finished (echoFrom bufSize total c r).1,
        .single (echoFrom bufSize total c r).2.1 (echoFrom bufSize total c r).2.2) := by
  fun_induction echoFrom bufSize total c r with
  | case1 total c r e c' r' read =>
    have run := echoReadRuns bufSize total c r
    rw [read] at run
    simpa [EchoStage.afterRead, EchoStage.failed] using run
  | case2 total c r bs c' r' read empty =>
    have run := echoReadRuns bufSize total c r
    rw [read] at run
    simpa [EchoStage.afterRead, empty] using run
  | case3 total c r bs c' r' read nonempty e c'' r'' write =>
    have run := echoReadRuns bufSize total c r
    rw [read] at run
    simp only [EchoStage.afterRead, nonempty] at run
    have back := echoWriteRuns bufSize total bs.length (toUpper bs) c' r'
    rw [write] at back
    simpa [EchoStage.afterWrite, EchoStage.failed] using run.trans back
  | case4 total c r bs c' r' read nonempty c'' r'' write ih =>
    have run := echoReadRuns bufSize total c r
    rw [read] at run
    simp only [EchoStage.afterRead, nonempty] at run
    have back := echoWriteRuns bufSize total bs.length (toUpper bs) c' r'
    rw [write] at back
    exact (run.trans back).trans ih

theorem echoRuns (bufSize : Nat) (c : Channel) (r : Record) :
    Relation.ReflTransGen (echoLoop (max bufSize 1)).Scripted (.reading 0, .single c r)
      (.finished (serveConnection bufSize c r).1,
        .single (serveConnection bufSize c r).2.1 (serveConnection bufSize c r).2.2) :=
  echoFromRuns bufSize 0 c r

end UpperEcho

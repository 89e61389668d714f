import UpperEcho.Proofs.StreamNetwork

/-! How far the octets of one client got (`Session.Flow`), and why each call keeps them in order. -/
namespace UpperEcho

section Windows
variable {α : Type} (l : List α)

theorem windowJoin {a b c : Nat} (ab : a ≤ b) (bc : b ≤ c) :
    (l.take b).drop a ++ (l.take c).drop b = (l.take c).drop a := by
  have inner : l.take b = (l.take c).take b := by rw [List.take_take, Nat.min_eq_left bc]
  rw [inner]
  by_cases short : a ≤ (l.take c).length
  · rw [← List.drop_append_of_le_length (by simp at short ⊢; omega), List.take_append_drop]
  · simp at short
    simp [List.drop_eq_nil_of_le (show (l.take c).length ≤ a by simp; omega),
      List.drop_eq_nil_of_le (show (l.take c).length ≤ b by simp; omega)]
    omega

theorem windowTake {a b k : Nat} (kb : k ≤ b - a) : ((l.take b).drop a).take k = (l.take (a + k)).drop a := by
  rw [List.drop_take, List.take_take, Nat.min_eq_left kb, List.take_drop]

theorem windowDrop (a b k : Nat) : ((l.take b).drop a).drop k = (l.take b).drop (a + k) := by
  rw [List.drop_drop]

theorem windowLength {a b : Nat} (bl : b ≤ l.length) : ((l.take b).drop a).length = b - a := by
  simp [Nat.min_eq_left bl]

theorem dropPrefix {a : Nat} {bs : List α} (pre : bs <+: l.drop a) :
    bs = (l.take (a + bs.length)).drop a := by
  rw [← List.take_drop, ← List.prefix_iff_eq_take.mp pre]

theorem windowPrefix {a b : Nat} {bs : List α} (pre : bs <+: (l.take b).drop a) :
    bs = (l.take (a + bs.length)).drop a := by
  have len := pre.length_le
  simp only [List.length_drop, List.length_take] at len
  calc bs = ((l.take b).drop a).take bs.length := List.prefix_iff_eq_take.mp pre
    _ = (l.take (a + bs.length)).drop a := windowTake l (by omega)

theorem tailTake {b k : Nat} {left : List α} (tail : left = (l.take b).drop (b - left.length))
    (kl : k ≤ left.length) : left.take k = (l.take (b - left.length + k)).drop (b - left.length) := by
  have bound : left.length ≤ b := by
    have := congrArg List.length tail
    simp at this
    omega
  calc left.take k = ((l.take b).drop (b - left.length)).take k := by rw [← tail]
    _ = _ := windowTake l (by omega)

theorem tailDrop {b : Nat} (k : Nat) {left : List α} (tail : left = (l.take b).drop (b - left.length)) :
    left.drop k = (l.take b).drop (b - (left.drop k).length) := by
  have bound : left.length ≤ b := by
    have := congrArg List.length tail
    simp at this
    omega
  calc left.drop k = ((l.take b).drop (b - left.length)).drop k := by rw [← tail]
    _ = _ := by
      rw [windowDrop, List.length_drop]
      by_cases kl : k ≤ left.length
      · congr 1
        omega
      · have gone := List.length_take_le b l
        rw [List.drop_eq_nil_of_le (by omega), List.drop_eq_nil_of_le (by omega)]

end Windows

namespace PipeStage

def consumed : PipeStage → Nat
  | .readInput t | .flushOutput t => t
  | .sendChunk t n _ | .awaitEcho t n _ _ => t + n
  | .writeOutput t reply _ => t + reply.length
  | .finished (.ok n) => n
  | .finished (.error _) => 0

def sent : PipeStage → Nat
  | .readInput t | .flushOutput t => t
  | .sendChunk t n left => t + n - left.length
  | .awaitEcho t n _ _ => t + n
  | .writeOutput t reply _ => t + reply.length
  | .finished (.ok n) => n
  | .finished (.error _) => 0

def returned : PipeStage → Nat
  | .readInput t | .flushOutput t | .sendChunk t _ _ => t
  | .awaitEcho t n left _ => t + n - left
  | .writeOutput t reply _ => t + reply.length
  | .finished (.ok n) => n
  | .finished (.error _) => 0

def shown : PipeStage → Nat
  | .readInput t | .flushOutput t | .sendChunk t _ _ | .awaitEcho t _ _ _ => t
  | .writeOutput t reply left => t + reply.length - left.length
  | .finished (.ok n) => n
  | .finished (.error _) => 0

def Fits (input : Bytes) : PipeStage → Prop
  | .readInput _ | .flushOutput _ => True
  | .sendChunk t n left =>
      left = (input.take (t + n)).drop (t + n - left.length) ∧ left ≠ [] ∧ left.length ≤ n
  | .awaitEcho t n left got =>
      got = ((toUpper input).take (t + n - left)).drop t ∧ 0 < left ∧ left ≤ n
  | .writeOutput t reply left =>
      reply = ((toUpper input).take (t + reply.length)).drop t ∧
        left = reply.drop (reply.length - left.length) ∧ left ≠ [] ∧ left.length ≤ reply.length
  | .finished r => r = .ok input.length

end PipeStage

namespace EchoStage

def taken : EchoStage → Nat
  | .reading t => t
  | .echoing t n _ => t + n
  | .finished (.ok n) => n
  | .finished (.error _) => 0

def given : EchoStage → Nat
  | .reading t => t
  | .echoing t n left => t + n - left.length
  | .finished (.ok n) => n
  | .finished (.error _) => 0

def Fits (input : Bytes) (hungUp : Bool) : EchoStage → Prop
  | .reading _ => True
  | .echoing t n left =>
      left = ((toUpper input).take (t + n)).drop (t + n - left.length) ∧ left ≠ [] ∧ left.length ≤ n
  | .finished r => hungUp = true ∧ r = .ok input.length

end EchoStage

namespace Service

def taken : Service → Nat
  | .waiting => 0
  | .serving st => st.taken
  | .closed (.ok n) => n
  | .closed (.error _) => 0

def given : Service → Nat
  | .waiting => 0
  | .serving st => st.given
  | .closed (.ok n) => n
  | .closed (.error _) => 0

def Fits (input : Bytes) (hungUp : Bool) : Service → Prop
  | .waiting => True
  | .serving st => st.Fits input hungUp
  | .closed r => hungUp = true ∧ r = .ok input.length

end Service

namespace Session

structure FlowAt (s : Session) (st : PipeStage) : Prop where
  ordered : st.shown ≤ st.returned ∧ st.returned ≤ s.service.given ∧
    s.service.given ≤ s.service.taken ∧ s.service.taken ≤ st.sent ∧ st.sent ≤ st.consumed ∧
    st.consumed ≤ s.input.length
  unread : s.unread = s.input.drop st.consumed
  output : s.output = (toUpper s.input).take st.shown
  up : s.up = (s.input.take st.sent).drop s.service.taken
  down : s.down = ((toUpper s.input).take s.service.given).drop st.returned
  stage : st.Fits s.input
  service : s.service.Fits s.input s.hungUp
  hungUp : s.hungUp = true → ∃ r, st = .finished r

def Flow (s : Session) : Prop :=
  match s.pipe with
  | none => s.unread = s.input ∧ s.output = [] ∧ s.up = [] ∧ s.down = [] ∧ s.service = .waiting ∧
      s.hungUp = false
  | some st => s.FlowAt st

theorem FlowAt.inFlight {s : Session} {t m left u : Nat} {got : Bytes}
    (flow : s.FlowAt (.awaitEcho t m left got)) (reading : s.service = .serving (.reading u)) :
    s.up ≠ [] ∨ s.down ≠ [] := by
  obtain ⟨ordered, -, -, up, down, ⟨-, pos, short⟩, -, -⟩ := flow
  rw [reading] at ordered up down
  simp only [PipeStage.shown, PipeStage.returned, PipeStage.sent, PipeStage.consumed, Service.given,
    Service.taken, EchoStage.given, EchoStage.taken] at ordered up down
  by_contra drained
  simp only [not_or, not_not, up, down, List.drop_eq_nil_iff, List.length_take, length_toUpper]
    at drained
  omega

namespace Flow

variable {s : Session} {st : PipeStage}

theorem ofAt (piping : s.pipe = some st) (flow : s.FlowAt st) : s.Flow := by
  simp only [Flow, piping]
  exact flow

theorem atStage (flow : s.Flow) (piping : s.pipe = some st) : s.FlowAt st := by
  simp only [Flow, piping] at flow
  exact flow

theorem connected (flow : s.Flow) (piping : s.pipe = some st) (running : ∀ r, st ≠ .finished r) :
    s.hungUp = false := by
  cases hung : s.hungUp
  · rfl
  · obtain ⟨r, rfl⟩ := (flow.atStage piping).hungUp hung
    exact absurd rfl (running r)

theorem readInput {len : Nat} {bs : Bytes} (flow : s.Flow) (piping : s.pipe = some st)
    (calls : st.request (max s.bufSize 1) = some (.input, .read len))
    (gets : Delivers s.unread true len bs) :
    Flow { s with pipe := some (st.advance (.data bs)), unread := s.unread.drop bs.length } := by
  obtain ⟨ordered, unread, output, up, down, -, service, -⟩ := flow.atStage piping
  obtain ⟨pre, -, either⟩ := gets
  cases st with
  | readInput t =>
    simp only [PipeStage.shown, PipeStage.returned, PipeStage.sent, PipeStage.consumed] at *
    have long : t + bs.length ≤ s.input.length := by
      have := pre.length_le
      simp only [unread, List.length_drop] at this
      omega
    by_cases empty : bs = []
    · subst empty
      have whole : t = s.input.length := by
        have drained : s.unread = [] := by simpa using either
        simp only [unread, List.drop_eq_nil_iff] at drained
        omega
      show FlowAt _ (.finished (.ok t))
      exact { ordered, unread, output, up, down, service
              stage := by simp [PipeStage.Fits, whole]
              hungUp := fun _ => ⟨_, rfl⟩ }
    · have next : (PipeStage.readInput t).advance (.data bs) = .sendChunk t bs.length bs := by
        simp [PipeStage.advance, Answer.onRead, PipeStage.afterInput, PipeStage.sending, empty]
      rw [next]
      show FlowAt _ (.sendChunk t bs.length bs)
      exact { ordered := by simp only [PipeStage.shown, PipeStage.returned, PipeStage.sent,
                PipeStage.consumed, Nat.add_sub_cancel]; omega
              unread := by simp [unread, List.drop_drop, PipeStage.consumed]
              output := output
              up := by simpa [PipeStage.sent] using up
              down := down
              stage := ⟨by simpa using dropPrefix _ (unread ▸ pre), empty, Nat.le_refl _⟩
              service := service
              hungUp := by simp [flow.connected piping (by simp)] }
  | _ => simp [PipeStage.request] at calls

theorem send {bs : Bytes} {k : Nat} (flow : s.Flow) (piping : s.pipe = some st)
    (calls : st.request (max s.bufSize 1) = some (.conn, .write bs)) (takes : Takes bs k) :
    Flow { s with pipe := some (st.advance (.took k)), up := s.up ++ bs.take k } := by
  have connected := flow.connected piping
  obtain ⟨ordered, unread, output, up, down, stage, service, -⟩ := flow.atStage piping
  cases st with
  | sendChunk t n left =>
    simp only [PipeStage.request, Option.some.injEq, Prod.mk.injEq, Request.write.injEq,
      true_and] at calls
    subst calls
    obtain ⟨window, nonempty, short⟩ := stage
    obtain ⟨pos, most⟩ := takes
    simp only [PipeStage.shown, PipeStage.returned, PipeStage.sent, PipeStage.consumed] at ordered up
    -- what the write hands over is the next window of the input
    have took : left.take k = (s.input.take (t + n - left.length + k)).drop (t + n - left.length) := by
      calc left.take k = ((s.input.take (t + n)).drop (t + n - left.length)).take k := by
            rw [← window]
        _ = _ := windowTake _ (by omega)
    have up' : s.up ++ left.take k = (s.input.take (t + n - left.length + k)).drop s.service.taken := by
      rw [up, took, windowJoin _ (by omega) (by omega)]
    obtain ⟨j, rfl⟩ : ∃ j, k = j + 1 := ⟨k - 1, by omega⟩
    by_cases done : left.length ≤ j + 1
    · have next : (PipeStage.sendChunk t n left).advance (.took (j + 1)) = .awaitEcho t n n [] := by
        simp [PipeStage.advance, Answer.onWrite, PipeStage.sending, PipeStage.receiving,
          List.drop_eq_nil_of_le done]
        omega
      rw [next]
      show FlowAt _ (.awaitEcho t n n [])
      exact { ordered := by simp only [PipeStage.shown, PipeStage.returned, PipeStage.sent,
                PipeStage.consumed, Nat.add_sub_cancel] at ordered ⊢; omega
              unread := unread
              output := output
              up := by
                show s.up ++ left.take (j + 1) = (s.input.take (t + n)).drop s.service.taken
                rw [up', show t + n - left.length + (j + 1) = t + n by omega]
              down := by simpa [PipeStage.returned] using down
              stage := by simp [PipeStage.Fits]; omega
              service := service
              hungUp := by simp [connected] }
    · have next : (PipeStage.sendChunk t n left).advance (.took (j + 1)) =
          .sendChunk t n (left.drop (j + 1)) := by
        simp [PipeStage.advance, Answer.onWrite, PipeStage.sending]
        omega
      rw [next]
      show FlowAt _ (.sendChunk t n (left.drop (j + 1)))
      exact { ordered := by simp only [PipeStage.shown, PipeStage.returned, PipeStage.sent,
                PipeStage.consumed, List.length_drop] at ordered ⊢; omega
              unread := unread
              output := output
              up := by simp only [PipeStage.sent, List.length_drop]; rw [up']; congr 2; omega
              down := down
              stage := by
                refine ⟨?_, by simp; omega, by simp; omega⟩
                calc left.drop (j + 1)
                    = ((s.input.take (t + n)).drop (t + n - left.length)).drop (j + 1) := by
                      rw [← window]
                  _ = _ := by rw [windowDrop]; simp only [List.length_drop]; congr 1; omega
              service := service
              hungUp := by simp [connected] }
  | _ => simp [PipeStage.request] at calls

theorem serverOpen (flow : s.Flow) (piping : s.pipe = some st) (running : ∀ r, st ≠ .finished r) :
    s.service.isClosed = false := by
  have service := (flow.atStage piping).service
  rw [flow.connected piping running] at service
  cases echo : s.service with
  | closed r => simp [echo, Service.Fits] at service
  | _ => rfl

theorem readEcho {len : Nat} {bs : Bytes} (flow : s.Flow) (piping : s.pipe = some st)
    (calls : st.request (max s.bufSize 1) = some (.conn, .read len))
    (gets : Delivers s.down s.service.isClosed len bs) :
    Flow { s with pipe := some (st.advance (.data bs)), down := s.down.drop bs.length } := by
  have connected := flow.connected piping
  have serverOpen := flow.serverOpen piping
  obtain ⟨ordered, unread, output, up, down, stage, service, -⟩ := flow.atStage piping
  cases st with
  | awaitEcho t n left got =>
    simp only [PipeStage.request, Option.some.injEq, Prod.mk.injEq, Request.read.injEq,
      true_and] at calls
    subst calls
    obtain ⟨window, pos, short⟩ := stage
    obtain ⟨pre, most, either⟩ := gets
    -- the server has not closed, so the read brings octets
    have nonempty : bs ≠ [] := by simpa [serverOpen (by simp)] using either
    simp only [PipeStage.shown, PipeStage.returned, PipeStage.sent, PipeStage.consumed] at ordered down
    have next : bs = ((toUpper s.input).take (t + n - left + bs.length)).drop (t + n - left) :=
      windowPrefix _ (down ▸ pre)
    have fits : t + n - left + bs.length ≤ s.service.given := by
      have := pre.length_le
      simp only [down, List.length_drop, List.length_take, length_toUpper] at this
      omega
    have got' : got ++ bs = ((toUpper s.input).take (t + n - left + bs.length)).drop t := by
      calc got ++ bs = ((toUpper s.input).take (t + n - left)).drop t ++
            ((toUpper s.input).take (t + n - left + bs.length)).drop (t + n - left) := by
            rw [← window, ← next]
        _ = _ := windowJoin _ (by omega) (by omega)
    have down' : s.down.drop bs.length =
        ((toUpper s.input).take s.service.given).drop (t + n - left + bs.length) := by
      rw [down, windowDrop]
    have pos' : 0 < bs.length := List.length_pos_iff.mpr nonempty
    by_cases done : left ≤ bs.length
    · have whole : got ++ bs = ((toUpper s.input).take (t + n)).drop t := by
        rw [got', show t + n - left + bs.length = t + n by omega]
      have length : (got ++ bs).length = n := by
        rw [whole, windowLength _ (by simp; omega)]
        omega
      have next : (PipeStage.awaitEcho t n left got).advance (.data bs) =
          .writeOutput t (got ++ bs) (got ++ bs) := by
        have : got ++ bs ≠ [] := by simp [nonempty]
        simp only [List.length_append] at length
        simp [PipeStage.advance, Answer.onRead, PipeStage.afterRead, PipeStage.receiving,
          PipeStage.echoed, PipeStage.writing, nonempty, this, length,
          show left - bs.length = 0 by omega]
      rw [next]
      show FlowAt _ (.writeOutput t (got ++ bs) (got ++ bs))
      exact { ordered := by simp only [PipeStage.shown, PipeStage.returned, PipeStage.sent,
                PipeStage.consumed, length, Nat.add_sub_cancel]; omega
              unread := by simp only [PipeStage.consumed, length]; exact unread
              output := by simp only [PipeStage.shown, Nat.add_sub_cancel]; exact output
              up := by simp only [PipeStage.sent, length]; exact up
              down := by
                show s.down.drop bs.length =
                  ((toUpper s.input).take s.service.given).drop (t + (got ++ bs).length)
                rw [down', length, show t + n - left + bs.length = t + n by omega]
              stage := ⟨by rw [length]; exact whole, by simp, by simp [nonempty], Nat.le_refl _⟩
              service := service
              hungUp := by simp [connected] }
    · have next : (PipeStage.awaitEcho t n left got).advance (.data bs) =
          .awaitEcho t n (left - bs.length) (got ++ bs) := by
        simp [PipeStage.advance, Answer.onRead, PipeStage.afterRead, PipeStage.receiving, nonempty]
        omega
      rw [next]
      show FlowAt _ (.awaitEcho t n (left - bs.length) (got ++ bs))
      exact { ordered := by simp only [PipeStage.shown, PipeStage.returned, PipeStage.sent,
                PipeStage.consumed] at ordered ⊢; omega
              unread := unread
              output := output
              up := up
              down := by rw [down']; simp only [PipeStage.returned]; congr 2; omega
              stage := ⟨by rw [got']; congr 2; omega, by omega, by omega⟩
              service := service
              hungUp := by simp [connected] }
  | _ => simp [PipeStage.request] at calls

theorem writeOutput {bs : Bytes} {k : Nat} (flow : s.Flow) (piping : s.pipe = some st)
    (calls : st.request (max s.bufSize 1) = some (.output, .write bs)) (takes : Takes bs k) :
    Flow { s with pipe := some (st.advance (.took k)), output := s.output ++ bs.take k } := by
  have connected := flow.connected piping
  obtain ⟨ordered, unread, output, up, down, stage, service, -⟩ := flow.atStage piping
  cases st with
  | writeOutput t reply left =>
    simp only [PipeStage.request, Option.some.injEq, Prod.mk.injEq, Request.write.injEq,
      true_and] at calls
    subst calls
    obtain ⟨window, tail, nonempty, short⟩ := stage
    obtain ⟨pos, most⟩ := takes
    simp only [PipeStage.shown, PipeStage.returned, PipeStage.sent, PipeStage.consumed] at ordered output
    -- what the write hands over is the next window of the uppercase input
    have rest : left = ((toUpper s.input).take (t + reply.length)).drop (t + reply.length - left.length) := by
      calc left = (((toUpper s.input).take (t + reply.length)).drop t).drop
            (reply.length - left.length) := by rw [← window, ← tail]
        _ = _ := by rw [windowDrop]; congr 1; omega
    have took : left.take k = ((toUpper s.input).take (t + reply.length - left.length + k)).drop
        (t + reply.length - left.length) := by
      calc left.take k = (((toUpper s.input).take (t + reply.length)).drop
            (t + reply.length - left.length)).take k := by rw [← rest]
        _ = _ := windowTake _ (by omega)
    have output' : s.output ++ left.take k =
        (toUpper s.input).take (t + reply.length - left.length + k) := by
      calc s.output ++ left.take k
          = ((toUpper s.input).take (t + reply.length - left.length)).drop 0 ++
              ((toUpper s.input).take (t + reply.length - left.length + k)).drop
                (t + reply.length - left.length) := by rw [output, took, List.drop_zero]
        _ = ((toUpper s.input).take (t + reply.length - left.length + k)).drop 0 :=
            windowJoin _ (Nat.zero_le _) (by omega)
        _ = _ := List.drop_zero
    obtain ⟨j, rfl⟩ : ∃ j, k = j + 1 := ⟨k - 1, by omega⟩
    by_cases done : left.length ≤ j + 1
    · have next : (PipeStage.writeOutput t reply left).advance (.took (j + 1)) =
          .flushOutput (t + reply.length) := by
        simp [PipeStage.advance, Answer.onWrite, PipeStage.writing, List.drop_eq_nil_of_le done]
      rw [next]
      show FlowAt _ (.flushOutput (t + reply.length))
      exact { ordered := by simp only [PipeStage.shown, PipeStage.returned, PipeStage.sent,
                PipeStage.consumed] at ordered ⊢; omega
              unread := unread
              output := by
                show s.output ++ left.take (j + 1) = (toUpper s.input).take (t + reply.length)
                rw [output', show t + reply.length - left.length + (j + 1) = t + reply.length by omega]
              up := up
              down := down
              stage := trivial
              service := service
              hungUp := by simp [connected] }
    · have next : (PipeStage.writeOutput t reply left).advance (.took (j + 1)) =
          .writeOutput t reply (left.drop (j + 1)) := by
        simp [PipeStage.advance, Answer.onWrite, PipeStage.writing]
        omega
      rw [next]
      show FlowAt _ (.writeOutput t reply (left.drop (j + 1)))
      exact { ordered := by simp only [PipeStage.shown, PipeStage.returned, PipeStage.sent,
                PipeStage.consumed, List.length_drop] at ordered ⊢; omega
              unread := unread
              output := by simp only [PipeStage.shown, List.length_drop]; rw [output']; congr 1; omega
              up := up
              down := down
              stage := by
                refine ⟨window, ?_, by simp; omega, by simp; omega⟩
                calc left.drop (j + 1) = (reply.drop (reply.length - left.length)).drop (j + 1) := by
                      rw [← tail]
                  _ = _ := by rw [List.drop_drop, List.length_drop]; congr 1; omega
              service := service
              hungUp := by simp [connected] }
  | _ => simp [PipeStage.request] at calls

theorem flush (flow : s.Flow) (piping : s.pipe = some st)
    (calls : st.request (max s.bufSize 1) = some (.output, .flush)) :
    Flow { s with pipe := some (st.advance .flushed) } := by
  have connected := flow.connected piping
  obtain ⟨ordered, unread, output, up, down, -, service, -⟩ := flow.atStage piping
  cases st with
  | flushOutput t =>
    show FlowAt _ (.readInput t)
    exact { ordered, unread, output, up, down, service
            stage := trivial
            hungUp := by simp [connected] }
  | _ => simp [PipeStage.request] at calls

end Flow

theorem Service.Fits.hangUp {input : Bytes} {sv : Service} (fits : sv.Fits input false) :
    sv.Fits input true := by
  cases sv with
  | waiting => trivial
  | serving st =>
    cases st with
    | finished r => simp [Service.Fits, EchoStage.Fits] at fits
    | _ => exact fits
  | closed r => simp [Service.Fits] at fits

namespace Flow

variable {s : Session} {st : PipeStage}

theorem hangUp {r : Except ServiceError Nat} (flow : s.Flow) (returned : s.pipe = some (.finished r))
    (connected : s.hungUp = false) : Flow { s with hungUp := true } := by
  obtain ⟨ordered, unread, output, up, down, stage, service, -⟩ := flow.atStage returned
  rw [connected] at service
  have piping : ({ s with hungUp := true } : Session).pipe = some (.finished r) := returned
  refine ofAt piping
    { ordered, unread, output, up, down, stage
      service := Service.Fits.hangUp service
      hungUp := fun _ => ⟨r, rfl⟩ }

theorem connect (flow : s.Flow) (idle : s.pipe = none) :
    Flow { s with pipe := some (.readInput 0) } := by
  simp only [Flow, idle] at flow
  obtain ⟨unread, output, up, down, waiting, connected⟩ := flow
  show FlowAt _ (.readInput 0)
  exact { ordered := by simp [waiting, Service.given, Service.taken, PipeStage.shown, PipeStage.returned,
            PipeStage.sent, PipeStage.consumed]
          unread := by simpa [PipeStage.consumed] using unread
          output := by simp [output, PipeStage.shown]
          up := by simp [up, waiting, Service.taken, PipeStage.sent]
          down := by simp [down, waiting, Service.given]
          stage := trivial
          service := by simp [waiting, Service.Fits]
          hungUp := by simp [connected] }

theorem accept (flow : s.Flow) (piping : s.pipe = some st) (waiting : s.service = .waiting) :
    Flow { s with service := .serving (.reading 0) } := by
  obtain ⟨ordered, unread, output, up, down, stage, service, hungUp⟩ := flow.atStage piping
  rw [waiting] at ordered up down
  refine ofAt piping
    { unread, output, stage, hungUp
      ordered := by simpa [Service.given, Service.taken, EchoStage.given, EchoStage.taken] using ordered
      up := by simpa [Service.taken, EchoStage.taken] using up
      down := by simpa [Service.given, EchoStage.given] using down
      service := trivial }

theorem readChunk {e : EchoStage} {len : Nat} {bs : Bytes} (flow : s.Flow) (piping : s.pipe = some st)
    (echoing : s.service = .serving e) (calls : e.request bufLen = some ((), .read len))
    (gets : Delivers s.up s.hungUp len bs) :
    Flow { s with service := .serving (e.advance (.data bs)), up := s.up.drop bs.length } := by
  obtain ⟨ordered, unread, output, up, down, stage, service, hungUp⟩ := flow.atStage piping
  obtain ⟨pre, -, either⟩ := gets
  cases e with
  | reading t =>
    simp only [echoing, Service.given, Service.taken, EchoStage.given, EchoStage.taken] at ordered up down
    by_cases empty : bs = []
    · subst empty
      -- the client closed and the server read all it sent: the echo returns the whole length
      obtain ⟨drained, closed⟩ : s.up = [] ∧ s.hungUp = true := by simpa using either
      have next : (EchoStage.reading t).advance (.data []) = .finished (.ok t) := rfl
      obtain ⟨r, rfl⟩ := hungUp closed
      simp only [PipeStage.Fits] at stage
      subst stage
      simp only [PipeStage.shown, PipeStage.returned, PipeStage.sent, PipeStage.consumed] at ordered up
      have whole : t = s.input.length := by
        simp only [up, List.drop_eq_nil_iff, List.length_take] at drained
        omega
      rw [next]
      refine ofAt piping
        { unread, output, stage := rfl, hungUp
          ordered := by simp [Service.given, Service.taken, EchoStage.given, EchoStage.taken,
            PipeStage.shown, PipeStage.returned, PipeStage.sent, PipeStage.consumed, whole]
          up := by simpa [Service.taken, EchoStage.taken, PipeStage.sent, whole] using up
          down := by simpa [Service.given, EchoStage.given, whole] using down
          service := by simpa [Service.Fits, EchoStage.Fits, closed] using whole }
    · have next : (EchoStage.reading t).advance (.data bs) = .echoing t bs.length (toUpper bs) := by
        have upper : toUpper bs ≠ [] := by simpa [toUpper] using empty
        simp [EchoStage.advance, Answer.onRead, EchoStage.afterRead, EchoStage.echoingFrom, empty, upper]
      have chunk : bs = (s.input.take (t + bs.length)).drop t := windowPrefix _ (up ▸ pre)
      have fits : t + bs.length ≤ st.sent := by
        have := pre.length_le
        simp only [up, List.length_drop, List.length_take] at this
        omega
      rw [next]
      refine ofAt piping
        { unread, output, stage, hungUp
          ordered := by
            simp only [Service.given, Service.taken, EchoStage.given, EchoStage.taken, length_toUpper]
            omega
          up := by simp [Service.taken, EchoStage.taken, up, List.drop_drop]
          down := by simpa [Service.given, EchoStage.given] using down
          service := ⟨by
              show toUpper bs =
                ((toUpper s.input).take (t + bs.length)).drop (t + bs.length - (toUpper bs).length)
              rw [length_toUpper, Nat.add_sub_cancel, ← toUpper_take, ← toUpper_drop, ← chunk],
            by simpa [toUpper] using empty, by simp⟩ }
  | _ => simp [EchoStage.request] at calls

theorem writeBack {e : EchoStage} {bs : Bytes} {k : Nat} (flow : s.Flow) (piping : s.pipe = some st)
    (echoing : s.service = .serving e) (calls : e.request bufLen = some ((), .write bs))
    (takes : Takes bs k) :
    Flow { s with service := .serving (e.advance (.took k)), down := s.down ++ bs.take k } := by
  obtain ⟨ordered, unread, output, up, down, stage, service, hungUp⟩ := flow.atStage piping
  cases e with
  | echoing t n left =>
    simp only [EchoStage.request, Option.some.injEq, Prod.mk.injEq, Request.write.injEq,
      true_and] at calls
    subst calls
    rw [echoing] at ordered up down service
    obtain ⟨tail, nonempty, short⟩ := service
    obtain ⟨pos, most⟩ := takes
    simp only [Service.given, Service.taken, EchoStage.given, EchoStage.taken] at ordered up down
    have down' : s.down ++ left.take k =
        ((toUpper s.input).take (t + n - left.length + k)).drop st.returned := by
      rw [down, tailTake _ tail most, windowJoin _ (by omega) (by omega)]
    obtain ⟨j, rfl⟩ : ∃ j, k = j + 1 := ⟨k - 1, by omega⟩
    by_cases done : left.length ≤ j + 1
    · have next : (EchoStage.echoing t n left).advance (.took (j + 1)) = .reading (t + n) := by
        simp [EchoStage.advance, Answer.onWrite, EchoStage.echoingFrom, List.drop_eq_nil_of_le done]
      rw [next]
      refine ofAt piping
        { unread, output, stage, hungUp
          ordered := by simp only [Service.given, Service.taken, EchoStage.given, EchoStage.taken]; omega
          up := by simpa [Service.taken, EchoStage.taken] using up
          down := by
            show s.down ++ left.take (j + 1) = _
            rw [down', show t + n - left.length + (j + 1) = t + n by omega]
            rfl
          service := trivial }
    · have next : (EchoStage.echoing t n left).advance (.took (j + 1)) =
          .echoing t n (left.drop (j + 1)) := by
        simp [EchoStage.advance, Answer.onWrite, EchoStage.echoingFrom]
        omega
      rw [next]
      refine ofAt piping
        { unread, output, stage, hungUp
          ordered := by
            simp only [Service.given, Service.taken, EchoStage.given, EchoStage.taken, List.length_drop]
            omega
          up := by simpa [Service.taken, EchoStage.taken] using up
          down := by
            show s.down ++ left.take (j + 1) = _
            rw [down']
            simp only [Service.given, EchoStage.given, List.length_drop]
            congr 2
            omega
          service := ⟨tailDrop _ _ tail, by simp; omega, by simp; omega⟩ }
  | _ => simp [EchoStage.request] at calls

theorem release {r : Except ServiceError Nat} (flow : s.Flow) (piping : s.pipe = some st)
    (returned : s.service = .serving (.finished r)) : Flow { s with service := .closed r } := by
  obtain ⟨ordered, unread, output, up, down, stage, service, hungUp⟩ := flow.atStage piping
  rw [returned] at ordered up down service
  -- a closed connection counts what its last echo counted
  have taken : (Service.closed r).taken = (Service.serving (.finished r)).taken := by
    cases r <;> rfl
  have given : (Service.closed r).given = (Service.serving (.finished r)).given := by
    cases r <;> rfl
  refine ofAt piping
    { unread, output, stage, hungUp, service
      ordered := by rw [taken, given]; exact ordered
      up := by rw [taken]; exact up
      down := by rw [given]; exact down }

end Flow

end Session

end UpperEcho

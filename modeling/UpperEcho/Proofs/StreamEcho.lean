import UpperEcho.Proofs.StreamFlow

/-! Piping through one echo server over reliable byte streams is correct in every interleaving. -/
namespace UpperEcho

def Session.Done (s : Session) : Prop :=
  (∃ r, s.pipe = some (.finished r)) ∧ s.hungUp = true ∧ ∃ r, s.service = .closed r

namespace EchoNet

variable {ι : Type} [DecidableEq ι] {n n' : EchoNet ι}

structure Inv (n : EchoNet ι) : Prop where
  flow : ∀ c, (n.session c).Flow
  queued : ∀ c, c ∈ n.backlog ↔ (n.session c).pipe ≠ none ∧ (n.session c).service = .waiting
  once : n.backlog.Nodup
  current : ∀ c, n.current = some c ↔ ∃ e, (n.session c).service = .serving e
  running : n.halted = none

omit [DecidableEq ι] in
theorem startInv (inputs : ι → Bytes) (bufSizes : ι → Nat) (bufSize : Nat) :
    (start inputs bufSizes bufSize).Inv where
  flow _ := by simp [start, Session.Flow]
  queued _ := by simp [start]
  once := List.nodup_nil
  current _ := by simp [start]
  running := rfl

namespace Inv

theorem flowSet (inv : n.Inv) {c : ι} {s : Session} (flow : s.Flow) (d : ι) :
    ((n.set c s).session d).Flow := by
  by_cases same : d = c
  · subst same
    simpa using flow
  · rw [sessionSetOther _ _ same]
    exact inv.flow d

omit [DecidableEq ι] in
theorem piping (inv : n.Inv) {c : ι} {e : EchoStage} (echoing : (n.session c).service = .serving e) :
    ∃ st, (n.session c).pipe = some st := by
  have flow := inv.flow c
  cases connected : (n.session c).pipe with
  | none =>
    simp only [Session.Flow, connected] at flow
    simp [flow.2.2.2.2.1] at echoing
  | some st => exact ⟨st, rfl⟩

theorem set (inv : n.Inv) {c : ι} {s : Session} (flow : s.Flow)
    (connected : (n.session c).pipe ≠ none) (piping : s.pipe ≠ none)
    (waiting : s.service = .waiting ↔ (n.session c).service = .waiting)
    (serving : (∃ e, s.service = .serving e) ↔ ∃ e, (n.session c).service = .serving e) :
    (n.set c s).Inv where
  flow := inv.flowSet flow
  queued d := by
    by_cases same : d = c
    · subst same
      rw [backlogSet, sessionSetSelf, inv.queued d, waiting]
      exact ⟨fun queued => ⟨piping, queued.2⟩, fun queued => ⟨connected, queued.2⟩⟩
    · simp only [backlogSet, sessionSetOther _ _ same, inv.queued d]
  once := inv.once
  current d := by
    by_cases same : d = c
    · subst same
      simp only [currentSet, sessionSetSelf, inv.current d, serving]
    · simp only [currentSet, sessionSetOther _ _ same, inv.current d]
  running := inv.running

theorem client (inv : n.Inv) {c : ι} {s : Session} (flow : s.Flow)
    (connected : (n.session c).pipe ≠ none) (piping : s.pipe ≠ none)
    (same : s.service = (n.session c).service) : (n.set c s).Inv :=
  inv.set flow connected piping (by rw [same]) (by rw [same])

theorem server (inv : n.Inv) {c : ι} {s : Session} {e e' : EchoStage} (flow : s.Flow)
    (connected : (n.session c).pipe ≠ none) (same : s.pipe = (n.session c).pipe)
    (echoing : (n.session c).service = .serving e) (next : s.service = .serving e') :
    (n.set c s).Inv :=
  inv.set flow connected (by rwa [same]) (by simp [next, echoing])
    (by simp [next, echoing])

theorem connect (inv : n.Inv) {c : ι} (idle : (n.session c).pipe = none) :
    ({ n.set c { n.session c with pipe := some (.readInput 0) } with backlog := n.backlog ++ [c] } :
      EchoNet ι).Inv := by
  have flow := inv.flow c
  have fresh : c ∉ n.backlog := by simp [inv.queued c, idle]
  simp only [Session.Flow, idle] at flow
  have waiting := flow.2.2.2.2.1
  exact { flow := inv.flowSet (Session.Flow.connect (inv.flow c) idle)
          queued := fun d => by
            by_cases same : d = c
            · subst same
              simp [waiting]
            · simp [sessionSetOther _ _ same, inv.queued d, same]
          once := List.nodup_append.mpr ⟨inv.once, by simp, fun a inside b single same =>
            fresh (by rwa [← List.mem_singleton.mp single, ← same])⟩
          current := fun d => by
            by_cases same : d = c
            · subst same
              simp [inv.current d]
            · simp [sessionSetOther _ _ same, inv.current d]
          running := inv.running }

theorem accept (inv : n.Inv) {c : ι} {rest : List ι} (idle : n.current = none)
    (next : n.backlog = c :: rest) :
    ({ n.set c { n.session c with service := .serving (.reading 0) } with
        backlog := rest
        current := some c } : EchoNet ι).Inv := by
  have queued := (inv.queued c).mp (by simp [next])
  obtain ⟨st, piping⟩ := Option.ne_none_iff_exists'.mp queued.1
  have once := inv.once
  rw [next] at once
  obtain ⟨fresh, once⟩ := List.nodup_cons.mp once
  exact { flow := inv.flowSet (Session.Flow.accept (inv.flow c) piping queued.2)
          queued := fun d => by
            by_cases same : d = c
            · subst same
              simp [fresh]
            · have before := inv.queued d
              simp only [next, List.mem_cons, same, false_or] at before
              simp [sessionSetOther _ _ same, before]
          once
          current := fun d => by
            by_cases same : d = c
            · subst same
              simp
            · have before := inv.current d
              simp only [idle, reduceCtorEq, false_iff] at before
              simp [sessionSetOther _ _ same, Ne.symm same, before]
          running := inv.running }

theorem release (inv : n.Inv) {c : ι} {r : Except ServiceError Nat} (serving : n.current = some c)
    (returned : (n.session c).service = .serving (.finished r)) :
    ({ n.set c { n.session c with service := .closed r } with
        current := none
        halted := stopsWith r } : EchoNet ι).Inv := by
  obtain ⟨st, piping⟩ := inv.piping returned
  have fits := ((inv.flow c).atStage piping).service
  rw [returned] at fits
  obtain ⟨-, whole⟩ := fits
  exact { flow := inv.flowSet (Session.Flow.release (inv.flow c) piping returned)
          queued := fun d => by
            by_cases same : d = c
            · subst same
              simp [inv.queued d, returned]
            · simp [sessionSetOther _ _ same, inv.queued d]
          once := inv.once
          current := fun d => by
            by_cases same : d = c
            · subst same
              simp
            · have before := inv.current d
              simp only [serving, Option.some.injEq, Ne.symm same, false_iff] at before
              simp [sessionSetOther _ _ same, before]
          running := by simp [whole, stopsWith] }

theorem step (inv : n.Inv) (step : Step n n') : n'.Inv := by
  cases step with
  | connect idle => exact inv.connect idle
  | readInput piping calls gets =>
    exact inv.client (Session.Flow.readInput (inv.flow _) piping calls gets) (by simp [piping])
      (by simp) rfl
  | readEcho piping calls gets =>
    exact inv.client (Session.Flow.readEcho (inv.flow _) piping calls gets) (by simp [piping])
      (by simp) rfl
  | send piping calls takes =>
    exact inv.client (Session.Flow.send (inv.flow _) piping calls takes) (by simp [piping])
      (by simp) rfl
  | writeOutput piping calls takes =>
    exact inv.client (Session.Flow.writeOutput (inv.flow _) piping calls takes) (by simp [piping])
      (by simp) rfl
  | flush piping calls =>
    exact inv.client (Session.Flow.flush (inv.flow _) piping calls) (by simp [piping]) (by simp) rfl
  | hangUp returned connected =>
    exact inv.client (Session.Flow.hangUp (inv.flow _) returned connected) (by simp [returned])
      (by simp [returned]) rfl
  | accept idle _ next => exact inv.accept idle next
  | readChunk serving echoing calls gets =>
    obtain ⟨st, piping⟩ := inv.piping echoing
    exact inv.server (Session.Flow.readChunk (inv.flow _) piping echoing calls gets) (by simp [piping])
      rfl echoing rfl
  | writeBack serving echoing calls takes =>
    obtain ⟨st, piping⟩ := inv.piping echoing
    exact inv.server (Session.Flow.writeBack (inv.flow _) piping echoing calls takes)
      (by simp [piping]) rfl echoing rfl
  | release serving returned => exact inv.release serving returned

end Inv

namespace Inv

theorem clientMoves (inv : n.Inv) {c : ι} {st : PipeStage} (piping : (n.session c).pipe = some st)
    (running : ∀ r, st ≠ .finished r)
    (moving : ∀ t m left got, st = .awaitEcho t m left got → (n.session c).down ≠ []) :
    ∃ n', Step n n' := by
  have fits := ((inv.flow c).atStage piping).stage
  have pos : 0 < max (n.session c).bufSize 1 := by omega
  cases st with
  | readInput t =>
    obtain ⟨bs, gets⟩ := Delivers.ready pos (Or.inr rfl)
    exact ⟨_, .readInput piping rfl gets⟩
  | sendChunk t m left => exact ⟨_, .send piping rfl (Takes.first fits.2.1)⟩
  | awaitEcho t m left got =>
    obtain ⟨bs, gets⟩ := Delivers.ready fits.2.1 (Or.inl (moving t m left got rfl))
    exact ⟨_, .readEcho piping rfl gets⟩
  | writeOutput t reply left => exact ⟨_, .writeOutput piping rfl (Takes.first fits.2.2.1)⟩
  | flushOutput t => exact ⟨_, .flush piping rfl⟩
  | finished r => exact absurd rfl (running r)

theorem serverMoves (inv : n.Inv) {c : ι} (serving : n.current = some c) : ∃ n', Step n n' := by
  obtain ⟨e, echoing⟩ := (inv.current c).mp serving
  obtain ⟨st, piping⟩ := inv.piping echoing
  have flow := (inv.flow c).atStage piping
  have fits := flow.service
  rw [echoing] at fits
  have pos : 0 < max n.bufSize 1 := by omega
  cases e with
  | finished r => exact ⟨_, .release serving echoing⟩
  | echoing t m left => exact ⟨_, .writeBack serving echoing rfl (Takes.first fits.2.1)⟩
  | reading u =>
    by_cases ready : (n.session c).up ≠ [] ∨ (n.session c).hungUp = true
    · obtain ⟨bs, gets⟩ := Delivers.ready pos ready
      exact ⟨_, .readChunk serving echoing rfl gets⟩
    · -- nothing to read and the client still connected: the client's own next call is due
      simp only [not_or, not_not, Bool.not_eq_true] at ready
      obtain ⟨drained, connected⟩ := ready
      by_cases returned : ∃ r, st = .finished r
      · obtain ⟨r, rfl⟩ := returned
        exact ⟨_, .hangUp piping connected⟩
      · refine inv.clientMoves piping (fun r same => returned ⟨r, same⟩) ?_
        rintro t m left got rfl
        simpa [drained] using flow.inFlight echoing

theorem serverDue (inv : n.Inv) {c : ι} (connected : (n.session c).pipe ≠ none)
    (unclosed : ∀ r, (n.session c).service ≠ .closed r) : ∃ n', Step n n' := by
  cases serving : n.current with
  | some d => exact inv.serverMoves serving
  | none =>
    have idle : ¬∃ e, (n.session c).service = .serving e := by simp [← inv.current c, serving]
    have waiting : (n.session c).service = .waiting := by
      cases echo : (n.session c).service with
      | waiting => rfl
      | serving e => exact absurd ⟨e, echo⟩ idle
      | closed r => exact absurd echo (unclosed r)
    have queued := (inv.queued c).mpr ⟨connected, waiting⟩
    obtain ⟨d, rest, next⟩ : ∃ d rest, n.backlog = d :: rest := by
      cases backlog : n.backlog with
      | nil => simp [backlog] at queued
      | cons d rest => exact ⟨d, rest, rfl⟩
    exact ⟨_, .accept serving inv.running next⟩

theorem progress (inv : n.Inv) {c : ι} (pending : ¬(n.session c).Done) : ∃ n', Step n n' := by
  cases piping : (n.session c).pipe with
  | none => exact ⟨_, .connect piping⟩
  | some st =>
    have connected : (n.session c).pipe ≠ none := by simp [piping]
    by_cases returned : ∃ r, st = .finished r
    · obtain ⟨r, rfl⟩ := returned
      cases hung : (n.session c).hungUp with
      | false => exact ⟨_, .hangUp piping hung⟩
      | true =>
        refine inv.serverDue connected fun r' closed => pending ⟨⟨r, piping⟩, hung, r', closed⟩
    · have running : ∀ r, st ≠ .finished r := fun r same => returned ⟨r, same⟩
      by_cases stalled : ∃ t m left got, st = .awaitEcho t m left got ∧ (n.session c).down = []
      · have unclosed := (inv.flow c).serverOpen piping running
        exact inv.serverDue connected fun r closed => by simp [closed, Service.isClosed] at unclosed
      · refine inv.clientMoves piping running fun t m left got same empty => ?_
        exact stalled ⟨t, m, left, got, same, empty⟩

end Inv

theorem Inv.reachable {inputs : ι → Bytes} {bufSizes : ι → Nat} {bufSize : Nat}
    (reach : Relation.ReflTransGen Step (start inputs bufSizes bufSize) n) : n.Inv := by
  induction reach with
  | refl => exact startInv inputs bufSizes bufSize
  | tail _ step inv => exact inv.step step

theorem inputSet (n : EchoNet ι) {d : ι} {s : Session} (same : s.input = (n.session d).input) (c : ι) :
    ((n.set d s).session c).input = (n.session c).input := by
  by_cases other : c = d
  · subst other
    simpa using same
  · rw [sessionSetOther _ _ other]

theorem Step.input (step : Step n n') (c : ι) : (n'.session c).input = (n.session c).input := by
  cases step <;> exact inputSet _ (by rfl) c

theorem inputReachable {inputs : ι → Bytes} {bufSizes : ι → Nat} {bufSize : Nat}
    (reach : Relation.ReflTransGen Step (start inputs bufSizes bufSize) n) (c : ι) :
    (n.session c).input = inputs c := by
  induction reach with
  | refl => rfl
  | tail _ step same => rw [step.input, same]

namespace Inv

omit [DecidableEq ι] in
theorem outputPrefix (inv : n.Inv) (c : ι) : (n.session c).output <+: toUpper (n.session c).input := by
  have flow := inv.flow c
  cases piping : (n.session c).pipe with
  | none =>
    simp only [Session.Flow, piping] at flow
    rw [flow.2.1]
    exact List.nil_prefix
  | some st =>
    rw [((inv.flow c).atStage piping).output]
    exact List.take_prefix _ _

omit [DecidableEq ι] in
theorem pipeReturns (inv : n.Inv) {c : ι} {r : Except ServiceError Nat}
    (returned : (n.session c).pipe = some (.finished r)) :
    r = .ok (n.session c).input.length ∧ (n.session c).output = toUpper (n.session c).input := by
  obtain ⟨-, -, output, -, -, whole, -, -⟩ := (inv.flow c).atStage returned
  simp only [PipeStage.Fits] at whole
  subst whole
  refine ⟨rfl, ?_⟩
  rw [output, PipeStage.shown, List.take_of_length_le (by simp)]

omit [DecidableEq ι] in
theorem echoReturns (inv : n.Inv) {c : ι} {r : Except ServiceError Nat}
    (returned : (n.session c).service = .serving (.finished r) ∨ (n.session c).service = .closed r) :
    (n.session c).hungUp = true ∧ r = .ok (n.session c).input.length := by
  have flow := inv.flow c
  cases piping : (n.session c).pipe with
  | none =>
    simp only [Session.Flow, piping] at flow
    rcases returned with echo | echo <;> simp [echo] at flow
  | some st =>
    have fits := ((inv.flow c).atStage piping).service
    rcases returned with echo | echo <;> rw [echo] at fits <;> exact fits

end Inv

theorem pipedEcho {inputs : ι → Bytes} {bufSizes : ι → Nat} {bufSize : Nat}
    (reach : Relation.ReflTransGen Step (start inputs bufSizes bufSize) n) :
    (∀ c, (n.session c).output <+: toUpper (inputs c)) ∧
    (∀ c r, (n.session c).pipe = some (.finished r) →
      r = .ok (inputs c).length ∧ (n.session c).output = toUpper (inputs c)) ∧
    (∀ c r, ((n.session c).service = .serving (.finished r) ∨ (n.session c).service = .closed r) →
      (n.session c).hungUp = true ∧ r = .ok (inputs c).length) ∧
    ∀ c, ¬(n.session c).Done → ∃ n', Step n n' := by
  have inv := Inv.reachable reach
  have input := inputReachable reach
  refine ⟨fun c => ?_, fun c r returned => ?_, fun c r returned => ?_, fun c pending => ?_⟩
  · simpa [input c] using inv.outputPrefix c
  · simpa [input c] using inv.pipeReturns returned
  · simpa [input c] using inv.echoReturns returned
  · exact inv.progress pending

theorem pipedEchoAfterPipe :
    ∃ n, Relation.ReflTransGen Step (start (fun _ : Unit => ([104, 105] : Bytes)) (fun _ => 0) 0) n ∧
      (n.session ()).pipe = some (.finished (.ok 2)) ∧ (n.session ()).service = .closed (.ok 2) ∧
      (∀ c, (n.session c).output <+: toUpper [104, 105]) ∧
      (∀ c r, (n.session c).pipe = some (.finished r) →
        r = .ok 2 ∧ (n.session c).output = toUpper [104, 105]) ∧
      (∀ c r, ((n.session c).service = .serving (.finished r) ∨ (n.session c).service = .closed r) →
        (n.session c).hungUp = true ∧ r = .ok 2) ∧
      ∀ c, ¬(n.session c).Done → ∃ n', Step n n' := by
  have run := (Relation.ReflTransGen.refl (r := Step)
      (a := start (fun _ : Unit => ([104, 105] : Bytes)) (fun _ => 0) 0))
    |>.tail (.connect (c := ()) rfl) |>.tail (.accept rfl rfl rfl)
    -- "h" goes up, comes back as "H" and is written out
    |>.tail (.readInput (c := ()) rfl rfl (Delivers.head _ _ _ Nat.one_pos))
    |>.tail (.send (c := ()) rfl rfl (Takes.first (List.cons_ne_nil _ _)))
    |>.tail (.readChunk (c := ()) rfl rfl rfl (Delivers.head _ _ _ Nat.one_pos))
    |>.tail (.writeBack (c := ()) rfl rfl rfl (Takes.first (List.cons_ne_nil _ _)))
    |>.tail (.readEcho (c := ()) rfl rfl (Delivers.head _ _ _ Nat.one_pos))
    |>.tail (.writeOutput (c := ()) rfl rfl (Takes.first (List.cons_ne_nil _ _)))
    |>.tail (.flush (c := ()) rfl rfl)
    -- then "i" the same way
    |>.tail (.readInput (c := ()) rfl rfl (Delivers.head _ _ _ Nat.one_pos))
    |>.tail (.send (c := ()) rfl rfl (Takes.first (List.cons_ne_nil _ _)))
    |>.tail (.readChunk (c := ()) rfl rfl rfl (Delivers.head _ _ _ Nat.one_pos))
    |>.tail (.writeBack (c := ()) rfl rfl rfl (Takes.first (List.cons_ne_nil _ _)))
    |>.tail (.readEcho (c := ()) rfl rfl (Delivers.head _ _ _ Nat.one_pos))
    |>.tail (.writeOutput (c := ()) rfl rfl (Takes.first (List.cons_ne_nil _ _)))
    |>.tail (.flush (c := ()) rfl rfl)
    -- the input ends, the client hangs up, and the server reads the end and closes
    |>.tail (.readInput (c := ()) rfl rfl (Delivers.drained 1))
    |>.tail (.hangUp (c := ()) rfl rfl)
    |>.tail (.readChunk (c := ()) rfl rfl rfl (Delivers.drained 1))
    |>.tail (.release (c := ()) rfl rfl)
  exact ⟨_, run, rfl, rfl, pipedEcho run⟩

end EchoNet

end UpperEcho

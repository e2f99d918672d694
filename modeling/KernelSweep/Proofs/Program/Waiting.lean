import KernelSweep.Program.Execute
import Mathlib.Data.List.Induction

set_option autoImplicit false

namespace KernelSweep.Program

/-- The status is the program's own whenever it is known. -/
theorem Reaped.exit_eq (r : Reaped) : r.exit = r.status.getD (-1) := by
  obtain ⟨status, copied⟩ := r
  cases status with
  | none => rfl
  | some status =>
    by_cases zero : status = 0
    · subst zero
      cases copied <;> rfl
    · have error : error? ⟨some status, copied⟩ = some (.exited status) := if_pos zero
      rw [exit, error]
      rfl

theorem Reaped.exit_eq_zero_iff (r : Reaped) : r.exit = 0 ↔ r.status = some 0 := by
  rw [exit_eq]
  cases r.status with
  | none => decide
  | some status => simp

/-- What is ready to be received. -/
structure Ready where
  /-- The program has ended, and its end was sent. -/
  sent : Bool := false
  /-- The end of the program, until it is received. -/
  completion : Option Completion := none
  tick : Bool := false
  timeUp : Bool := false
  /-- The error of the sweep once it is cancelled. -/
  cancelled : Option String := none

/-- Something becomes ready. A program ends once, and a sweep is cancelled once; a tick that nobody
took makes room for the next. -/
inductive Ready.Grows : Ready → Ready → Prop
  | completed {r : Ready} (running : r.sent = false) (c : Completion) :
      Grows r { r with sent := true, completion := some c }
  | tick (r : Ready) : Grows r { r with tick := true }
  | timeUp (r : Ready) : Grows r { r with timeUp := true }
  | cancelled {r : Ready} (live : r.cancelled = none) (cause : String) :
      Grows r { r with cancelled := some cause }

/-- What can be received, and what is ready without it. A cancelled sweep stays so. -/
inductive Ready.Offers : Ready → WaitEvent → Ready → Prop
  | completed {r : Ready} {c : Completion} (here : r.completion = some c) :
      Offers r (.completed c) { r with completion := none }
  | tick {r : Ready} (here : r.tick = true) (look : Option UInt64) :
      Offers r (.tick look) { r with tick := false }
  | timeUp {r : Ready} (here : r.timeUp = true) :
      Offers r (.stopped .timeUp) { r with timeUp := false }
  | cancelled {r : Ready} {cause : String} (here : r.cancelled = some cause) :
      Offers r (.stopped (.cancelled cause)) r

structure Waiting where
  wait : Wait
  ready : Ready

/-- Something becomes ready, or the wait takes one of the things that are. For a program that was
killed it takes nothing but its end. -/
inductive Waiting.Moves : Waiting → Option WaitEvent → Waiting → Prop
  | grows {w : Wait} {r r' : Ready} (grown : r.Grows r') : Moves ⟨w, r⟩ none ⟨w, r'⟩
  | takes {w : Wait} {r r' : Ready} {e : WaitEvent} (phase : w.phase = .waiting)
      (offered : r.Offers e r') : Moves ⟨w, r⟩ (some e) ⟨w.step e, r'⟩
  | reaps {w : Wait} {r r' : Ready} {s : Stop} {c : Completion} (phase : w.phase = .stopping s)
      (offered : r.Offers (.completed c) r') :
      Moves ⟨w, r⟩ (some (.completed c)) ⟨w.step (.completed c), r'⟩

/-- Any number of moves from the start of a program, after one look at its memory, and what the wait
took on the way. -/
inductive Waiting.Runs (look : Option UInt64) : List WaitEvent → Waiting → Prop
  | start : Runs look [] ⟨.begin look, {}⟩
  | move {events : List WaitEvent} {s s' : Waiting} {e : Option WaitEvent}
      (before : Runs look events s) (moved : s.Moves e s') : Runs look (events ++ e.toList) s'

def WaitEvent.isTick : WaitEvent → Bool
  | .tick _ => true
  | _ => false

def WaitEvent.isCompletion : WaitEvent → Bool
  | .completed _ => true
  | _ => false

/-- What a look at the memory found, at a tick. -/
def WaitEvent.look? : WaitEvent → Option UInt64
  | .tick look => look
  | _ => none

/-- The first choice besides ticks. -/
def decision (events : List WaitEvent) : Option WaitEvent := events.find? fun e => !e.isTick

/-- Everything that looks at the memory found, the one before the wait included. -/
def samples (look : Option UInt64) (events : List WaitEvent) : List UInt64 :=
  look.toList ++ events.filterMap WaitEvent.look?

/-- The largest of some numbers, or zero. -/
def IsPeak (found : List UInt64) (peak : UInt64) : Prop :=
  ∀ bound, peak ≤ bound ↔ ∀ m ∈ found, m ≤ bound

theorem max_le_iff (a b bound : UInt64) : max a b ≤ bound ↔ a ≤ bound ∧ b ≤ bound := by
  have larger : max a b = if a ≤ b then b else a := rfl
  rw [larger]
  split <;> simp only [UInt64.le_iff_toNat_le] at * <;> omega

theorem max_zero (a : UInt64) : max a 0 = a := by
  have larger : max a 0 = if a ≤ 0 then 0 else a := rfl
  rw [larger]
  split <;> simp_all

theorem IsPeak.append {found : List UInt64} {peak : UInt64} (before : IsPeak found peak)
    (look : Option UInt64) : IsPeak (found ++ look.toList) (max peak (look.getD 0)) := by
  intro bound
  rw [max_le_iff, before bound, List.forall_mem_append]
  cases look with
  | none => simp
  | some m => simp

theorem samples_append (look : Option UInt64) (events : List WaitEvent) (e : WaitEvent) :
    samples look (events ++ [e]) = samples look events ++ e.look?.toList := by
  rw [samples, samples, List.filterMap_append, List.append_assoc]
  cases found : e.look? with
  | none => rw [List.filterMap_cons_none found]; rfl
  | some m => rw [List.filterMap_cons_some found]; rfl

section Step

variable {w : Wait}

theorem step_tick (phase : w.phase = .waiting) (look : Option UInt64) :
    w.step (.tick look) = w.sample look := by
  simp only [Wait.step, phase]

theorem step_stopped (phase : w.phase = .waiting) (s : Stop) :
    w.step (.stopped s) = { w with phase := .stopping s } := by
  simp only [Wait.step, phase]

theorem step_completed (phase : w.phase = .waiting) (c : Completion) :
    w.step (.completed c) =
      { w with
        phase := .finished
          { exit := c.exit, output := c.output, duration := c.elapsed, peak := w.peak }
        received := w.received + 1 } := by
  simp only [Wait.step, phase]

theorem step_reaped {s : Stop} (phase : w.phase = .stopping s) (c : Completion) :
    w.step (.completed c) =
      { w with
        phase := .finished (s.outcome c.elapsed w.peak), received := w.received + 1 } := by
  simp only [Wait.step, phase]

end Step

/-- What a wait has taken, and what it has come to. -/
inductive Stage (looks : List (Option UInt64)) : List WaitEvent → Wait → Prop
  | waiting {w : Wait} (phase : w.phase = .waiting) (received : w.received = 0) :
      Stage looks (looks.map .tick) w
  | stopping {w : Wait} {s : Stop} (phase : w.phase = .stopping s) (received : w.received = 0) :
      Stage looks (looks.map .tick ++ [.stopped s]) w
  | completed {w : Wait} {c : Completion}
      (phase : w.phase = .finished
        { exit := c.exit, output := c.output, duration := c.elapsed, peak := w.peak })
      (received : w.received = 1) : Stage looks (looks.map .tick ++ [.completed c]) w
  | reaped {w : Wait} {s : Stop} {c : Completion}
      (phase : w.phase = .finished (s.outcome c.elapsed w.peak)) (received : w.received = 1) :
      Stage looks (looks.map .tick ++ [.stopped s, .completed c]) w

/-- What every move keeps. An end that was sent is either still there or counted. -/
structure Keeps (look : Option UInt64) (events : List WaitEvent) (s : Waiting) : Prop where
  stage : ∃ looks, Stage looks events s.wait
  peak : IsPeak (samples look events) s.wait.peak
  counted : s.wait.received + s.ready.completion.toList.length = s.ready.sent.toNat

section Keeps

variable {look : Option UInt64} {looks : List (Option UInt64)} {events : List WaitEvent}
  {s s' : Waiting} {w : Wait}

theorem Stage.of_waiting (stage : Stage looks events w) (phase : w.phase = .waiting) :
    events = looks.map .tick ∧ w.received = 0 := by
  cases stage with
  | waiting _ received => exact ⟨rfl, received⟩
  | stopping other _ => rw [phase] at other; cases other
  | completed other _ => rw [phase] at other; cases other
  | reaped other _ => rw [phase] at other; cases other

theorem Stage.of_stopping {stop : Stop} (stage : Stage looks events w)
    (phase : w.phase = .stopping stop) :
    events = looks.map .tick ++ [.stopped stop] ∧ w.received = 0 := by
  cases stage with
  | waiting other _ => rw [phase] at other; cases other
  | stopping other received =>
    rw [phase] at other
    cases other
    exact ⟨rfl, received⟩
  | completed other _ => rw [phase] at other; cases other
  | reaped other _ => rw [phase] at other; cases other

/-- The stage after each thing that a wait can take. -/
theorem Stage.step (stage : Stage looks events w) (phase : w.phase = .waiting) (e : WaitEvent) :
    ∃ looks', Stage looks' (events ++ [e]) (w.step e) := by
  obtain ⟨rfl, received⟩ := stage.of_waiting phase
  cases e with
  | tick m =>
    rw [step_tick phase]
    refine ⟨looks ++ [m], ?_⟩
    have longer : looks.map WaitEvent.tick ++ [.tick m] = (looks ++ [m]).map .tick := by simp
    rw [longer]
    exact .waiting phase received
  | stopped stop =>
    rw [step_stopped phase]
    exact ⟨looks, .stopping rfl received⟩
  | completed c =>
    rw [step_completed phase]
    exact ⟨looks, .completed rfl (by rw [received])⟩

theorem Stage.reap {stop : Stop} (stage : Stage looks events w)
    (phase : w.phase = .stopping stop) (c : Completion) :
    Stage looks (events ++ [.completed c]) (w.step (.completed c)) := by
  obtain ⟨rfl, received⟩ := stage.of_stopping phase
  rw [step_reaped phase, List.append_assoc]
  exact .reaped rfl (by rw [received])

theorem peak_step (phase : w.phase = .waiting) (e : WaitEvent) :
    (w.step e).peak = max w.peak (e.look?.getD 0) := by
  cases e with
  | tick m => rw [step_tick phase]; rfl
  | stopped stop =>
    rw [step_stopped phase]
    exact (max_zero w.peak).symm
  | completed c =>
    rw [step_completed phase]
    exact (max_zero w.peak).symm

/-- Of the things that are offered, only an end is counted. -/
theorem counted_takes {r r' : Ready} {e : WaitEvent} (phase : w.phase = .waiting)
    (offered : r.Offers e r')
    (counted : w.received + r.completion.toList.length = r.sent.toNat) :
    (w.step e).received + r'.completion.toList.length = r'.sent.toNat := by
  cases offered with
  | completed here =>
    rw [here] at counted
    rw [step_completed phase]
    exact counted
  | tick here look =>
    rw [step_tick phase]
    exact counted
  | timeUp here =>
    rw [step_stopped phase]
    exact counted
  | cancelled here =>
    rw [step_stopped phase]
    exact counted

theorem Keeps.moves {e : Option WaitEvent} (kept : Keeps look events s) (moved : s.Moves e s') :
    Keeps look (events ++ e.toList) s' := by
  obtain ⟨⟨looks, stage⟩, peak, counted⟩ := kept
  cases moved with
  | @grows w r r' grown =>
    rw [Option.toList_none, List.append_nil]
    refine ⟨⟨looks, stage⟩, peak, ?_⟩
    cases grown with
    | completed running c =>
      -- an end that was not sent can neither be there nor have been received
      have nothing : w.received + r.completion.toList.length = 0 := by rw [counted, running]; rfl
      have unreceived : w.received = 0 := Nat.eq_zero_of_add_eq_zero_right nothing
      simp [unreceived]
    | tick => exact counted
    | timeUp => exact counted
    | cancelled live cause => exact counted
  | takes phase offered =>
    refine ⟨stage.step phase _, ?_, counted_takes phase offered counted⟩
    rw [peak_step phase, Option.toList_some, samples_append]
    exact peak.append _
  | reaps phase offered =>
    refine ⟨⟨looks, stage.reap phase _⟩, ?_, ?_⟩
    · rw [step_reaped phase, Option.toList_some, samples_append]
      simpa [WaitEvent.look?] using peak
    · cases offered with
      | completed here =>
        rw [here] at counted
        rw [step_reaped phase]
        exact counted

theorem keeps_of_runs (runs : Waiting.Runs look events s) : Keeps look events s := by
  induction runs with
  | start =>
    refine ⟨⟨[], .waiting rfl rfl⟩, ?_, rfl⟩
    have zero : IsPeak [] 0 := fun bound => by simp
    have first : (Wait.begin look).peak = max 0 (look.getD 0) := rfl
    rw [first, samples, List.filterMap_nil, List.append_nil]
    exact zero.append look
  | move _ moved kept => exact kept.moves moved

end Keeps

/-- The first choice fixes an outcome, but for the time until a killed program has ended. -/
def WaitEvent.Fixes (peak : UInt64) (o : Outcome) : WaitEvent → Prop
  | .completed c =>
    o = {
      exit := c.reaped.status.getD (-1), timedOut := false, canceled := false
      output := c.output, message := "", duration := c.elapsed, peak }
  | .stopped .timeUp =>
    o = {
      exit := -1, timedOut := true, canceled := false
      output := [], message := "Time expired!", duration := o.duration, peak }
  | .stopped (.cancelled cause) =>
    o = {
      exit := -1, timedOut := false, canceled := true
      output := [], message := "Canceled: " ++ cause, duration := o.duration, peak }
  | .tick _ => False

/-- The first choice is the end of the program, with status zero. -/
def DecidedBySuccess (events : List WaitEvent) : Prop :=
  ∃ c, decision events = some (.completed c) ∧ c.reaped.status = some 0

/-- A wait that is over, with this outcome. -/
structure Concluded (events : List WaitEvent) (s : Waiting) (o : Outcome) : Prop where
  decided : ∃ e, decision events = some e ∧ e.Fixes s.wait.peak o
  oneFlag : ¬ (o.timedOut = true ∧ o.canceled = true)
  succeeded : o.succeeded = true ↔ DecidedBySuccess events
  /-- The program has ended, and its end has been received, once. -/
  received : events.countP WaitEvent.isCompletion = 1
  reaped : s.ready.sent = true ∧ s.ready.completion = none
  /-- Nothing is taken any more. -/
  last : ∀ e s', ¬ s.Moves (some e) s'

/-- A wait that goes on. -/
structure Pending (events : List WaitEvent) (s : Waiting) : Prop where
  unreceived : events.countP WaitEvent.isCompletion = 0
  /-- An end that was sent can be received next, and then the wait is over. -/
  canEnd : s.ready.sent = true →
    ∃ c s' o, s.Moves (some (.completed c)) s' ∧ s'.wait.phase = .finished o

/-- What holds of a wait at all times. -/
structure Sound (look : Option UInt64) (events : List WaitEvent) (s : Waiting) : Prop where
  peak : IsPeak (samples look events) s.wait.peak
  /-- A tick changes nothing but the peak. -/
  tick : ∀ m s', s.Moves (some (.tick m)) s' →
    s' = ⟨{ s.wait with peak := s'.wait.peak }, { s.ready with tick := false }⟩
  concluded : ∀ o, s.wait.phase = .finished o → Concluded events s o
  pending : (∀ o, s.wait.phase ≠ .finished o) → Pending events s

section Sound

variable {look : Option UInt64} {events : List WaitEvent} {s : Waiting} {o : Outcome}

theorem decision_after_ticks (looks : List (Option UInt64)) {e : WaitEvent}
    (choice : e.isTick = false) (rest : List WaitEvent) :
    decision (looks.map .tick ++ e :: rest) = some e := by
  have ticks : (looks.map WaitEvent.tick).find? (fun e => !e.isTick) = none := by
    simp [WaitEvent.isTick]
  rw [decision, List.find?_append, ticks, Option.none_or, List.find?_cons_of_pos (by simp [choice])]

theorem completions_after_ticks (looks : List (Option UInt64)) (rest : List WaitEvent) :
    (looks.map WaitEvent.tick ++ rest).countP WaitEvent.isCompletion =
      rest.countP WaitEvent.isCompletion := by
  have ticks : (looks.map WaitEvent.tick).countP WaitEvent.isCompletion = 0 := by
    simp [List.countP_eq_zero, WaitEvent.isCompletion]
  rw [List.countP_append, ticks, Nat.zero_add]

/-- Both flags follow from the first choice, and success with them. -/
theorem WaitEvent.Fixes.flags {peak : UInt64} {e : WaitEvent} (fixed : e.Fixes peak o)
    (decided : decision events = some e) :
    ¬ (o.timedOut = true ∧ o.canceled = true) ∧
      (o.succeeded = true ↔ DecidedBySuccess events) := by
  cases e with
  | tick m => cases fixed
  | completed c =>
    rw [fixed]
    have status : c.reaped.status.getD (-1) = 0 ↔ c.reaped.status = some 0 := by
      rw [← Reaped.exit_eq, Reaped.exit_eq_zero_iff]
    simp [Outcome.succeeded, DecidedBySuccess, decided, status]
  | stopped stop =>
    cases stop <;>
    · rw [fixed]
      simp [Outcome.succeeded, DecidedBySuccess, decided]

theorem Stop.fixes_outcome (stop : Stop) (elapsed : Duration) (peak : UInt64) :
    (WaitEvent.stopped stop).Fixes peak (stop.outcome elapsed peak) := by
  cases stop <;> rfl

/-- Nothing is taken once the wait is over. -/
theorem Waiting.not_moves_of_finished (finished : s.wait.phase = .finished o) (e : WaitEvent)
    (s' : Waiting) : ¬ s.Moves (some e) s' := by
  intro moved
  cases moved with
  | takes phase offered => rw [phase] at finished; cases finished
  | reaps phase offered => rw [phase] at finished; cases finished

theorem Stage.decided {looks : List (Option UInt64)} {w : Wait} (stage : Stage looks events w)
    (finished : w.phase = .finished o) :
    (∃ e, decision events = some e ∧ e.Fixes w.peak o) ∧
      events.countP WaitEvent.isCompletion = 1 ∧ w.received = 1 := by
  cases stage with
  | waiting phase _ => rw [phase] at finished; cases finished
  | stopping phase _ => rw [phase] at finished; cases finished
  | @completed w c phase received =>
    cases phase.symm.trans finished
    refine ⟨⟨.completed c, decision_after_ticks looks rfl [], ?_⟩, ?_, received⟩
    · simp only [WaitEvent.Fixes, Completion.exit, Reaped.exit_eq]
    · rw [completions_after_ticks]; rfl
  | @reaped w stop c phase received =>
    cases phase.symm.trans finished
    refine ⟨⟨.stopped stop, decision_after_ticks looks rfl _, stop.fixes_outcome _ _⟩, ?_,
      received⟩
    rw [completions_after_ticks]; rfl

theorem Stage.going_on {looks : List (Option UInt64)} {w : Wait} (stage : Stage looks events w)
    (live : ∀ o, w.phase ≠ .finished o) :
    (w.phase = .waiting ∨ ∃ stop, w.phase = .stopping stop) ∧ w.received = 0 ∧
      events.countP WaitEvent.isCompletion = 0 := by
  cases stage with
  | waiting phase received =>
    refine ⟨.inl phase, received, ?_⟩
    simpa using completions_after_ticks looks []
  | stopping phase received =>
    refine ⟨.inr ⟨_, phase⟩, received, ?_⟩
    rw [completions_after_ticks]; rfl
  | completed phase _ => exact absurd phase (live _)
  | reaped phase _ => exact absurd phase (live _)

/-- A program ends once, so with its end received there is no other to come. -/
theorem Keeps.reaped (kept : Keeps look events s) (received : s.wait.received = 1) :
    s.ready.sent = true ∧ s.ready.completion = none := by
  have counted := kept.counted
  rw [received] at counted
  cases sent : s.ready.sent <;> cases here : s.ready.completion <;> simp_all

theorem Keeps.concluded (kept : Keeps look events s) (finished : s.wait.phase = .finished o) :
    Concluded events s o := by
  obtain ⟨looks, stage⟩ := kept.stage
  obtain ⟨⟨e, decided, fixed⟩, completions, received⟩ := stage.decided finished
  obtain ⟨oneFlag, succeeded⟩ := fixed.flags decided
  exact ⟨⟨e, decided, fixed⟩, oneFlag, succeeded, completions, kept.reaped received,
    Waiting.not_moves_of_finished finished⟩

/-- An end that was sent is still there while the wait goes on, and it ends the wait. -/
theorem Keeps.pending (kept : Keeps look events s) (live : ∀ o, s.wait.phase ≠ .finished o) :
    Pending events s := by
  obtain ⟨looks, stage⟩ := kept.stage
  obtain ⟨phases, received, unreceived⟩ := stage.going_on live
  refine ⟨unreceived, fun sent => ?_⟩
  have there : s.ready.completion.toList.length = 1 := by
    have counted := kept.counted
    rw [received, sent, Nat.zero_add] at counted
    exact counted
  obtain ⟨c, here⟩ : ∃ c, s.ready.completion = some c := by
    cases completion : s.ready.completion with
    | none => rw [completion] at there; cases there
    | some c => exact ⟨c, rfl⟩
  obtain waiting | ⟨stop, stopping⟩ := phases
  · have ended := congrArg Wait.phase (step_completed waiting c)
    exact ⟨c, _, _, .takes waiting (.completed here), ended⟩
  · have ended := congrArg Wait.phase (step_reaped stopping c)
    exact ⟨c, _, _, .reaps stopping (.completed here), ended⟩

theorem Waiting.tick_moves (m : Option UInt64) (s' : Waiting)
    (moved : s.Moves (some (.tick m)) s') :
    s' = ⟨{ s.wait with peak := s'.wait.peak }, { s.ready with tick := false }⟩ := by
  cases moved with
  | takes phase offered =>
    cases offered with
    | tick here =>
      rw [step_tick phase]
      rfl

theorem sound_of_runs (runs : Waiting.Runs look events s) : Sound look events s where
  peak := (keeps_of_runs runs).peak
  tick := Waiting.tick_moves
  concluded := fun _ => (keeps_of_runs runs).concluded
  pending := (keeps_of_runs runs).pending

end Sound

section Execute

variable {look : Option UInt64} {events : List WaitEvent} {w : Wait} {r : Ready}

theorem Wait.run_append (w : Wait) (events : List WaitEvent) (e : WaitEvent) :
    w.run (events ++ [e]) = (w.run events).step e := by
  rw [run, run, List.foldl_append, List.foldl_cons, List.foldl_nil]

theorem Waiting.Runs.grow {r' : Ready} (runs : Waiting.Runs look events ⟨w, r⟩)
    (grown : r.Grows r') : Waiting.Runs look events ⟨w, r'⟩ := by
  simpa using runs.move (.grows grown)

/-- A wait that only looked at the memory goes on. -/
theorem runs_ticks (look : Option UInt64) (looks : List (Option UInt64)) :
    Waiting.Runs look (looks.map .tick) ⟨(Wait.begin look).run (looks.map .tick), {}⟩ ∧
      ((Wait.begin look).run (looks.map .tick)).phase = .waiting := by
  induction looks using List.reverseRecOn with
  | nil => exact ⟨.start, rfl⟩
  | append_singleton looks m ih =>
    obtain ⟨runs, waiting⟩ := ih
    rw [List.map_append, List.map_cons, List.map_nil, Wait.run_append]
    refine ⟨(runs.grow (.tick {})).move (.takes waiting (.tick rfl m)), ?_⟩
    rw [step_tick waiting]
    exact waiting

theorem Waiting.Runs.complete (runs : Waiting.Runs look events ⟨w, r⟩)
    (waiting : w.phase = .waiting) (unsent : r.sent = false) (c : Completion) :
    ∃ r', Waiting.Runs look (events ++ [.completed c]) ⟨w.step (.completed c), r'⟩ :=
  ⟨_, (runs.grow (.completed unsent c)).move (.takes waiting (.completed rfl))⟩

theorem Waiting.Runs.reap {stop : Stop} (runs : Waiting.Runs look events ⟨w, r⟩)
    (stopping : w.phase = .stopping stop) (unsent : r.sent = false) (c : Completion) :
    ∃ r', Waiting.Runs look (events ++ [.completed c]) ⟨w.step (.completed c), r'⟩ :=
  ⟨_, (runs.grow (.completed unsent c)).move (.reaps stopping (.completed rfl))⟩

/-- What stops a program in its run can become ready, and be taken. -/
theorem Waiting.Runs.stop (runs : Waiting.Runs look events ⟨w, {}⟩) (waiting : w.phase = .waiting)
    (stop : Stop) :
    ∃ r', r'.sent = false ∧
      Waiting.Runs look (events ++ [.stopped stop]) ⟨w.step (.stopped stop), r'⟩ := by
  cases stop with
  | timeUp => exact ⟨_, rfl, (runs.grow (.timeUp {})).move (.takes waiting (.timeUp rfl))⟩
  | cancelled cause =>
    exact ⟨_, rfl, (runs.grow (.cancelled rfl cause)).move (.takes waiting (.cancelled rfl))⟩

theorem ticks_eq (setup : Setup) (child : Child) (time : Nat) :
    ∃ looks : List (Option UInt64), ticks setup child time = looks.map .tick := by
  refine ⟨(List.range ((time - 1) / pollTime setup)).map fun i =>
    child.memory ((i + 1) * pollTime setup), ?_⟩
  rw [ticks, List.map_map]
  rfl

/-- Looks at the memory, and then the end of the program. -/
theorem runs_to_end (look : Option UInt64) (looks : List (Option UInt64)) (c : Completion) :
    let events := looks.map .tick ++ [.completed c]
    ∃ s o, Waiting.Runs look events s ∧ s.wait = (Wait.begin look).run events ∧
      s.wait.phase = .finished o := by
  obtain ⟨runs, waiting⟩ := runs_ticks look looks
  obtain ⟨r, ended⟩ := runs.complete waiting rfl c
  have finished := congrArg Wait.phase (step_completed waiting c)
  exact ⟨_, _, ended, (Wait.run_append ..).symm, finished⟩

/-- Looks at the memory, something that stops the program, and then its end. -/
theorem runs_to_stop (look : Option UInt64) (looks : List (Option UInt64)) (stop : Stop)
    (c : Completion) :
    let events := looks.map .tick ++ [.stopped stop, .completed c]
    ∃ s o, Waiting.Runs look events s ∧ s.wait = (Wait.begin look).run events ∧
      s.wait.phase = .finished o := by
  obtain ⟨runs, waiting⟩ := runs_ticks look looks
  obtain ⟨r, unsent, stopped⟩ := runs.stop waiting stop
  have stopping := congrArg Wait.phase (step_stopped waiting stop)
  obtain ⟨r', ended⟩ := stopped.reap stopping unsent c
  have regroup : looks.map WaitEvent.tick ++ [.stopped stop, .completed c] =
      looks.map .tick ++ [.stopped stop] ++ [.completed c] := by simp
  have finished := congrArg Wait.phase (step_reaped stopping c)
  dsimp only
  rw [regroup]
  refine ⟨_, _, ended, ?_, finished⟩
  rw [Wait.run_append, Wait.run_append]

/-- What is taken of a program is one run of the wait for it. -/
theorem runs_watch (setup : Setup) (interrupt : Option Interrupt) (child : Child)
    (look : Option UInt64) :
    ∃ s o, Waiting.Runs look (watch setup interrupt child).events s ∧
      s.wait = (Wait.begin look).run (watch setup interrupt child).events ∧
      s.wait.phase = .finished o := by
  have stopped : ∃ s o,
      Waiting.Runs look
        (ticks setup child (stopAt setup interrupt).2 ++
          [.stopped (stopAt setup interrupt).1,
            .completed (child.killed (stopAt setup interrupt).2)]) s ∧
      s.wait = (Wait.begin look).run
        (ticks setup child (stopAt setup interrupt).2 ++
          [.stopped (stopAt setup interrupt).1,
            .completed (child.killed (stopAt setup interrupt).2)]) ∧
      s.wait.phase = .finished o := by
    obtain ⟨looks, same⟩ := ticks_eq setup child (stopAt setup interrupt).2
    rw [same]
    exact runs_to_stop look looks _ _
  unfold watch
  cases child.ends with
  | none => exact stopped
  | some c =>
    dsimp only
    split
    · obtain ⟨looks, same⟩ := ticks_eq setup child (span c.elapsed)
      rw [same]
      exact runs_to_end look looks c
    · exact stopped

variable {system : System} {setup : Setup} {calls : List Command} {c : Command}
  {files : FileSystem}

theorem execute_of_started {child : Child}
    (started : system.start calls (launchOf system setup calls c files) = .ok child) :
    let events := (watch setup (system.interrupt calls) child).events
    ∃ s, Waiting.Runs (child.memory 0) events s ∧
      s.wait = (Wait.begin (child.memory 0)).run events ∧
      s.wait.phase = .finished (execute system setup calls c files).outcome := by
  obtain ⟨s, o, runs, state, finished⟩ :=
    runs_watch setup (system.interrupt calls) child (child.memory 0)
  have reported : (execute system setup calls c files).outcome = o := by
    simp only [execute, started, ← state, Wait.outcome?, finished, Option.getD_some]
  exact ⟨s, runs, state, reported ▸ finished⟩

theorem execute_of_refused {text : String}
    (refused : system.start calls (launchOf system setup calls c files) = .error text) :
    execute system setup calls c files =
      { outcome := { exit := -1, message := text }, files
        cancels := (system.interrupt calls).isSome } := by
  simp only [execute, refused]

end Execute

/-- Whatever becomes ready and whatever is taken of it, the first choice besides ticks decides the
outcome, and the end of the program is received once before the wait is over. On any system a
command that starts is run by such a wait, over what is taken of its program in turn; if it does not
start, its outcome has the reason. -/
theorem waits_follow_first_choice :
    (∀ look events s, Waiting.Runs look events s → Sound look events s) ∧
    (∀ system setup calls c files child,
      system.start calls (launchOf system setup calls c files) = .ok child →
      let events := (watch setup (system.interrupt calls) child).events
      ∃ s, Waiting.Runs (child.memory 0) events s ∧
        s.wait = (Wait.begin (child.memory 0)).run events ∧
        s.wait.phase = .finished (execute system setup calls c files).outcome) ∧
    (∀ system setup calls c files text,
      system.start calls (launchOf system setup calls c files) = .error text →
      (execute system setup calls c files).outcome = {
        exit := -1, timedOut := false, canceled := false
        output := [], message := text, duration := .zero, peak := 0 } ∧
      (execute system setup calls c files).outcome.succeeded = false ∧
      (execute system setup calls c files).files = files) := by
  refine ⟨fun _ _ _ => sound_of_runs, fun _ _ _ _ _ _ => execute_of_started, ?_⟩
  intro system setup calls c files text refused
  rw [execute_of_refused refused]
  exact ⟨rfl, rfl, rfl⟩

/-- A program that ended well, and just too late. -/
def sampleEnd : Completion := ⟨⟨some 0, true⟩, Text.encode "done", ⟨7⟩⟩

def sampleEvents : List WaitEvent :=
  [.tick (some 9), .tick none, .stopped .timeUp, .completed sampleEnd]

def sampleOver : Waiting :=
  ⟨(Wait.begin (some 5)).run sampleEvents, { sent := true }⟩

/-- Both its end and the end of its time were ready; the latter was taken. -/
theorem sample_runs : Waiting.Runs (some 5) sampleEvents sampleOver := by
  have started : Waiting.Runs (some 5) [] ⟨.begin (some 5), {}⟩ := .start
  have first := started.move (.grows (.tick {}))
  have second := (first.move (.takes rfl (.tick rfl (some 9)))).move (.grows (.tick _))
  have both := ((second.move (.takes rfl (.tick rfl none))).move (.grows (.timeUp _))).move
    (.grows (.completed rfl sampleEnd))
  exact (both.move (.takes rfl (.timeUp rfl))).move (.reaps rfl (.completed rfl))

/-- A system on which every program runs for three seconds, and grows, unless it has no name. -/
def sampleSystem : System where
  start _ l :=
    if l.command.path = "" then .error "exec: no command"
    else .ok {
      ends := some ⟨⟨some 0, true⟩, Text.encode "done", ⟨3000000000⟩⟩
      killed := fun _ => ⟨⟨none, true⟩, [], .zero⟩
      memory := fun time => some (UInt64.ofNat (time / 1000000000 + 1))
      leaves := fun _ => l.files }
  interrupt _ := none

/-- Its memory is looked at before, and after one and after two seconds. -/
theorem sample_follows_time :
    Waiting.Runs (some 5) sampleEvents sampleOver ∧
    sampleOver.wait.phase = .finished
      { exit := -1, timedOut := true, message := "Time expired!", duration := ⟨7⟩, peak := 9 } ∧
    (∀ o, sampleOver.wait.phase = .finished o → Concluded sampleEvents sampleOver o) ∧
    (∃ s, Waiting.Runs (some 1)
        [.tick (some 2), .tick (some 3),
          .completed ⟨⟨some 0, true⟩, Text.encode "done", ⟨3000000000⟩⟩] s ∧
      s.wait.phase = .finished
        { output := Text.encode "done", duration := ⟨3000000000⟩, peak := 3 }) ∧
    (execute sampleSystem {} [] ⟨"", [], none, ""⟩ .standard).outcome =
      { exit := -1, message := "exec: no command" } := by
  obtain ⟨sound, run, refused⟩ := waits_follow_first_choice
  obtain ⟨s, runs, -, finished⟩ :=
    run sampleSystem {} [] ⟨"/bin/true", [], none, ""⟩ .standard _ rfl
  have outcome : (execute sampleSystem {} [] ⟨"/bin/true", [], none, ""⟩ .standard).outcome =
      { output := Text.encode "done", duration := ⟨3000000000⟩, peak := 3 } := by decide +kernel
  rw [outcome] at finished
  refine ⟨sample_runs, rfl, (sound _ _ _ sample_runs).concluded, ⟨s, runs, finished⟩, ?_⟩
  exact (refused sampleSystem {} [] ⟨"", [], none, ""⟩ .standard _ rfl).1

end KernelSweep.Program

import MemoryDashboard.Dashboard.Polling
import MemoryDashboard.Proofs.Dashboard.Publication

/-! # The polling loop under every ordering

Turn after turn, the polling loop waits for whichever comes first: a tick of its interval or a
change on the pause channel. What happens next is up to the environment: the interval's next
tick comes due, a pause flag is sent, the sender is dropped, the select takes a branch that is
ready, or the refresh the loop waits on moves on. Inside a branch the loop may wait
on a refresh cycle; meanwhile the interval may come due, and flags may be sent, to be seen later.

A `PollingSystem` is the loop with its channel and the dashboard it drives, a `DashboardSystem`,
so that the loop's refresh is the dashboard's own, stretch by stretch. An event the loop does not
take up (a branch that is not ready, a move no cycle waits on, a send after the drop) leaves
the system as it is. In every ordering:

* a cycle starts only in a select step that reads the channel as not paused, on a tick or on an
  observed change, and one at a time; so never on a tick that reads paused;
* a tick that reads paused leaves the dashboard paused; an observed change leaves the dashboard's
  pause flag at the value observed, and a resume starts one cycle, after which the interval is
  reset;
* the loop returns exactly when it observes that the sender is gone, every value sent having been
  seen; once the sender is gone, waiting for a change never blocks.

`Stepped` says once what a step can do; the guarantees follow from it, from what each branch
does, and from one invariant on what is left of a branch while its refresh runs.
-/

namespace MemoryDashboard

open Polling

/-! ### The pause flag under the dashboard's own events -/

namespace DashboardSystem

theorem paused_endRun (c : DashboardSystem) (permit : Refresh.Permit) (result : Except String Unit) :
    (c.endRun permit result).2.dashboard.cache.paused = c.dashboard.cache.paused := by
  rw [endRun_eq]
  split <;> simp [beginRun]

theorem paused_step_refresh (c : DashboardSystem) :
    (c.step .refresh).2.dashboard.cache.paused = c.dashboard.cache.paused := by
  cases busy : c.dashboard.gate.busy
  · rw [step_refresh_free busy]
    rfl
  · rw [step_refresh_busy busy]

end DashboardSystem

/-! ### The pause channel -/

namespace Polling.PauseChannel

/-- Waiting for a change gives the newest value, then marked seen, exactly while a value is
unseen; it gives none, leaving the channel as it is, exactly when the sender is gone and every
value seen. -/
theorem changed?_eq_some_iff {ch ch' : PauseChannel} {seen : Option Bool} :
    ch.changed? = some (seen, ch') ↔
      ch.seen ≠ ch.version ∧ seen = some ch.value ∧ ch' = { ch with seen := ch.version } ∨
        ch.seen = ch.version ∧ ch.closed = true ∧ seen = none ∧ ch' = ch := by
  unfold changed?
  by_cases unseen : ch.seen = ch.version
  · cases ch.closed
    · simp [unseen]
    · simp [unseen, @eq_comm _ seen, @eq_comm _ ch']
  · simp [unseen, @eq_comm _ seen, @eq_comm _ ch']

/-- Waiting for a change blocks exactly while every value is seen and the sender is there. -/
theorem changed?_eq_none_iff {ch : PauseChannel} :
    ch.changed? = none ↔ ch.seen = ch.version ∧ ch.closed = false := by
  unfold changed?
  by_cases unseen : ch.seen = ch.version
  · cases ch.closed <;> simp [unseen]
  · simp [unseen]

/-- Once the sender is gone, waiting for a change never blocks. -/
theorem changed?_isSome_of_closed {ch : PauseChannel} (closed : ch.closed = true) :
    ch.changed?.isSome = true := by
  cases ready : ch.changed? with
  | none => simp [changed?_eq_none_iff.mp ready |>.2] at closed
  | some => rfl

end Polling.PauseChannel

/-! ### The loop and its environment -/

/-- Where the polling loop is: in its select, inside a refresh cycle with what is left of its
branch, or returned. -/
inductive LoopPhase where
  | selecting
  | cycling (rest : List LoopAction)
  | returned
  deriving DecidableEq

/-- What may be left of a branch while its refresh runs: nothing, after a tick, or the interval's
reset, after a resume. -/
def LoopPhase.Sound : LoopPhase → Prop
  | .cycling rest => rest = [] ∨ rest = [.resetInterval]
  | _ => True

/-- The polling loop with its pause channel and the dashboard it drives: whether the interval's
next tick is due, where the loop is, and how many refresh cycles it has started. -/
structure PollingSystem where
  system : DashboardSystem
  channel : PauseChannel
  tickDue : Bool := true
  phase : LoopPhase := .selecting
  cycles : Nat := 0

/-- What may happen next. -/
inductive PollingEvent where
  /-- The interval's next tick comes due. -/
  | interval
  /-- A pause flag is sent. -/
  | send (paused : Bool)
  | dropSender
  /-- The select takes the tick branch. -/
  | tick
  /-- The select takes the change branch. -/
  | change
  /-- The refresh the loop waits on moves on. -/
  | advance (move : RefreshRun.Move)

namespace PollingSystem

/-- The loop as it starts: the channel holds `paused`, seen, and the first tick is due at once. -/
def start (prefs : Prefs.PrefsSession) (paused : Bool) : PollingSystem :=
  { system := .start prefs, channel := { value := paused } }

/-- The dashboard's pause flag. -/
def paused (s : PollingSystem) : Bool := s.system.dashboard.cache.paused

/-- Carries out what a branch decided, in order. A refresh that waits on the backend leaves the
loop inside the cycle with the actions after it; the refresh counts as a cycle however it ends. -/
def perform : List LoopAction → PollingSystem → PollingSystem
  | [], s => { s with phase := .selecting }
  | .setPaused paused :: rest, s =>
    perform rest { s with system := (s.system.step (.setPaused paused)).2 }
  | .refresh :: rest, s =>
    let s := { s with system := (s.system.step .refresh).2, cycles := s.cycles + 1 }
    if s.system.waiting.isSome then { s with phase := .cycling rest } else perform rest s
  | .resetInterval :: rest, s => perform rest { s with tickDue := false }
  | .stop :: _, s => { s with phase := .returned }

/-- One step. -/
def step (s : PollingSystem) : PollingEvent → PollingSystem
  | .interval => { s with tickDue := true }
  | .send paused => if s.channel.closed then s else { s with channel := s.channel.send paused }
  | .dropSender => { s with channel := s.channel.close }
  | .tick =>
    if s.phase = .selecting ∧ s.tickDue then
      perform (onTick s.channel.value) { s with tickDue := false }
    else s
  | .change =>
    match s.phase, s.channel.changed? with
    | .selecting, some (seen, channel) => perform (onChange seen) { s with channel }
    | _, _ => s
  | .advance move =>
    match s.phase with
    | .cycling rest =>
      let s := { s with system := (s.system.step (.advance move)).2 }
      if s.system.waiting.isSome then s else perform rest s
    | _ => s

/-- The states some ordering of events reaches from a loop as it starts. -/
inductive Reachable : PollingSystem → Prop
  | start (prefs : Prefs.PrefsSession) (paused : Bool) : Reachable (start prefs paused)
  | step {s : PollingSystem} (reachable : Reachable s) (event : PollingEvent) : Reachable (s.step event)

/-- Whether the loop takes an event up: a send needs the sender; a branch of the select needs the
loop in its select and the branch ready; a move needs the loop inside a cycle. -/
def Takes (s : PollingSystem) : PollingEvent → Prop
  | .send _ => s.channel.closed = false
  | .tick => s.phase = .selecting ∧ s.tickDue = true
  | .change =>
    s.phase = .selecting ∧ (s.channel.seen ≠ s.channel.version ∨ s.channel.closed = true)
  | .advance _ => ∃ rest, s.phase = .cycling rest
  | .interval | .dropSender => True

/-! ### What a step can do -/

/-- What a step can do: nothing, to an event the loop does not take up; mark the next tick due;
send a flag; drop the sender; take the tick branch, which reads the channel as paused or not;
take the change branch, which observes the drop, a pause or a resume; or move the loop's cycle
on, which either goes on or ends the cycle and carries out the rest of the branch. -/
inductive Stepped (s : PollingSystem) : PollingEvent → PollingSystem → Prop
  | stutter {event : PollingEvent} (idle : ¬s.Takes event) : Stepped s event s
  | interval : Stepped s .interval { s with tickDue := true }
  | send (paused : Bool) (held : s.channel.closed = false) :
      Stepped s (.send paused) { s with channel := s.channel.send paused }
  | drop : Stepped s .dropSender { s with channel := s.channel.close }
  | tickPaused (selecting : s.phase = .selecting) (due : s.tickDue = true)
      (reading : s.channel.value = true) :
      Stepped s .tick (perform [.setPaused true] { s with tickDue := false })
  | tickRefresh (selecting : s.phase = .selecting) (due : s.tickDue = true)
      (reading : s.channel.value = false) :
      Stepped s .tick (perform [.refresh] { s with tickDue := false })
  | stop (selecting : s.phase = .selecting) (closed : s.channel.closed = true)
      (allSeen : s.channel.seen = s.channel.version) :
      Stepped s .change { s with phase := .returned }
  | pause (selecting : s.phase = .selecting) (unseen : s.channel.seen ≠ s.channel.version)
      (reading : s.channel.value = true) :
      Stepped s .change
        (perform [.setPaused true] { s with channel := { s.channel with seen := s.channel.version } })
  | resume (selecting : s.phase = .selecting) (unseen : s.channel.seen ≠ s.channel.version)
      (reading : s.channel.value = false) :
      Stepped s .change
        (perform [.setPaused false, .refresh, .resetInterval]
          { s with channel := { s.channel with seen := s.channel.version } })
  | waits {rest : List LoopAction} {move : RefreshRun.Move} (cycling : s.phase = .cycling rest)
      (waiting : (s.system.step (.advance move)).2.waiting.isSome = true) :
      Stepped s (.advance move) { s with system := (s.system.step (.advance move)).2 }
  | ends {rest : List LoopAction} {move : RefreshRun.Move} (cycling : s.phase = .cycling rest)
      (done : (s.system.step (.advance move)).2.waiting = none) :
      Stepped s (.advance move) (perform rest { s with system := (s.system.step (.advance move)).2 })

theorem stepped_tick (s : PollingSystem) : Stepped s .tick (s.step .tick) := by
  by_cases ready : s.phase = .selecting ∧ s.tickDue = true
  · simp only [step, if_pos ready]
    cases reading : s.channel.value
    · exact .tickRefresh ready.1 ready.2 reading
    · exact .tickPaused ready.1 ready.2 reading
  · simp only [step, if_neg ready]
    exact .stutter ready

theorem step_change_of_ready {s : PollingSystem} {seen : Option Bool} {channel : PauseChannel}
    (selecting : s.phase = .selecting) (ready : s.channel.changed? = some (seen, channel)) :
    s.step .change = perform (onChange seen) { s with channel } := by
  simp only [step, selecting, ready]

theorem step_advance_of_cycling {s : PollingSystem} {rest : List LoopAction}
    (cycling : s.phase = .cycling rest) (move : RefreshRun.Move) :
    s.step (.advance move) =
      if (s.system.step (.advance move)).2.waiting.isSome then
        { s with system := (s.system.step (.advance move)).2 }
      else perform rest { s with system := (s.system.step (.advance move)).2 } := by
  simp only [step, cycling]

theorem stepped_change (s : PollingSystem) : Stepped s .change (s.step .change) := by
  cases phase : s.phase with
  | selecting =>
    cases ready : s.channel.changed? with
    | none =>
      -- waiting for a change blocks: every value is seen and the sender is there
      have idle : ¬s.Takes .change := fun ⟨_, taken⟩ => by
        obtain ⟨allSeen, held⟩ := PauseChannel.changed?_eq_none_iff.mp ready
        rcases taken with unseen | closed
        · exact unseen allSeen
        · simp [held] at closed
      simp only [step, phase, ready]
      exact .stutter idle
    | some observed =>
      obtain ⟨seen, channel⟩ := observed
      rw [step_change_of_ready phase ready]
      obtain ⟨unseen, rfl, rfl⟩ | ⟨allSeen, closed, rfl, rfl⟩ :=
        PauseChannel.changed?_eq_some_iff.mp ready
      · rcases Bool.eq_false_or_eq_true s.channel.value with reading | reading
        · rw [show onChange (some s.channel.value) = [.setPaused true] by rw [reading]; rfl]
          exact .pause phase unseen reading
        · rw [show onChange (some s.channel.value) = [.setPaused false, .refresh, .resetInterval] by
            rw [reading]; rfl]
          exact .resume phase unseen reading
      · exact .stop phase closed allSeen
  | cycling _ | returned =>
    simp only [step, phase]
    exact .stutter (by simp [Takes, phase])

theorem stepped_advance (s : PollingSystem) (move : RefreshRun.Move) :
    Stepped s (.advance move) (s.step (.advance move)) := by
  cases phase : s.phase with
  | cycling rest =>
    rw [step_advance_of_cycling phase]
    cases waiting : (s.system.step (.advance move)).2.waiting with
    | none =>
      rw [if_neg (by simp)]
      exact .ends phase waiting
    | some run =>
      rw [if_pos Option.isSome_some]
      exact .waits phase (by rw [waiting]; rfl)
  | selecting | returned =>
    simp only [step, phase]
    exact .stutter (by simp [Takes, phase])

/-- Every step does one of the things `Stepped` lists. -/
theorem stepped (s : PollingSystem) (event : PollingEvent) : Stepped s event (s.step event) := by
  cases event with
  | interval => exact .interval
  | dropSender => exact .drop
  | send paused =>
    cases closed : s.channel.closed
    · simp only [step, closed, Bool.false_eq_true, if_false]
      exact .send paused closed
    · simp only [step, closed, if_true]
      exact .stutter (by simp [Takes, closed])
  | tick => exact stepped_tick s
  | change => exact stepped_change s
  | advance move => exact stepped_advance s move

/-! ### What each branch does -/

section Branches

variable (s : PollingSystem)

/-- The branch that pauses marks the dashboard paused, starts no cycle and selects again. -/
theorem perform_pause :
    (perform [.setPaused true] s).paused = true ∧ (perform [.setPaused true] s).cycles = s.cycles ∧
      (perform [.setPaused true] s).phase = .selecting :=
  ⟨rfl, rfl, rfl⟩

/-- A tick's refresh starts one cycle and leaves the pause flag; the loop waits in the cycle, or
selects again when the refresh returned at once. -/
theorem perform_refresh :
    (perform [.refresh] s).paused = s.paused ∧ (perform [.refresh] s).cycles = s.cycles + 1 ∧
      ((perform [.refresh] s).phase = .cycling [] ∨ (perform [.refresh] s).phase = .selecting) := by
  simp only [perform]
  split
  · exact ⟨DashboardSystem.paused_step_refresh s.system, rfl, .inl rfl⟩
  · exact ⟨DashboardSystem.paused_step_refresh s.system, rfl, .inr rfl⟩

/-- A resume clears the pause flag and starts one cycle; the interval is reset once the cycle
returns. -/
theorem perform_resume :
    (perform [.setPaused false, .refresh, .resetInterval] s).paused = false ∧
      (perform [.setPaused false, .refresh, .resetInterval] s).cycles = s.cycles + 1 ∧
      ((perform [.setPaused false, .refresh, .resetInterval] s).phase = .cycling [.resetInterval] ∨
        (perform [.setPaused false, .refresh, .resetInterval] s).phase = .selecting ∧
          (perform [.setPaused false, .refresh, .resetInterval] s).tickDue = false) := by
  simp only [perform]
  split
  · exact ⟨DashboardSystem.paused_step_refresh _, rfl, .inl rfl⟩
  · exact ⟨DashboardSystem.paused_step_refresh _, rfl, .inr ⟨rfl, rfl⟩⟩

/-- The rest of a branch after its cycle starts none, leaves the pause flag and moves the loop
back to its select; after a resume it resets the interval. -/
theorem perform_rest {rest : List LoopAction} (sound : (LoopPhase.cycling rest).Sound) :
    (perform rest s).phase = .selecting ∧ (perform rest s).cycles = s.cycles ∧
      (perform rest s).paused = s.paused ∧
      (rest = [.resetInterval] → (perform rest s).tickDue = false) := by
  rcases sound with rfl | rfl
  · exact ⟨rfl, rfl, rfl, nofun⟩
  · exact ⟨rfl, rfl, rfl, fun _ => rfl⟩

end Branches

/-! ### The invariant -/

/-- Every step keeps what may be left of a branch while its refresh runs. -/
theorem sound_step {s : PollingSystem} (sound : s.phase.Sound) (event : PollingEvent) :
    (s.step event).phase.Sound := by
  have step := stepped s event
  generalize s.step event = s' at step ⊢
  cases step with
  | stutter | interval | send | drop | waits => exact sound
  | tickPaused | stop | pause => trivial
  | tickRefresh =>
    rcases (perform_refresh _).2.2 with cycling | selecting
    · rw [cycling]
      exact .inl rfl
    · rw [selecting]
      trivial
  | resume =>
    rcases (perform_resume _).2.2 with cycling | ⟨selecting, -⟩
    · rw [cycling]
      exact .inr rfl
    · rw [selecting]
      trivial
  | ends cycling =>
    -- what was left of the branch is one the invariant allows, so the loop selects again
    rw [(perform_rest _ (cycling ▸ sound)).1]
    trivial

theorem Reachable.sound {s : PollingSystem} (reachable : s.Reachable) : s.phase.Sound := by
  induction reachable with
  | start => trivial
  | step _ event sound => exact sound_step sound event

/-! ### The guarantees -/

/-- A cycle starts only in a select step that reads the channel as not paused, on a tick or on an
observed change, and one at a time. -/
theorem cycle_starts_on_reading_running {s : PollingSystem} (sound : s.phase.Sound)
    (event : PollingEvent) (started : (s.step event).cycles ≠ s.cycles) :
    (s.step event).cycles = s.cycles + 1 ∧ s.phase = .selecting ∧ s.channel.value = false ∧
      (event = .tick ∨ event = .change) := by
  have step := stepped s event
  generalize s.step event = s' at step started ⊢
  cases step with
  | tickRefresh selecting _ reading => exact ⟨(perform_refresh _).2.1, selecting, reading, .inl rfl⟩
  | resume selecting _ reading => exact ⟨(perform_resume _).2.1, selecting, reading, .inr rfl⟩
  | tickPaused | pause => exact absurd (perform_pause _).2.1 started
  -- what is left of a branch after its cycle holds no refresh: the invariant
  | ends cycling => exact absurd (perform_rest _ (cycling ▸ sound)).2.1 started
  | stutter | interval | send | drop | stop | waits => exact absurd rfl started

/-- A tick taken while the channel reads paused leaves the dashboard paused. -/
theorem tick_reading_paused_pauses {s : PollingSystem} (selecting : s.phase = .selecting)
    (due : s.tickDue = true) (reading : s.channel.value = true) : (s.step .tick).paused = true := by
  have step := stepped s .tick
  generalize s.step .tick = s' at step ⊢
  cases step with
  | stutter idle => exact (idle ⟨selecting, due⟩).elim
  | tickPaused => exact (perform_pause _).1
  | tickRefresh _ _ running => cases reading.symm.trans running

/-- A change the loop observes leaves the dashboard's pause flag at the value observed; a resume
starts one cycle, and the loop either waits in it with the interval's reset left to do, or
selects again with the interval reset. -/
theorem change_sets_paused_flag {s : PollingSystem} {observed : Bool} {channel : PauseChannel}
    (selecting : s.phase = .selecting) (ready : s.channel.changed? = some (some observed, channel)) :
    (s.step .change).paused = observed ∧
      (observed = false → (s.step .change).cycles = s.cycles + 1 ∧
        ((s.step .change).phase = .cycling [.resetInterval] ∨
          (s.step .change).phase = .selecting ∧ (s.step .change).tickDue = false)) := by
  obtain ⟨unseen, value, -⟩ | ⟨-, -, nothing, -⟩ := PauseChannel.changed?_eq_some_iff.mp ready
  · have value : observed = s.channel.value := Option.some.inj value
    have step := stepped s .change
    generalize s.step .change = s' at step ⊢
    cases step with
    | stutter idle => exact (idle ⟨selecting, .inl unseen⟩).elim
    | stop _ _ allSeen => exact absurd allSeen unseen
    | pause _ _ reading =>
      rw [value, reading]
      exact ⟨(perform_pause _).1, nofun⟩
    | resume _ _ reading =>
      rw [value, reading]
      obtain ⟨paused, cycles, phase⟩ := perform_resume _
      exact ⟨paused, fun _ => ⟨cycles, phase⟩⟩
  · cases nothing

/-- When the cycle a resume started returns, the loop resets the interval before it selects
again. -/
theorem interval_reset_after_resume_cycle {s : PollingSystem} (event : PollingEvent)
    (cycling : s.phase = .cycling [.resetInterval]) (selecting : (s.step event).phase = .selecting) :
    (s.step event).tickDue = false := by
  have step := stepped s event
  generalize s.step event = s' at step selecting ⊢
  cases step with
  | ends cycling' =>
    -- only the move that ends the cycle moves the loop out of it
    rw [cycling] at cycling'
    cases cycling'
    exact (perform_rest _ (.inr rfl)).2.2.2 rfl
  | tickPaused selecting' | tickRefresh selecting' | stop selecting' | pause selecting'
    | resume selecting' =>
    simp [cycling] at selecting'
  | stutter | interval | send | drop | waits => simp [cycling] at selecting

/-- The loop returns exactly when it takes the change branch with the sender gone and every
value sent seen. -/
theorem returns_on_observing_drop {s : PollingSystem} (sound : s.phase.Sound) (event : PollingEvent) :
    (s.step event).phase = .returned ↔
      s.phase = .returned ∨
        event = .change ∧ s.phase = .selecting ∧ s.channel.closed = true ∧
          s.channel.seen = s.channel.version := by
  have step := stepped s event
  generalize s.step event = s' at step ⊢
  cases step with
  | stop selecting closed allSeen => exact iff_of_true rfl (.inr ⟨rfl, selecting, closed, allSeen⟩)
  | stutter idle =>
    refine ⟨.inl, ?_⟩
    rintro (returned | ⟨rfl, selecting, closed, -⟩)
    · exact returned
    -- with the sender gone the change branch is ready, so the step is no stutter
    · exact (idle ⟨selecting, .inr closed⟩).elim
  | interval | send | drop | waits => simp
  | tickPaused selecting => exact iff_of_false (by simp [perform]) (by simp [selecting])
  | tickRefresh selecting =>
    refine iff_of_false ?_ (by simp [selecting])
    rcases (perform_refresh _).2.2 with phase | phase <;> rw [phase] <;> simp
  | pause selecting unseen => exact iff_of_false (by simp [perform]) (by simp [selecting, unseen])
  | resume selecting unseen =>
    refine iff_of_false ?_ (by simp [selecting, unseen])
    rcases (perform_resume _).2.2 with phase | ⟨phase, -⟩ <;> rw [phase] <;> simp
  | ends cycling =>
    exact iff_of_false (by simp [(perform_rest _ (cycling ▸ sound)).1]) (by simp [cycling])

/-- The polling loop under every ordering of interval ticks, sends, the sender's drop, the moves
of its refresh and the select's choices among ready branches:

* a refresh cycle starts only in a select step that reads the channel as not paused, on a tick
  or on an observed change, and one at a time, so never on a tick that reads paused;
* a tick taken while the channel reads paused leaves the dashboard paused;
* an observed change leaves the dashboard's pause flag at the value observed, and a resume starts
  one cycle, after which the interval is reset before the loop selects again;
* the loop returns exactly when it observes that the sender is gone, every value sent having
  been seen, and once the sender is gone waiting for a change never blocks. -/
theorem polling_follows_pause_channel {s : PollingSystem} (reachable : s.Reachable)
    (event : PollingEvent) :
    ((s.step event).cycles ≠ s.cycles →
        (s.step event).cycles = s.cycles + 1 ∧ s.phase = .selecting ∧ s.channel.value = false ∧
          (event = .tick ∨ event = .change)) ∧
      (s.phase = .selecting → s.tickDue = true → s.channel.value = true →
        (s.step .tick).paused = true) ∧
      (∀ observed channel, s.phase = .selecting →
        s.channel.changed? = some (some observed, channel) →
        (s.step .change).paused = observed ∧
          (observed = false → (s.step .change).cycles = s.cycles + 1 ∧
            ((s.step .change).phase = .cycling [.resetInterval] ∨
              (s.step .change).phase = .selecting ∧ (s.step .change).tickDue = false))) ∧
      (s.phase = .cycling [.resetInterval] → (s.step event).phase = .selecting →
        (s.step event).tickDue = false) ∧
      ((s.step event).phase = .returned ↔
        s.phase = .returned ∨
          event = .change ∧ s.phase = .selecting ∧ s.channel.closed = true ∧
            s.channel.seen = s.channel.version) ∧
      (s.channel.closed = true → s.channel.changed?.isSome = true) := by
  have sound := reachable.sound
  exact ⟨cycle_starts_on_reading_running sound event, tick_reading_paused_pauses,
    fun _ _ => change_sets_paused_flag, interval_reset_after_resume_cycle event,
    returns_on_observing_drop sound event, PauseChannel.changed?_isSome_of_closed⟩

/-- A pause the loop has not yet observed still reaches its next tick: the tick reads paused and
pauses the dashboard. -/
theorem tick_after_unobserved_pause_pauses :
    ((start default false).step (.send true)).Reachable ∧
      (((start default false).step (.send true)).step .tick).paused = true :=
  have reachable := Reachable.step (.start default false) (.send true)
  ⟨reachable, (polling_follows_pause_channel reachable .tick).2.1 rfl rfl rfl⟩

end PollingSystem

end MemoryDashboard

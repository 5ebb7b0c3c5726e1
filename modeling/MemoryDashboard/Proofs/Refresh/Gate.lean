import MemoryDashboard.Refresh.Gate

/-! # The refresh gate admits one run and one follow-up

A session of the gate grants permits, refuses claims while a permit is held, finishes permits
and gives them up. Permits follow one protocol: a permit whose finish released it is never
finished again (`allows`). Every session reached that way from a new gate is sound: at most
one permit is held, the gate is busy exactly while one is, and a follow-up is queued only while
the gate is busy.

While a permit is held, no step but its own finish or drop touches it, and each refused claim
only marks the follow-up (`step_frame`, `after_frame`). So the held permit's next finish answers
whether a claim was refused since its run began, however many were, and empties the queue; a
drop instead frees the gate and forgets the follow-up.
-/

namespace MemoryDashboard.Refresh

/-- A finish answers whether a follow-up was queued. -/
theorem Gate.finish_followUp (g : Gate) (p : Permit) : (g.finish p).1 = g.queued := by
  unfold Gate.finish
  cases g.queued <;> rfl

namespace GateSession

/-- Whether permit `n` is held: granted, not given up, and not released by a finish. -/
def holds (s : GateSession) (n : Nat) : Bool :=
  match s.permit? n with
  | some p => !p.released
  | none => false

/-- The permit protocol: a permit that a finish released is never finished again. -/
def allows (s : GateSession) : GateStep → Bool
  | .finish n => (s.permit? n).all (!·.released)
  | _ => true

/-- Takes steps the protocol allows, in order: the session after them, or none when a step is
not allowed or fails. -/
def after (s : GateSession) : List GateStep → Option GateSession
  | [] => some s
  | st :: rest =>
    if s.allows st then
      match s.step st with
      | .ok (_, s') => s'.after rest
      | .error _ => none
    else none

/-- The sessions that allowed steps reach from a new gate. -/
def Reachable (s : GateSession) : Prop := ∃ steps, ({} : GateSession).after steps = some s

/-- A step that neither finishes nor drops permit `n`. -/
def Spares (n : Nat) (st : GateStep) : Prop := st ≠ .finish n ∧ st ≠ .drop n

theorem after_cons {s s' : GateSession} {st : GateStep} {rest : List GateStep}
    (taken : s.after (st :: rest) = some s') :
    ∃ answer s₁, s.allows st = true ∧ s.step st = .ok (answer, s₁) ∧ s₁.after rest = some s' := by
  simp only [after] at taken
  split at taken
  · rename_i allowed
    split at taken
    · rename_i answer s₁ took
      exact ⟨answer, s₁, allowed, took, taken⟩
    · cases taken
  · cases taken

/-! ### Permits of a session -/

theorem lt_of_permit?_eq_some {s : GateSession} {n : Nat} {p : Permit}
    (granted : s.permit? n = some p) : n < s.permits.length := by
  obtain ⟨entry, present, -⟩ := Option.bind_eq_some_iff.mp granted
  exact (List.getElem?_eq_some_iff.mp present).1

theorem holds_iff {s : GateSession} {n : Nat} :
    s.holds n = true ↔ ∃ p, s.permit? n = some p ∧ p.released = false := by
  unfold holds
  cases s.permit? n <;> simp

/-- Replacing one permit leaves the others as they were. -/
theorem permit?_set {s : GateSession} {g : Gate} {n m : Nat}
    (inside : n < s.permits.length) (q : Option Permit) :
    ({ gate := g, permits := s.permits.set n q } : GateSession).permit? m =
      if m = n then q else s.permit? m := by
  simp only [permit?, List.getElem?_set, inside, ↓reduceIte]
  by_cases same : m = n
  · subst same
    cases q <;> simp
  · simp [Ne.symm same, same]

/-- A granted permit takes the next number. -/
theorem permit?_append {s : GateSession} {g : Gate} {m : Nat} (p : Permit) :
    ({ gate := g, permits := s.permits ++ [some p] } : GateSession).permit? m =
      if m = s.permits.length then some p else s.permit? m := by
  simp only [permit?]
  rcases Nat.lt_trichotomy m s.permits.length with before | same | beyond
  · simp [List.getElem?_append_left before, Nat.ne_of_lt before]
  · simp [same]
  · simp [List.getElem?_append_right (Nat.le_of_lt beyond), Nat.ne_of_gt beyond,
      Nat.le_of_lt beyond, Nat.sub_ne_zero_of_lt beyond]

theorem holds_set_ne {s : GateSession} {g : Gate} {n m : Nat}
    (inside : n < s.permits.length) (q : Option Permit) (other : m ≠ n) :
    ({ gate := g, permits := s.permits.set n q } : GateSession).holds m = s.holds m := by
  simp only [holds, permit?_set inside q, other, ↓reduceIte]

/-- Replacing one permit by one held exactly when it was leaves every holder as it was. -/
theorem holds_set_of_same {s : GateSession} {g : Gate} {n : Nat} (inside : n < s.permits.length)
    (q : Option Permit)
    (same : ({ gate := g, permits := s.permits.set n q } : GateSession).holds n = s.holds n) (m : Nat) :
    ({ gate := g, permits := s.permits.set n q } : GateSession).holds m = s.holds m := by
  by_cases here : m = n
  · subst here
    exact same
  · exact holds_set_ne inside q here

/-! ### What one step does -/

theorem step_begin_busy {s : GateSession} (busy : s.gate.busy = true) :
    s.step .begin = .ok (.granted none, { s with gate := { s.gate with queued := true } }) := by
  simp [step, Gate.tryBegin, busy]

theorem step_begin_free {s : GateSession} (free : s.gate.busy = false) :
    s.step .begin = .ok (.granted (some s.permits.length),
      { gate := { s.gate with busy := true }, permits := s.permits ++ [some {}] }) := by
  simp [step, Gate.tryBegin, free]

theorem step_finish {s : GateSession} {n : Nat} {p : Permit} (granted : s.permit? n = some p) :
    s.step (.finish n) = .ok (.finished (s.gate.finish p).1,
      { gate := (s.gate.finish p).2.1, permits := s.permits.set n (some (s.gate.finish p).2.2) }) := by
  simp [step, granted]

theorem step_drop {s : GateSession} {n : Nat} {p : Permit} (granted : s.permit? n = some p) :
    s.step (.drop n) = .ok (.done, { gate := s.gate.release p, permits := s.permits.set n none }) := by
  simp [step, granted]

theorem step_finish_missing {s : GateSession} {n : Nat} (missing : s.permit? n = none) :
    s.step (.finish n) = .error (.noSuchPermit n) := by
  simp [step, missing]

theorem step_drop_missing {s : GateSession} {n : Nat} (missing : s.permit? n = none) :
    s.step (.drop n) = .error (.noSuchPermit n) := by
  simp [step, missing]

/-! ### Soundness -/

/-- **Soundness.** At most one permit is held, the gate is busy exactly while one is, and a
follow-up is queued only while the gate is busy. -/
structure Sound (s : GateSession) : Prop where
  holder_unique : ∀ m n, s.holds m = true → s.holds n = true → m = n
  busy_iff : s.gate.busy = true ↔ ∃ n, s.holds n = true
  queued_busy : s.gate.queued = true → s.gate.busy = true

theorem sound_initial : ({} : GateSession).Sound where
  holder_unique := by simp [holds, permit?]
  busy_iff := by simp [holds, permit?]
  queued_busy := by simp

/-- Once the only held permit is no longer held, none is. -/
theorem Sound.none_held_after {s : GateSession} (sound : s.Sound) {n : Nat}
    (held : s.holds n = true) (q : Option Permit) (g : Gate) (unheld : ∀ p, q = some p → p.released = true)
    (inside : n < s.permits.length) (m : Nat) :
    ({ gate := g, permits := s.permits.set n q } : GateSession).holds m = false := by
  by_cases same : m = n
  · subst same
    cases q with
    | none => simp [holds, permit?_set inside]
    | some p => simp [holds, permit?_set inside, unheld p rfl]
  · rw [holds_set_ne inside q same]
    cases other : s.holds m
    · rfl
    · exact absurd (sound.holder_unique m n other held) same

theorem Sound.begin {s s' : GateSession} {answer : GateAnswer} (sound : s.Sound)
    (took : s.step .begin = .ok (answer, s')) : s'.Sound := by
  cases busy : s.gate.busy
  · rw [step_begin_free busy] at took
    cases took
    -- no permit was held, and the new one is the only one held
    have newOnly : ∀ m, ({ gate := { s.gate with busy := true }, permits := s.permits ++ [some {}] } :
        GateSession).holds m = decide (m = s.permits.length) := by
      intro m
      by_cases last : m = s.permits.length
      · simp [holds, permit?_append, last]
      · have free : s.holds m = false := by
          cases held : s.holds m
          · rfl
          · simp [sound.busy_iff.mpr ⟨m, held⟩] at busy
        simpa [holds, permit?_append, last] using free
    refine ⟨fun m n first second => ?_, ?_, fun _ => rfl⟩
    · simp only [newOnly, decide_eq_true_eq] at first second
      rw [first, second]
    · simp [newOnly]
  · rw [step_begin_busy busy] at took
    cases took
    exact ⟨sound.holder_unique, sound.busy_iff, fun _ => busy⟩

theorem Sound.finish {s s' : GateSession} {n : Nat} {answer : GateAnswer} (sound : s.Sound)
    (allowed : s.allows (.finish n) = true) (took : s.step (.finish n) = .ok (answer, s')) :
    s'.Sound := by
  cases granted : s.permit? n with
  | none => simp [step_finish_missing granted] at took
  | some p =>
      have unreleased : p.released = false := by simpa [allows, granted] using allowed
      have held : s.holds n = true := holds_iff.mpr ⟨p, granted, unreleased⟩
      have inside := lt_of_permit?_eq_some granted
      rw [step_finish granted] at took
      cases took
      cases queued : s.gate.queued
      · -- the run ends: the permit is released and the gate freed
        have freed : ∀ g m, ({ gate := g, permits := s.permits.set n (some { p with released := true }) } :
            GateSession).holds m = false :=
          fun g => sound.none_held_after held _ g (by simp) inside
        simp only [Gate.finish, queued, Bool.false_eq_true, ↓reduceIte]
        exact ⟨fun m _ first => by simp [freed _ m] at first, by simp [freed], fun q => by simp at q⟩
      · -- a follow-up runs: the permit stays held
        have same := holds_set_of_same (g := { s.gate with queued := false }) inside (some p)
          (by simp [holds, permit?_set inside, granted])
        simp only [Gate.finish, queued, ↓reduceIte]
        refine ⟨fun a b => by simpa only [same] using sound.holder_unique a b, ?_, fun _ => ?_⟩
        · simpa only [same] using sound.busy_iff
        · exact sound.busy_iff.mpr ⟨n, held⟩

theorem Sound.drop {s s' : GateSession} {n : Nat} {answer : GateAnswer} (sound : s.Sound)
    (took : s.step (.drop n) = .ok (answer, s')) : s'.Sound := by
  cases granted : s.permit? n with
  | none => simp [step_drop_missing granted] at took
  | some p =>
      have inside := lt_of_permit?_eq_some granted
      rw [step_drop granted] at took
      cases took
      cases released : p.released
      · -- the held permit is given up: the gate is freed and its follow-up dropped
        have held : s.holds n = true := holds_iff.mpr ⟨p, granted, released⟩
        have freed := sound.none_held_after held none {} (by simp) inside
        simp only [Gate.release, released]
        exact ⟨fun m _ first => by simp [freed m] at first, by simp [freed], fun q => by simp at q⟩
      · -- a released permit is gone, and nothing else changes
        have same := holds_set_of_same (g := s.gate) inside none
          (by simp [holds, permit?_set inside, granted, released])
        simp only [Gate.release, released, ↓reduceIte]
        exact ⟨fun a b => by simpa only [same] using sound.holder_unique a b,
          by simpa only [same] using sound.busy_iff, sound.queued_busy⟩

theorem Sound.step {s s' : GateSession} {st : GateStep} {answer : GateAnswer} (sound : s.Sound)
    (allowed : s.allows st = true) (took : s.step st = .ok (answer, s')) : s'.Sound := by
  cases st with
  | begin => exact sound.begin took
  | status =>
      simp only [GateSession.step, Except.ok.injEq, Prod.mk.injEq] at took
      exact took.2 ▸ sound
  | finish n => exact sound.finish allowed took
  | drop n => exact sound.drop took

theorem Sound.after {s s' : GateSession} {steps : List GateStep} (sound : s.Sound)
    (taken : s.after steps = some s') : s'.Sound := by
  induction steps generalizing s with
  | nil =>
      simp only [GateSession.after, Option.some.injEq] at taken
      exact taken ▸ sound
  | cons st rest ih =>
      obtain ⟨answer, s₁, allowed, took, more⟩ := after_cons taken
      exact ih (sound.step allowed took) more

theorem Reachable.sound {s : GateSession} (reachable : s.Reachable) : s.Sound := by
  obtain ⟨steps, taken⟩ := reachable
  exact sound_initial.after taken

/-! ### A held permit under the steps of others -/

/-- While permit `n` is held, a step that spares it keeps it as it is and leaves the gate
busy; a claim marks the follow-up, and nothing else touches the gate. -/
theorem step_frame {s s' : GateSession} {st : GateStep} {answer : GateAnswer} {n : Nat} {p : Permit}
    (sound : s.Sound) (granted : s.permit? n = some p) (unreleased : p.released = false)
    (spares : Spares n st) (allowed : s.allows st = true) (took : s.step st = .ok (answer, s')) :
    s'.permit? n = some p ∧ s'.gate.busy = true ∧ s'.gate.queued = (s.gate.queued || st == .begin) := by
  have held : s.holds n = true := holds_iff.mpr ⟨p, granted, unreleased⟩
  have busy : s.gate.busy = true := sound.busy_iff.mpr ⟨n, held⟩
  cases st with
  | begin =>
      rw [step_begin_busy busy] at took
      cases took
      exact ⟨granted, busy, by simp⟩
  | status =>
      simp only [GateSession.step, Except.ok.injEq, Prod.mk.injEq] at took
      obtain ⟨-, rfl⟩ := took
      exact ⟨granted, busy, by simp⟩
  | finish m =>
      -- another permit still allowed to finish would be a second holder
      have other : m ≠ n := fun same => spares.1 (same ▸ rfl)
      cases grantedOther : s.permit? m with
      | none => simp [step_finish_missing grantedOther] at took
      | some q =>
          have unreleasedOther : q.released = false := by simpa [allows, grantedOther] using allowed
          exact absurd (sound.holder_unique m n (holds_iff.mpr ⟨q, grantedOther, unreleasedOther⟩) held)
            other
  | drop m =>
      have other : m ≠ n := fun same => spares.2 (same ▸ rfl)
      cases grantedOther : s.permit? m with
      | none => simp [step_drop_missing grantedOther] at took
      | some q =>
          -- the dropped permit is not held, so giving it up leaves the gate
          have released : q.released = true := by
            cases unheld : q.released
            · exact absurd (sound.holder_unique m n (holds_iff.mpr ⟨q, grantedOther, unheld⟩) held) other
            · rfl
          rw [step_drop grantedOther] at took
          cases took
          refine ⟨?_, by simp [Gate.release, released, busy], by simp [Gate.release, released]⟩
          rw [permit?_set (lt_of_permit?_eq_some grantedOther), if_neg (Ne.symm other)]
          exact granted

/-- While permit `n` is held, steps that spare it keep it as it is and leave the gate busy,
with a follow-up queued exactly when one was, or when one of the steps was a claim. -/
theorem after_frame {s s' : GateSession} {during : List GateStep} {n : Nat} {p : Permit}
    (sound : s.Sound) (granted : s.permit? n = some p) (unreleased : p.released = false)
    (spared : ∀ st ∈ during, Spares n st) (taken : s.after during = some s') :
    s'.permit? n = some p ∧ s'.gate.busy = true ∧
      s'.gate.queued = (s.gate.queued || during.contains .begin) := by
  induction during generalizing s with
  | nil =>
      simp only [GateSession.after, Option.some.injEq] at taken
      subst taken
      exact ⟨granted, sound.busy_iff.mpr ⟨n, holds_iff.mpr ⟨p, granted, unreleased⟩⟩, by simp⟩
  | cons st rest ih =>
      obtain ⟨answer, s₁, allowed, took, more⟩ := after_cons taken
      obtain ⟨granted₁, -, queued₁⟩ :=
        step_frame sound granted unreleased (spared st List.mem_cons_self) allowed took
      obtain ⟨granted', busy', queued'⟩ :=
        ih (sound.step allowed took) granted₁ (fun st' member => spared st' (List.mem_cons_of_mem _ member))
          more
      refine ⟨granted', busy', ?_⟩
      rw [queued', queued₁, List.contains_cons, Bool.or_assoc, Bool.beq_comm]

/-- Finishing a held permit answers whether a follow-up was queued and empties the queue; the
permit stays held exactly when it answers true. -/
theorem finish_held {s : GateSession} {n : Nat} {p : Permit} (granted : s.permit? n = some p)
    (unreleased : p.released = false) :
    ∃ s', s.step (.finish n) = .ok (.finished s.gate.queued, s') ∧ s'.gate.queued = false ∧
      s'.holds n = s.gate.queued := by
  have inside := lt_of_permit?_eq_some granted
  have answer := step_finish granted
  rw [Gate.finish_followUp] at answer
  refine ⟨_, answer, ?_, ?_⟩ <;> cases queued : s.gate.queued <;>
    simp [Gate.finish, queued, holds, permit?_set inside, unreleased]

/-- Giving up a held permit frees the gate and forgets the follow-up. -/
theorem drop_held {s : GateSession} {n : Nat} {p : Permit} (granted : s.permit? n = some p)
    (unreleased : p.released = false) :
    ∃ s', s.step (.drop n) = .ok (.done, s') ∧ s'.gate = {} := by
  refine ⟨_, step_drop granted, ?_⟩
  simp [Gate.release, unreleased]

/-- In every session reached by the permit protocol, at most one permit is held, the gate is
busy exactly while one is, and a follow-up is queued only while it is busy. While a permit is
held, whatever the other steps, the permit's next finish answers true exactly when a follow-up
was queued when the steps began or a claim was refused among them, however many were; it then
empties the queue, and the permit stays held for exactly that one follow-up run. Giving the
permit up instead frees the gate and forgets the follow-up. -/
theorem gate_admits_one_run_and_one_follow_up {s : GateSession} (reachable : s.Reachable) :
    (∀ m n, s.holds m = true → s.holds n = true → m = n) ∧
      (s.gate.busy = true ↔ ∃ n, s.holds n = true) ∧
      (s.gate.queued = true → s.gate.busy = true) ∧
      ∀ n, s.holds n = true → ∀ during s', s.after during = some s' →
        (∀ st ∈ during, Spares n st) →
        (∃ s'', s'.step (.finish n) = .ok (.finished (s.gate.queued || during.contains .begin), s'') ∧
            s''.gate.queued = false ∧ s''.holds n = (s.gate.queued || during.contains .begin)) ∧
          ∃ s'', s'.step (.drop n) = .ok (.done, s'') ∧ s''.gate = {} := by
  have sound := reachable.sound
  refine ⟨sound.holder_unique, sound.busy_iff, sound.queued_busy, fun n held during s' taken spared => ?_⟩
  obtain ⟨p, granted, unreleased⟩ := holds_iff.mp held
  obtain ⟨granted', -, queued'⟩ := after_frame sound granted unreleased spared taken
  rw [← queued']
  exact ⟨finish_held granted' unreleased, drop_held granted' unreleased⟩

/-- Two claims refused while the first permit runs: its finish answers one follow-up, and the
finish after that follow-up frees the gate. -/
theorem refused_claims_fold_into_one :
    let s : GateSession := { gate := { busy := true }, permits := [some {}] }
    s.Reachable ∧ s.holds 0 = true ∧ s.after [.begin, .status, .begin] =
      some { gate := { busy := true, queued := true }, permits := [some {}] } ∧
      (∀ st ∈ [GateStep.begin, .status, .begin], Spares 0 st) ∧
      (∃ s'', ({ gate := { busy := true, queued := true }, permits := [some {}] } : GateSession).step
          (.finish 0) = .ok (.finished true, s'') ∧ s''.gate.queued = false ∧ s''.holds 0 = true) := by
  intro s
  have reachable : s.Reachable := ⟨[.begin], rfl⟩
  have spared : ∀ st ∈ [GateStep.begin, .status, .begin], Spares 0 st := by
    simp [Spares]
  refine ⟨reachable, rfl, rfl, spared, ?_⟩
  exact ((gate_admits_one_run_and_one_follow_up reachable).2.2.2 0 rfl _ _ rfl spared).1

end GateSession

end MemoryDashboard.Refresh

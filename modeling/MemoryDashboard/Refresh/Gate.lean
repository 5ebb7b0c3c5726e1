/-!
# The refresh gate

One refresh runs at a time. Claiming the gate while a refresh runs fails and queues a single
follow-up; further claims fold into the same follow-up. Finishing a run with a follow-up
queued consumes the follow-up and keeps the gate claimed for it; otherwise it frees the gate.
Giving up a permit that was never released frees the gate and drops any queued follow-up.

A session numbers the permits it was granted, in order, so that later steps can finish or give
up a particular permit.
-/

namespace MemoryDashboard

namespace Refresh

/-- Whether a refresh runs and whether a follow-up is queued. -/
structure Gate where
  busy : Bool := false
  queued : Bool := false
  deriving DecidableEq, Inhabited, Repr

/-- A claim on the gate; released once a finish freed the gate. -/
structure Permit where
  released : Bool := false
  deriving DecidableEq, Inhabited, Repr

namespace Gate

/-- Claims the gate: a permit when it was free, or none, queuing a follow-up. -/
def tryBegin (g : Gate) : Option Permit × Gate :=
  if g.busy then (none, { g with queued := true }) else (some {}, { g with busy := true })

/-- Ends a run: true when a follow-up was queued, which keeps the gate claimed; otherwise the
gate is freed and the permit released. -/
def finish (g : Gate) (p : Permit) : Bool × Gate × Permit :=
  if g.queued then (true, { g with queued := false }, p)
  else (false, { g with busy := false }, { p with released := true })

/-- Gives up a permit: an unreleased permit frees the gate and drops the follow-up. -/
def release (g : Gate) (p : Permit) : Gate :=
  if p.released then g else { busy := false, queued := false }

end Gate

/-- A step of a gate session. -/
inductive GateStep where
  | begin
  | status
  | finish (permit : Nat)
  | drop (permit : Nat)
  deriving DecidableEq, Inhabited, Repr

/-- What a step answers: a permit number (or none), a finish's result, or nothing. -/
inductive GateAnswer where
  | granted (permit : Option Nat)
  | finished (followUp : Bool)
  | done
  deriving DecidableEq, Inhabited, Repr

/-- The gate and the permits granted so far; a permit given up is gone. -/
structure GateSession where
  gate : Gate := {}
  permits : List (Option Permit) := []
  deriving DecidableEq, Inhabited, Repr

/-- Why a step cannot be taken. -/
inductive GateError where
  | noSuchPermit (permit : Nat)
  deriving DecidableEq, Inhabited, Repr

/-- The message of a gate error. -/
def GateError.message : GateError → String
  | .noSuchPermit _ => "no such permit"

namespace GateSession

/-- The permit with a number, when it was granted and not given up. -/
def permit? (s : GateSession) (n : Nat) : Option Permit := (s.permits[n]?).bind id

/-- Takes one step. -/
def step (s : GateSession) : GateStep → Except GateError (GateAnswer × GateSession)
  | .begin =>
    match s.gate.tryBegin with
    | (some p, g) =>
      .ok (.granted (some s.permits.length), { gate := g, permits := s.permits ++ [some p] })
    | (none, g) => .ok (.granted none, { s with gate := g })
  | .status => .ok (.done, s)
  | .finish n =>
    match s.permit? n with
    | some p =>
      let (followUp, g, p) := s.gate.finish p
      .ok (.finished followUp, { gate := g, permits := s.permits.set n (some p) })
    | none => .error (.noSuchPermit n)
  | .drop n =>
    match s.permit? n with
    | some p => .ok (.done, { gate := s.gate.release p, permits := s.permits.set n none })
    | none => .error (.noSuchPermit n)

/-- Takes the steps in order, answering each with the gate after it; the first error ends
the session. -/
def run (s : GateSession) : List GateStep → Except GateError (List (GateAnswer × Gate))
  | [] => .ok []
  | st :: rest => do
    let (answer, s) ← s.step st
    let more ← s.run rest
    return (answer, s.gate) :: more

end GateSession

end Refresh

end MemoryDashboard

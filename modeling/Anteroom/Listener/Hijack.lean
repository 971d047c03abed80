import Anteroom.Pong.Probe
import Anteroom.Time.Ticker

/-!
# Hijacks

A hijack keeps the pong of a listener in line with that of another server, its
target.  At each tick it probes the target, for at most one period; what it
learns goes on the listener's board.  While a probe is open no other is
started, and a probe that fails changes nothing.
-/

namespace Anteroom

/-- A probe of a hijack that has not been decided. -/
structure OpenProbe where
  /-- How many probes the hijack has sent before this one. -/
  serial : Nat
  /-- When the time for an answer is up. -/
  deadline : Nat
  deriving DecidableEq, Repr

/-- A hijack of the pong of another server. -/
structure Hijack where
  /-- Tells the hijacks of a listener apart. -/
  number : Nat
  target : Address
  ticker : Ticker
  /-- The probes sent so far. -/
  sent : Nat := 0
  probe : Option OpenProbe := none
  deriving DecidableEq

namespace Hijack

/-- A hijack that starts at time `now`. -/
def start (number : Nat) (target : Address) (period : Span) (positive : 0 < period.nanos)
    (now : Nat) : Hijack :=
  { number, target, ticker := Ticker.start period.nanos positive now }

/-- The hijack after its next step at time `now`, if there is one: it gives up a probe whose
time is up, or it sends the probe of a tick that is due.  A probe that cannot be sent has
failed at once. -/
def step? (hijack : Hijack) (link : Link) (now : Nat) : Option Hijack :=
  match hijack.probe with
  | some probe => if probe.deadline ≤ now then some { hijack with probe := none } else none
  | none =>
      if hijack.ticker.isDue now then
        if link.reaches hijack.target then
          some { hijack with
            ticker := hijack.ticker.fire now
            sent := hijack.sent + 1
            probe := some { serial := hijack.sent, deadline := now + hijack.ticker.period } }
        else
          some { hijack with ticker := hijack.ticker.skipPast now }
      else
        none

/-- When a hijack may next take a step: when the time of its open probe is up, or else at its
next tick. -/
def alarm (hijack : Hijack) : Nat :=
  match hijack.probe with
  | some probe => probe.deadline
  | none => hijack.ticker.next

/-- The steps a hijack may still take at time `now`. -/
def work (hijack : Hijack) (now : Nat) : Nat :=
  match hijack.probe with
  | some probe => if probe.deadline ≤ now then 2 else 0
  | none => if hijack.ticker.isDue now then 1 else 0

/-- The hijack after a datagram has come to the socket of one of its probes, and the payload it
has learned.  Only the open probe still listens. -/
def hear (hijack : Hijack) (framing : PongFraming) (serial : Nat) (datagram : Bytes) :
    Hijack × Option Bytes :=
  match hijack.probe with
  | none => (hijack, none)
  | some probe =>
      if probe.serial = serial then
        match framing.judge datagram with
        | none => (hijack, none)
        | some (.ok payload) => ({ hijack with probe := none }, some payload)
        | some (.error _) => ({ hijack with probe := none }, none)
      else
        (hijack, none)

/-- A step leaves less to do. -/
theorem work_lt_of_step? {hijack next : Hijack} {link : Link} {now : Nat}
    (step : hijack.step? link now = some next) : next.work now < hijack.work now := by
  have positive := hijack.ticker.period_pos
  cases opened : hijack.probe with
  | some probe =>
      simp only [step?, opened] at step
      split at step
      · rename_i due
        cases step
        simp only [work, opened, due, if_true]
        split <;> omega
      · cases step
  | none =>
      simp only [step?, opened] at step
      split at step
      · rename_i due
        split at step
        · cases step
          have later : ¬ now + hijack.ticker.period ≤ now := by omega
          simp [work, opened, due, later]
        · cases step
          simp [work, opened, due]
      · cases step

end Hijack

end Anteroom

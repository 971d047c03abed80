import Anteroom.Listener.Control

/-!
# Runs

A run of a listener is what becomes of it under a list of commands, one for
each thing that can be done to it from outside.  Commands that need the
listener itself do nothing once the application has let go of it.
-/

namespace Anteroom

/-- Something that is done to a listener from outside. -/
inductive Command
  | deliver (peer : Address) (datagram : Bytes)
  | advance (nanos : Nat)
  | signal (session : Nat) (signal : Signal)
  | answerProbe (hijack serial : Nat) (datagram : Bytes)
  | accept
  | abandon (call : Nat)
  | closeSession (session : Nat)
  | readSession (session : Nat)
  | sendSession (session : Nat) (datagram : Bytes)
  | setPong (payload : Bytes)
  | hijack (names : Names) (endpoint : String)
  | close
  | release

namespace Listener

/-- The listener, unless the application has let go of it, after an operation on it. -/
def ifHeld (l : Listener) (next : Listener) : Listener :=
  if l.released then l else next

/-- The listener after a command. -/
def perform (l : Listener) : Command → Listener
  | .deliver peer datagram => l.deliver peer datagram
  | .advance nanos => l.advance nanos
  | .signal session signal => l.signal session signal
  | .answerProbe hijack serial datagram => l.answerProbe hijack serial datagram
  | .accept => l.ifHeld l.accept
  | .abandon call => (l.abandon call).1
  | .closeSession session => ((l.closeSession session).map Prod.fst).getD l
  | .readSession session => ((l.readSession session).map Prod.fst).getD l
  | .sendSession session datagram => ((l.sendSession session datagram).map Prod.fst).getD l
  | .setPong payload => l.ifHeld ((l.setPong payload).toOption.getD l)
  | .hijack names endpoint => l.ifHeld ((l.hijack names endpoint).toOption.getD l)
  | .close => l.ifHeld l.close.1
  | .release => l.release

/-- The listener after a list of commands. -/
def run (l : Listener) (commands : List Command) : Listener :=
  commands.foldl perform l

/-- A state that some commands lead to from the start. -/
def Reachable (setup : Setup) (l : Listener) : Prop :=
  ∃ commands, l = (start setup).run commands

@[simp]
theorem run_nil (l : Listener) : l.run [] = l :=
  rfl

@[simp]
theorem run_cons (l : Listener) (command : Command) (commands : List Command) :
    l.run (command :: commands) = (l.perform command).run commands :=
  rfl

theorem run_append (l : Listener) (first second : List Command) :
    l.run (first ++ second) = (l.run first).run second :=
  List.foldl_append

/-- The start is reachable. -/
theorem Reachable.start (setup : Setup) : Reachable setup (start setup) :=
  ⟨[], rfl⟩

/-- What a command leads to from a reachable state is reachable. -/
theorem Reachable.perform {setup : Setup} {l : Listener} (reachable : Reachable setup l)
    (command : Command) : Reachable setup (l.perform command) := by
  obtain ⟨commands, rfl⟩ := reachable
  exact ⟨commands ++ [command], by simp [run_append]⟩

end Listener

end Anteroom

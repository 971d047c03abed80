import Anteroom.Listener.Run
import Anteroom.Proofs.Handling

/-!
# What a command does

A command has its effect at once, and then the listener settles.  The effect is
told apart from the settling here, and every way in which it can change a
listener is listed once.  A command that has nothing to act on changes nothing.
-/

namespace Anteroom

namespace Listener

/-- Whether a command may find nothing to act on. -/
def mayIgnore (l : Listener) : Command → Bool
  | .deliver _ _ => false
  | .advance _ => false
  | .signal _ _ => false
  | .accept => l.released
  | .abandon call => !l.isPending call
  | .closeSession session => (l.accepted? session).isNone
  | .readSession session => (l.accepted? session).isNone
  | .close => l.released || l.closed
  | .release => false
  | _ => true

/-- Changes a session that the application has. -/
def alter (l : Listener) (session : Nat) (change : Session → Session) : Listener :=
  match l.accepted? session with
  | some value => l.put session (change value)
  | none => l

/-- What a command does at once, before the listener settles. -/
def issue (l : Listener) : Command → Listener
  | .deliver peer datagram => l.arrive peer datagram
  | .advance nanos => l.elapse nanos
  | .signal session signal => l.fire session signal
  | .answerProbe hijack serial datagram => l.hear hijack serial datagram
  | .accept => l.ifHeld l.join
  | .abandon call => l.leave call
  | .closeSession session => l.alter session fun value => value.close.1
  | .readSession session => l.alter session fun value => value.recv.1
  | .sendSession session datagram => ((l.sendSession session datagram).map Prod.fst).getD l
  | .setPong payload => l.ifHeld ((l.setPong payload).toOption.getD l)
  | .hijack names endpoint =>
      l.ifHeld <|
        if l.shutdown then l
        else
          match Endpoint.resolve names endpoint with
          | .ok target => l.enlist target
          | .error _ => l
  | .close => l.ifHeld (if l.closed then l else l.beginClose)
  | .release => l.letGo

theorem leave_eq_self {l : Listener} {call : Nat} (idle : l.isPending call = false) :
    l.leave call = l := by
  simp only [isPending, Bool.or_eq_false_iff, List.contains_eq_mem, decide_eq_false_iff_not,
    List.any_eq_false, decide_eq_true_eq] at idle
  have noCandidate : l.inHand.find? (·.call = call) = none := by
    simpa using idle.2
  rw [leave, if_neg idle.1, noCandidate]

/-- The effect that a command can have. -/
inductive Issued (l : Listener) : Command → Listener → Prop
  /-- The command has nothing to act on. -/
  | ignored {command : Command} (idle : l.mayIgnore command = true) : Issued l command l
  | arrived {peer : Address} {datagram : Bytes} :
      Issued l (.deliver peer datagram)
        { l with backlog := l.backlog ++ [{ peer, datagram := datagram.received }] }
  | elapsed {nanos : Nat} : Issued l (.advance nanos) { l with now := l.now + nanos }
  | fired {session : Nat} {signal : Signal} :
      Issued l (.signal session signal)
        { l with registry := l.registry.modify session (·.fire signal) }
  /-- A hijack has heard a datagram from which it learns nothing that fits on the board. -/
  | heard {index serial : Nat} {hijack : Hijack} {datagram : Bytes}
      (running : l.shutdown = false) (found : l.hijacks[index]? = some hijack) :
      Issued l (.answerProbe hijack.number serial datagram)
        { l with
          hijacks := l.hijacks.set index
            (hijack.hear l.setup.config.framing serial datagram).1 }
  /-- A hijack has learned a payload, and has written on the board. -/
  | learned {index serial : Nat} {hijack : Hijack} {datagram payload : Bytes} {board : PongBoard}
      (stored : l.board.store (Descriptor.relay payload l.setup.id) = .ok board)
      (running : l.shutdown = false) (found : l.hijacks[index]? = some hijack)
      (gained : (hijack.hear l.setup.config.framing serial datagram).2 = some payload) :
      Issued l (.answerProbe hijack.number serial datagram)
        (({ l with
          board
          hijacks := l.hijacks.set index
            (hijack.hear l.setup.config.framing serial datagram).1
          } : Listener).record
            (.written (some hijack.number) (Descriptor.relay payload l.setup.id)))
  | joined (held : l.released = false) :
      Issued l .accept { l with waiting := l.waiting ++ [l.calls], calls := l.calls + 1 }
  | left {call : Nat} (waits : call ∈ l.waiting) :
      Issued l (.abandon call) { l with waiting := l.waiting.erase call }
  /-- The abandoned call had a candidate in hand. -/
  | lost {candidate : Candidate} (found : candidate ∈ l.inHand) :
      Issued l (.abandon candidate.call)
        { l with
          inHand := l.inHand.erase candidate
          fates := l.fates ++ [(candidate.session, .abandoned)] }
  | closedSession {session : Nat} {value : Session} (found : l.accepted? session = some value) :
      Issued l (.closeSession session)
        { l with registry := l.registry.modify session fun value => value.close.1 }
  | readSession {session : Nat} {value : Session} (found : l.accepted? session = some value) :
      Issued l (.readSession session)
        { l with registry := l.registry.modify session fun value => value.recv.1 }
  | sent {session : Nat} {peer : Address} {datagram : Bytes} :
      Issued l (.sendSession session datagram) (l.record (.sent peer datagram (some session)))
  | wrote {payload : Bytes} {board : PongBoard} (stored : l.board.store payload = .ok board)
      (held : l.released = false) :
      Issued l (.setPong payload)
        (({ l with board } : Listener).record (.written none payload))
  | enlisted {names : Names} {endpoint : String} {target : Address} (running : l.shutdown = false) :
      Issued l (.hijack names endpoint) (l.enlist target)
  | closing (held : l.released = false) (running : l.closed = false) : Issued l .close l.beginClose
  | released : Issued l .release l.letGo

/-- Changing a session that the application has changes it alone. -/
theorem put_eq_modify {l : Listener} {session : Nat} {value : Session}
    (found : l.accepted? session = some value) (change : Session → Session) :
    l.put session (change value) = { l with registry := l.registry.modify session change } := by
  have known : l.registry.session? session = some value := by
    rw [accepted?, Option.ite_none_right_eq_some] at found
    exact found.2
  rw [put, Registry.modify_const known change]

theorem number_of_findIdx? {hijacks : List Hijack} {hijack : Hijack} {number index : Nat}
    (known : hijacks.findIdx? (·.number = number) = some index)
    (found : hijacks[index]? = some hijack) : hijack.number = number := by
  rcases List.findIdx?_eq_some_iff_getElem.mp known with ⟨inside, same, _⟩
  obtain rfl : hijacks[index] = hijack := (List.getElem?_eq_some_iff.mp found).2
  exact of_decide_eq_true same

/-- A command has one of the listed effects. -/
theorem issued_issue (l : Listener) (command : Command) : Issued l command (l.issue command) := by
  cases command with
  | deliver peer datagram => exact .arrived
  | advance nanos => exact .elapsed
  | signal session signal => exact .fired
  | answerProbe number serial datagram =>
      simp only [issue, hear]
      split
      · exact .ignored rfl
      · rename_i running
        have running := Bool.eq_false_iff.mpr running
        split
        · exact .ignored rfl
        · rename_i index known
          split
          · exact .ignored rfl
          · rename_i hijack found
            obtain rfl : hijack.number = number := number_of_findIdx? known found
            split
            · exact .heard running found
            · rename_i payload gained
              simp only [learn]
              split
              · rename_i stored
                exact .learned stored running found gained
              · exact .heard running found
  | accept =>
      simp only [issue, ifHeld]
      split
      · rename_i released
        exact .ignored released
      · rename_i held
        exact .joined (Bool.eq_false_iff.mpr held)
  | abandon call =>
      simp only [issue, leave]
      split
      · rename_i waits
        exact .left waits
      · split
        · rename_i candidate found
          obtain rfl : candidate.call = call := by simpa using List.find?_some found
          exact .lost (List.mem_of_find?_eq_some found)
        · rename_i waits _ absent
          refine .ignored ?_
          simpa [mayIgnore, isPending, waits] using absent
  | closeSession session =>
      simp only [issue, alter]
      split
      · rename_i value found
        rw [put_eq_modify found fun value => value.close.1]
        exact .closedSession found
      · rename_i absent
        exact .ignored (Option.isNone_iff_eq_none.mpr absent)
  | readSession session =>
      simp only [issue, alter]
      split
      · rename_i value found
        rw [put_eq_modify found fun value => value.recv.1]
        exact .readSession found
      · rename_i absent
        exact .ignored (Option.isNone_iff_eq_none.mpr absent)
  | sendSession session datagram =>
      simp only [issue, Listener.sendSession]
      cases l.accepted? session with
      | none => exact .ignored rfl
      | some value =>
          cases sends : value.send l.setup.link datagram with
          | error error => simpa [sends] using Issued.ignored (l := l) rfl
          | ok _ => simpa [sends] using Issued.sent
  | setPong payload =>
      simp only [issue, ifHeld, Listener.setPong]
      split
      · exact .ignored rfl
      · rename_i held
        cases stored : l.board.store payload with
        | error error => exact .ignored rfl
        | ok board => exact .wrote stored (Bool.eq_false_iff.mpr held)
  | hijack names endpoint =>
      simp only [issue, ifHeld]
      split
      · exact .ignored rfl
      · split
        · exact .ignored rfl
        · rename_i running
          split
          · exact .enlisted (Bool.eq_false_iff.mpr running)
          · exact .ignored rfl
  | close =>
      simp only [issue, ifHeld]
      split
      · rename_i released
        exact .ignored (by rw [mayIgnore, released, Bool.true_or])
      · rename_i held
        split
        · rename_i closed
          exact .ignored (by rw [mayIgnore, closed, Bool.or_true])
        · rename_i running
          exact .closing (Bool.eq_false_iff.mpr held) (Bool.eq_false_iff.mpr running)
  | release => exact .released

end Listener

end Anteroom

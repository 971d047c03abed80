import Anteroom.Proofs.Registry
import Anteroom.Proofs.Schedule

/-!
# Which sessions are registered

A session is registered from its creation for as long as it is open: it leaves
the table only after it has closed, and nothing that was started for an older
session of the same peer takes it out.  The reason is that a session is created
only when the lookup of its peer has found nothing, and that everything that
removes an entry has seen the session of this very entry closed.
-/

namespace Anteroom.Listener

/-! ## What becomes of the registry -/

theorem Issued.became {l next : Listener} {command : Command} (issued : Issued l command next) :
    l.registry.Became l.shutdown next.registry := by
  cases issued with
  | fired => exact .changed fun session _ => session.advances_fire _
  | closedSession => exact .changed fun session _ => session.advances_close
  | readSession => exact .changed fun session _ => session.advances_recv
  | _ => exact .same

/-- No command creates a session at once. -/
theorem Issued.created {l next : Listener} {command : Command} (issued : Issued l command next) :
    next.created = l.created := by
  cases issued with
  | fired | closedSession | readSession => exact Registry.length_modify ..
  | _ => rfl

theorem registry_offer (l : Listener) (session : Nat) :
    (l.offer session).registry = l.registry := by
  rw [offer]
  split <;> rfl

theorem sessionOf?_enroll (l : Listener) (session : Session) (address : Address) :
    (l.enroll session).sessionOf? address =
      if address = session.address then some l.created else l.sessionOf? address := by
  rw [enroll, sessionOf?, created, Registry.register_add, Table.find?_insert]
  rfl

theorem session?_enroll (l : Listener) (session : Session) (number : Nat) :
    (l.enroll session).registry.session? number =
      if number = l.created then some session else l.registry.session? number := by
  rw [enroll, Registry.session?_register, Registry.session?_add]
  rfl

theorem Handled.became {l next : Listener} {peer : Address} {datagram : Bytes}
    (handled : Handled l peer datagram next) (running : l.shutdown = false) :
    l.registry.Became l.shutdown next.registry := by
  cases handled with
  | @forwarded number session registered found =>
      apply Registry.Became.changed
      intro same known
      rw [found] at known
      cases known
      exact session.advances_receive datagram
  | @negotiated server mtu guid session unregistered decoded reached planned =>
      have free : l.registry.table.find? session.address = none :=
        (Plan.fresh_of_session? planned).1 ▸ unregistered
      rw [registry_offer]
      exact .enrolled running free
  | _ => exact .same

theorem Moved.became {l next : Listener} {move : Move} (moved : Moved l move next) :
    l.registry.Became l.shutdown next.registry := by
  cases moved with
  | expired => exact .expired
  | evicted found closed =>
      apply Registry.Became.evicted
      intro session known
      rw [sessionIs, known] at closed
      exact closed
  | @handled delivery deliveries backlog running =>
      exact (handled_handle { l with backlog := deliveries } _ _).became running
  | _ => exact .same

/-- In a step one of the listed things becomes of the registry. -/
theorem Went.became {l next : Listener} {step : Step} (went : Went l step next) :
    l.registry.Became l.shutdown next.registry := by
  cases went with
  | command issued => exact issued.became
  | move moved => exact moved.became
  | closeSessions => exact .emptied

/-- Along every schedule the registry is sound. -/
theorem sound_follow {setup : Setup} {steps : List Step} {l : Listener}
    (followed : (start setup).follow steps = some l) : l.registry.Sound := by
  apply follow_induction (P := fun l => l.registry.Sound) _ Registry.sound_empty followed
  intro step _ l next sound went
  exact went.became.sound sound

/-- Along every schedule the registry advances. -/
theorem advances_follow {l last : Listener} {steps : List Step}
    (followed : l.follow steps = some last) : l.registry.Advances last.registry := by
  apply follow_induction (P := fun last => l.registry.Advances last.registry) _ (.refl _) followed
  intro step _ middle next before went
  exact before.trans went.became.advances

/-- Handling a datagram takes no entry out of the table. -/
theorem Handled.sessionOf?_eq_some {l next : Listener} {peer : Address} {datagram : Bytes}
    (handled : Handled l peer datagram next) {address : Address} {number : Nat}
    (registered : l.sessionOf? address = some number) : next.sessionOf? address = some number := by
  cases handled with
  | @negotiated server mtu guid session unregistered decoded reached planned =>
      have apart : address ≠ session.address := by
        intro same
        rw [same, (Plan.fresh_of_session? planned).1, unregistered] at registered
        cases registered
      rw [sessionOf?, registry_offer]
      refine (sessionOf?_enroll l session address).trans ?_
      rw [if_neg apart]
      exact registered
  | _ => exact registered

/-- A move takes an entry out of the table only for the watcher of this very session or because
its time to complete is up; the session is closed then. -/
theorem Moved.removed {l next : Listener} {move : Move} (moved : Moved l move next)
    (sound : l.registry.Sound) {address : Address} {number : Nat}
    (registered : l.sessionOf? address = some number)
    (gone : next.sessionOf? address ≠ some number) :
    next.sessionOf? address = none ∧ next.sessionIs number Session.isClosed = true ∧
      ((∃ index, move = .evict index ∧ l.watched[index]? = some number) ∨
        ∃ index candidate, move = .resolve index ∧ l.inHand[index]? = some candidate ∧
          candidate.session = number) := by
  cases moved with
  | @expired index candidate found =>
      rcases sound.removed_unregister_closeSession registered gone with ⟨rfl, free⟩
      rcases sound.keyed registered with ⟨session, known, _⟩
      have closed : (((l.registry.closeSession candidate.session).1.unregister
          candidate.session).1.session? candidate.session).any Session.isClosed = true := by
        rw [Registry.session?_unregister, Registry.session?_closeSession, if_pos rfl, known]
        exact session.isClosed_close
      exact ⟨free, closed, .inr ⟨index, candidate, rfl, found, rfl⟩⟩
  | @evicted index watched found closed =>
      rcases sound.removed_unregister registered gone with ⟨rfl, free⟩
      refine ⟨free, ?_, .inl ⟨index, rfl, found⟩⟩
      rw [sessionIs, Registry.session?_unregister]
      exact closed
  | @handled delivery deliveries =>
      have handled :=
        handled_handle { l with backlog := deliveries } delivery.peer delivery.datagram
      exact absurd (handled.sessionOf?_eq_some registered) gone
  | _ => exact absurd registered gone

/-- A session is found under the address of its peer for as long as it is open, along every
schedule.  The entries of the table are those of their sessions' own addresses; a session that is
created displaces no entry; and an entry goes, other than with the whole table at the end, only
on account of its own session, which has closed. -/
theorem open_session_registered {setup : Setup} {steps : List Step} {l : Listener}
    (followed : (start setup).follow steps = some l) :
    (∀ address number, (address, number) ∈ l.registry.table →
      ∃ session, l.registry.session? number = some session ∧ session.address = address) ∧
    (∀ number session, l.registry.session? number = some session → session.isClosed = false →
      l.sessionOf? session.address = some number) ∧
    (∀ step next, l.after? step = some next → next.created ≠ l.created →
      ∃ session, next.registry = ((l.registry.add session).register l.created).1 ∧
        ((l.registry.add session).register l.created).2 = none) ∧
    (∀ move next address number, l.move? move = some next →
      l.sessionOf? address = some number → next.sessionOf? address ≠ some number →
        next.sessionOf? address = none ∧ next.sessionIs number Session.isClosed = true ∧
          ((∃ index, move = .evict index ∧ l.watched[index]? = some number) ∨
            ∃ index candidate, move = .resolve index ∧ l.inHand[index]? = some candidate ∧
              candidate.session = number)) := by
  have sound := sound_follow followed
  refine ⟨?_, ?_, ?_, ?_⟩
  · intro address number entry
    exact sound.keyed ((Table.find?_eq_some_iff sound.unique).mpr entry)
  · intro number session known running
    exact sound.live known running
  · intro step next after more
    rcases (went_of_after? after).became.created_or with same | ⟨_, session, free, enrolled⟩
    · exact absurd same more
    · exact ⟨session, enrolled, (congrArg Prod.snd (Registry.register_add _ _)).trans free⟩
  · intro move next address number enabled registered gone
    exact (moved_of_move? enabled).removed sound registered gone

/-- The session of a client that has ended its handshake is registered. -/
theorem open_session_registered_of_handshake :
    ∃ l, (start .plain).follow (handshake (.v4 0x7F000001 4000)) = some l ∧
      ∃ session, l.registry.session? 0 = some session ∧ session.isClosed = false ∧
        l.sessionOf? session.address = some 0 := by
  have followed : (start .plain).follow (handshake (.v4 0x7F000001 4000)) = some _ := rfl
  exact ⟨_, followed, _, rfl, rfl, (open_session_registered followed).2.1 0 _ rfl rfl⟩

end Anteroom.Listener

import Anteroom.Proofs.Closings
import Anteroom.Proofs.Forwarding

/-!
# Who stands in the table

A session stands in the table from its creation on.  It leaves the table on
account of the accept call that gets it: the call returns it, and from then on
a watcher takes it out as soon as it closes, or the call lets its time run out,
and closes it and takes it out.  Before that nobody watches a session, so one
that closes while it waits to be accepted keeps its entry, and the datagrams of
its peer still go to it.
-/

namespace Anteroom

/-- A session that is new after an enrolment is the one that has been enrolled, and it is
registered. -/
theorem Registry.registered_enroll {registry : Registry} {created session : Session} {number : Nat}
    (new : registry.session? number = none)
    (known : ((registry.add created).register registry.sessions.length).1.session? number =
      some session) :
    number = registry.sessions.length ∧
      ((registry.add created).register registry.sessions.length).1.table.find? session.address =
        some number := by
  rw [session?_register, session?_add] at known
  split at known
  · rename_i last
    cases known
    rw [register_add, Table.find?_insert, if_pos rfl, last]
    exact ⟨rfl, rfl⟩
  · rw [new] at known
    cases known

namespace Listener

/-! ## What a step does to the table -/

/-- An accept call returns a session in a step. -/
structure Accepts (l next : Listener) (number call : Nat) : Prop where
  running : l.shutdown = false
  complete : l.sessionIs number Session.isComplete = true
  held : ∃ candidate ∈ l.inHand, candidate.call = call ∧ candidate.session = number
  watched : number ∈ next.watched

/-- A session that has been returned after a step had been returned before it or is returned in
it. -/
theorem Went.returned_or {l next : Listener} {step : Step} (went : Went l step next)
    {number call : Nat} (met : (number, Fate.returned call) ∈ next.fates) :
    (number, Fate.returned call) ∈ l.fates ∨ l.Accepts next number call := by
  cases went.served with
  | abandon issued => cases issued <;> exact .inl (by simpa using met)
  | pull moved =>
      cases moved
      exact .inl met
  | resolve moved =>
      cases moved with
      | dropped => exact .inl (by simpa [record] using met)
      | expired => exact .inl (by simpa [record] using met)
      | accepted found running complete =>
          rcases List.mem_append.mp met with before | new
          · exact .inl before
          · cases List.mem_singleton.mp new
            apply Or.inr
            constructor
            · exact running
            · exact complete
            · exact ⟨_, List.mem_of_getElem? found, rfl, rfl⟩
            · exact List.mem_append_right _ List.mem_cons_self
  | other untouched => exact .inl (untouched.mem_fates Fate.noConfusion met)

/-- Only a session that is returned gets a watcher. -/
theorem Went.watched_or {l next : Listener} {step : Step} (went : Went l step next)
    {number : Nat} (watched : number ∈ next.watched) :
    number ∈ l.watched ∨ ∃ call, (number, Fate.returned call) ∈ next.fates := by
  cases went with
  | command issued => cases issued <;> exact .inl watched
  | move moved =>
      cases moved with
      | accepted =>
          rcases List.mem_append.mp watched with before | new
          · exact .inl before
          · cases List.mem_singleton.mp new
            exact .inr ⟨_, List.mem_append_right _ List.mem_cons_self⟩
      | evicted => exact .inl (List.mem_of_mem_eraseIdx watched)
      | handled =>
          rw [(handled_handle _ _ _).eq_update] at watched
          exact .inl watched
      | _ => exact .inl watched
  | closeSessions => exact .inl watched

/-- A watcher ends only when its session has closed and left the table. -/
theorem Went.watching {l next : Listener} {step : Step} (went : Went l step next)
    (sound : l.registry.Sound) {number : Nat} (watched : number ∈ l.watched) :
    number ∈ next.watched ∨ next.registry.Retired number := by
  cases went with
  | command issued => cases issued <;> exact .inl watched
  | move moved =>
      cases moved with
      | accepted => exact .inl (List.mem_append_left _ watched)
      | @evicted index other found closed =>
          rcases List.mem_cons.mp ((perm_eraseIdx found).mem_iff.mp watched) with same | kept
          · subst same
            rw [sessionIs, Option.any_eq_true] at closed
            rcases closed with ⟨session, known, closed⟩
            refine .inr ⟨session, (Registry.session?_unregister ..).trans known, closed, ?_⟩
            rw [sound.find?_unregister]
            split
            · exact Option.some_ne_none number ∘ Eq.symm
            · assumption
          · exact .inl kept
      | handled =>
          rw [(handled_handle _ _ _).eq_update]
          exact .inl watched
      | _ => exact .inl watched
  | closeSessions => exact .inl watched

/-- The table loses an entry only to the watcher of its session, to the accept call that lets the
time of its session run out, or to a shutdown. -/
theorem Went.removed {l next : Listener} {step : Step} (went : Went l step next)
    (sound : l.registry.Sound) {address : Address} {number : Nat}
    (registered : l.sessionOf? address = some number)
    (gone : next.sessionOf? address ≠ some number) :
    number ∈ l.watched ∨ (number, Fate.expired) ∈ next.fates ∨ l.closed = true := by
  cases went with
  | command issued => cases issued <;> exact absurd registered gone
  | move moved =>
      cases moved with
      | @expired index candidate found =>
          rcases sound.removed_unregister_closeSession registered gone with ⟨rfl, _⟩
          exact .inr (.inl (List.mem_append_right _ List.mem_cons_self))
      | @evicted index other found =>
          rcases sound.removed_unregister registered gone with ⟨rfl, _⟩
          exact .inl (List.mem_of_getElem? found)
      | @handled delivery deliveries =>
          have handled :=
            handled_handle { l with backlog := deliveries } delivery.peer delivery.datagram
          exact absurd (handled.sessionOf?_eq_some registered) gone
      | _ => exact absurd registered gone
  | closeSessions stopped =>
      simp only [isStopped, Bool.and_eq_true] at stopped
      exact .inr (.inr stopped.1.1.1)

/-! ## Along every schedule -/

/-- No accept call has returned the session or let its time run out. -/
def Unserved (l : Listener) (number : Nat) : Prop :=
  (∀ call, (number, Fate.returned call) ∉ l.fates) ∧ (number, Fate.expired) ∉ l.fates

theorem Awaits.unserved {l : Listener} {number : Nat} (awaits : l.Awaits number)
    (placed : l.Placed) : l.Unserved number :=
  ⟨fun _ => awaits.not_met placed _, awaits.not_met placed _⟩

/-- What is known of the table along every schedule: who has been returned was complete and is
watched until it has left the table, and nobody else leaves the table unless its time has run
out. -/
structure Roster (l : Listener) : Prop where
  complete : ∀ {number call : Nat}, (number, Fate.returned call) ∈ l.fates →
    l.sessionIs number Session.isComplete = true
  returned : ∀ {number : Nat}, number ∈ l.watched → ∃ call, (number, Fate.returned call) ∈ l.fates
  watched : ∀ {number call : Nat}, (number, Fate.returned call) ∈ l.fates →
    number ∈ l.watched ∨ l.registry.Retired number
  listed : l.shutdown = false → ∀ {number : Nat} {session : Session},
    l.registry.session? number = some session → l.Unserved number →
      l.sessionOf? session.address = some number

theorem roster_start (setup : Setup) : (start setup).Roster where
  complete met := by cases met
  returned watched := by cases watched
  watched met := by cases met
  listed _ _ _ known := by cases known

theorem sessionIs_mono {l next : Listener} {test : Session → Bool}
    (advances : l.registry.Advances next.registry)
    (keeps : ∀ {before after : Session}, before.Advances after → test before = true →
      test after = true) {number : Nat} (holds : l.sessionIs number test = true) :
    next.sessionIs number test = true := by
  rw [sessionIs, Option.any_eq_true] at holds ⊢
  rcases holds with ⟨session, known, holds⟩
  rcases advances.sessions known with ⟨later, still, advance⟩
  exact ⟨later, still, keeps advance holds⟩

theorem Went.listed {l next : Listener} {step : Step} (went : Went l step next)
    (closes : l.ClosesOnce) (roster : l.Roster) (running : next.shutdown = false) {number : Nat}
    {session : Session} (known : next.registry.session? number = some session)
    (unserved : next.Unserved number) : next.sessionOf? session.address = some number := by
  have tracked := closes.tracked
  have before : l.shutdown = false := by
    cases shut : l.shutdown with
    | false => rfl
    | true => exact absurd ((went.shutdown shut).symm.trans running) (by decide)
  cases was : l.registry.session? number with
  | some earlier =>
      rcases went.became.advances.sessions was with ⟨later, still, advance⟩
      rw [known] at still
      cases still
      have fresh : l.Unserved number :=
        ⟨fun call met => unserved.1 call (went.fates tracked met),
          fun met => unserved.2 (went.fates tracked met)⟩
      have registered := roster.listed before was fresh
      rw [advance.address]
      by_contra gone
      rcases went.removed tracked.sound registered gone with watched | expired | closed
      · rcases roster.returned watched with ⟨call, met⟩
        exact fresh.1 call met
      · exact unserved.2 expired
      · exact absurd ((closes.shut closed).symm.trans before) (by decide)
  | none =>
      rcases went.became.created_or with same | ⟨_, created, _, enrolled⟩
      · have inside := (List.getElem?_eq_some_iff.mp known).1
        rw [same] at inside
        exact absurd inside (Nat.not_lt.mpr (List.getElem?_eq_none_iff.mp was))
      · rw [sessionOf?, enrolled]
        rw [enrolled] at known
        exact (Registry.registered_enroll was known).2

theorem Went.roster {l next : Listener} {step : Step} (went : Went l step next)
    (closes : l.ClosesOnce) (roster : l.Roster) : next.Roster := by
  have tracked := closes.tracked
  have advances := went.became.advances
  constructor
  · intro number call met
    rcases went.returned_or met with before | accepts
    · exact sessionIs_mono advances Session.Advances.completed (roster.complete before)
    · exact sessionIs_mono advances Session.Advances.completed accepts.complete
  · intro number watched
    rcases went.watched_or watched with before | returned
    · rcases roster.returned before with ⟨call, met⟩
      exact ⟨call, went.fates tracked met⟩
    · exact returned
  · intro number call met
    rcases went.returned_or met with before | accepts
    · rcases roster.watched before with watched | retired
      · exact went.watching tracked.sound watched
      · exact .inr (retired.mono advances)
    · exact .inl accepts.watched
  · exact fun running => went.listed closes roster running

theorem roster_follow {setup : Setup} {steps : List Step} {l : Listener}
    (followed : (start setup).follow steps = some l) : l.ClosesOnce ∧ l.Roster := by
  apply follow_induction (P := fun l => l.ClosesOnce ∧ l.Roster) _ _ followed
  · rintro step _ l next ⟨closes, roster⟩ went
    exact ⟨went.closesOnce closes, went.roster closes roster⟩
  · exact ⟨closesOnce_start setup, roster_start setup⟩

/-! ## Who is registered -/

/-- In a listener that has not been shut down a session that has not been served waits, unless the
accept call that had it in hand has been abandoned. -/
theorem Tracked.awaits_or_abandoned {l : Listener} (tracked : l.Tracked)
    (running : l.shutdown = false) {number : Nat} {session : Session}
    (known : l.registry.session? number = some session) (unserved : l.Unserved number) :
    l.Awaits number ∨ (number, .abandoned) ∈ l.fates := by
  have inside : number ∈ List.range l.created :=
    List.mem_range.mpr (List.getElem?_eq_some_iff.mp known).1
  rcases List.mem_map.mp (tracked.placed.mem_iff.mpr inside) with ⟨⟨_, place⟩, listed, rfl⟩
  rcases Listener.mem_whereabouts.mp listed with
    ⟨holding, _⟩ | ⟨waits, _⟩ | ⟨candidate, found, own, _⟩ | ⟨fate, met, _⟩
  · exact .inl (.held holding)
  · exact .inl (.queued waits)
  · subst own
    exact .inl (awaits_of_inHand found)
  · cases fate with
    | returned call => exact absurd met (unserved.1 call)
    | expired => exact absurd met unserved.2
    | discarded => exact absurd ((tracked.borne _ met).symm.trans running) (by decide)
    | abandoned => exact .inr met

/-- A served session that has closed has left the table of a settled listener. -/
theorem Roster.retired {l : Listener} (roster : l.Roster) (tracked : l.Tracked)
    (settled : l.Settled) {number : Nat} {session : Session}
    (known : l.registry.session? number = some session) (closed : session.isClosed = true)
    (served : ¬ l.Unserved number) : l.registry.Retired number := by
  by_cases expired : (number, Fate.expired) ∈ l.fates
  · exact tracked.borne _ expired
  · have returned : ∃ call, (number, Fate.returned call) ∈ l.fates := by
      by_contra never
      exact served ⟨fun call met => never ⟨call, met⟩, expired⟩
    rcases returned with ⟨call, met⟩
    rcases roster.watched met with watched | retired
    · rcases List.getElem?_of_mem watched with ⟨index, found⟩
      have seen : l.sessionIs number Session.isClosed = true := by
        rw [sessionIs, known]
        exact closed
      exact absurd (Moved.evicted found seen) settled.not_moved
    · exact retired

/-- Nothing is handed to a session that has left the table. -/
theorem handed_retired {l last : Listener} {steps : List Step} (sound : l.registry.Sound)
    {number : Nat} (retired : l.registry.Retired number) (followed : l.follow steps = some last) :
    last.registry.handed number = l.registry.handed number := by
  suffices all : last.registry.Sound ∧ last.registry.Retired number ∧
      last.registry.handed number = l.registry.handed number from all.2.2
  apply follow_induction (P := fun s => s.registry.Sound ∧ s.registry.Retired number ∧
    s.registry.handed number = l.registry.handed number) _ ⟨sound, retired, rfl⟩ followed
  rintro step _ s next ⟨sound, retired, handed⟩ went
  have nothing : s.gives step number = [] := by
    rw [gives, List.map_eq_nil_iff, List.filter_eq_nil_iff]
    intro delivery _ registered
    rw [decide_eq_true_eq] at registered
    rcases sound.keyed registered with ⟨session, known, keyed⟩
    exact retired.unregistered known (keyed ▸ registered)
  refine ⟨went.became.sound sound, retired.mono went.became.advances, ?_⟩
  rw [went.handed sound number, nothing, List.append_nil, handed]

/-- A session that is registered has not been served or is open. -/
theorem Roster.registered_iff {l : Listener} (roster : l.Roster) (tracked : l.Tracked)
    (settled : l.Settled) (running : l.shutdown = false) {number : Nat} {session : Session}
    (known : l.registry.session? number = some session) :
    l.sessionOf? session.address = some number ↔
      l.Unserved number ∨
        (∃ call, .returned call number ∈ l.events) ∧ session.isClosed = false := by
  constructor
  · intro registered
    by_cases unserved : l.Unserved number
    · exact .inl unserved
    · apply Or.inr
      constructor
      · by_contra never
        apply unserved
        constructor
        · intro call met
          exact never ⟨call, tracked.returned_iff.mpr met⟩
        · intro expired
          exact Registry.Retired.unregistered (tracked.borne _ expired) known registered
      · cases closed : session.isClosed with
        | false => rfl
        | true =>
            have retired := roster.retired tracked settled known closed unserved
            exact absurd registered (retired.unregistered known)
  · rintro (unserved | ⟨_, unclosed⟩)
    · exact roster.listed running known unserved
    · exact tracked.sound.live known unclosed

/-- In a settled listener that has not been shut down, the table has the sessions that no accept
call has served yet, open or closed, and those that have been returned and are open.  So a closed
session that is registered waits to be served, or the call that had it in hand has been abandoned;
one that has been served has left the table for good, and a handshake message of its peer is
answered as such again unless a newer session of the peer is registered. -/
theorem registered_iff_unserved_or_open {setup : Setup} {steps : List Step} {l : Listener}
    (followed : (start setup).follow steps = some l) (settled : l.Settled)
    (running : l.shutdown = false) :
    (∀ number session, l.registry.session? number = some session →
      (l.sessionOf? session.address = some number ↔
        l.Unserved number ∨
          (∃ call, .returned call number ∈ l.events) ∧ session.isClosed = false)) ∧
    (∀ number session, l.registry.session? number = some session → session.isClosed = true →
      l.sessionOf? session.address = some number →
        l.Awaits number ∨ (number, .abandoned) ∈ l.fates) ∧
    (∀ number session, l.registry.session? number = some session → session.isClosed = true →
      ¬ l.Unserved number → ∀ later last, l.follow later = some last →
        last.sessionOf? session.address ≠ some number ∧
        last.registry.handed number = l.registry.handed number ∧
        (last.sessionOf? session.address = none → ∀ datagram message,
          Message.decodeInbound datagram = .ok message →
            last.handle session.address datagram =
              (last.record (.handled session.address datagram none)).answer session.address
                message)) := by
  obtain ⟨closes, roster⟩ := roster_follow followed
  have tracked := closes.tracked
  have retired : ∀ {number : Nat} {session : Session}, l.registry.session? number = some session →
      session.isClosed = true → ¬ l.Unserved number → l.registry.Retired number :=
    fun known closed served => roster.retired tracked settled known closed served
  refine ⟨?_, ?_, ?_⟩
  · intro number session known
    exact roster.registered_iff tracked settled running known
  · intro number session known closed registered
    apply tracked.awaits_or_abandoned running known
    by_contra served
    exact (retired known closed served).unregistered known registered
  · intro number session known closed served later last went
    have gone := retired known closed served
    have advances := advances_follow went
    rcases advances.sessions known with ⟨after, still, advance⟩
    refine ⟨?_, handed_retired tracked.sound gone went, ?_⟩
    · rw [← advance.address]
      exact (gone.mono advances).unregistered still
    · intro free datagram message decoded
      exact handle_of_unregistered free decoded

/-- The session of a client completes, is returned, and closes; then a connection request of the
client is answered as such. -/
theorem registered_iff_unserved_or_open_of_return :
    ∃ l, Reachable .plain l ∧ l.Settled ∧ l.shutdown = false ∧
      l.sessionIs 0 Session.isClosed = true ∧ l.sessionOf? (.v4 0x7F000001 4000) ≠ some 0 ∧
      l.handle (.v4 0x7F000001 4000) (Message.openConnectionRequest1 10 400).encode =
        (l.record (.handled (.v4 0x7F000001 4000) (Message.openConnectionRequest1 10 400).encode
          none)).answer (.v4 0x7F000001 4000) (.openConnectionRequest1 10 400) := by
  have reachable : Reachable .plain ((start .plain).run
      [.deliver (.v4 0x7F000001 4000)
          (Message.openConnectionRequest2 (.v4 0x7F000001 19132) 1400 9).encode,
        .deliver (.v4 0x7F000001 4000) [0x84], .accept, .signal 0 .closed]) := ⟨_, rfl⟩
  rcases exists_follow_run (start .plain)
      [.deliver (.v4 0x7F000001 4000)
          (Message.openConnectionRequest2 (.v4 0x7F000001 19132) 1400 9).encode,
        .deliver (.v4 0x7F000001 4000) [0x84], .accept, .signal 0 .closed] with
    ⟨steps, followed, _⟩
  generalize ran : (start .plain).run _ = l at reachable followed
  have facts : l.shutdown = false ∧ (l.registry.session? 0).map Session.address =
        some (.v4 0x7F000001 4000) ∧ l.sessionIs 0 Session.isClosed = true ∧
      l.fates = [(0, .returned 0)] ∧ l.sessionOf? (.v4 0x7F000001 4000) = none := by
    rw [← ran]
    decide +kernel
  rcases facts with ⟨running, address, closed, fates, free⟩
  rcases Option.map_eq_some_iff.mp address with ⟨session, known, address⟩
  have isClosed : session.isClosed = true := by
    rw [sessionIs, known] at closed
    exact closed
  have served : ¬ l.Unserved 0 := by
    intro unserved
    apply unserved.1 0
    rw [fates]
    exact List.mem_cons_self
  have left := (registered_iff_unserved_or_open followed reachable.settled running).2.2 0 session
    known isClosed served [] l rfl
  rw [address] at left
  exact ⟨l, reachable, reachable.settled, running, closed, left.1,
    left.2.2 free _ _ (by decide +kernel)⟩

/-- A session that closes before an accept call gets it keeps its peer out: it stays registered,
and the first connection request of its peer is forwarded to it and refused. -/
theorem closed_session_registered :
    ∃ l, Reachable .plain l ∧ l.Settled ∧ l.closed = false ∧ l.released = false ∧
      l.sessionIs 0 Session.isClosed = true ∧ l.sessionOf? (.v4 0x7F000001 4000) = some 0 ∧
      (l.perform (.deliver (.v4 0x7F000001 4000)
          (Message.openConnectionRequest1 10 400).encode)).events =
        l.events ++
          [.handled (.v4 0x7F000001 4000) (Message.openConnectionRequest1 10 400).encode (some 0),
            .reported (.v4 0x7F000001 4000) (.session (.closed (.v4 0x7F000001 4000)))] := by
  have reachable : Reachable .plain ((start .plain).run
      [.deliver (.v4 0x7F000001 4000)
          (Message.openConnectionRequest2 (.v4 0x7F000001 19132) 1400 9).encode,
        .signal 0 .closed]) := ⟨_, rfl⟩
  refine ⟨_, reachable, reachable.settled, ?_⟩
  decide +kernel

end Listener

end Anteroom

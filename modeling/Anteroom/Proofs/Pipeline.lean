import Mathlib.Data.List.Perm.Basic
import Mathlib.Logic.ExistsUnique
import Anteroom.Proofs.Candidates
import Anteroom.Proofs.Registration

/-!
# Where sessions are

A session goes from the read loop through the queue and the hands of an accept
call to its fate.  Each of these places is a list, and all the lists together
name each session that has been created once: a step takes a session out of one
list only to put it into the next one.  So no session is lost on the way, and
none is returned twice.
-/

namespace Anteroom

/-- Where a session can be. -/
inductive Place
  /-- The read loop holds it. -/
  | held
  | queued
  | inHand (call : Nat)
  | gone (fate : Fate)
  deriving DecidableEq

/-- The session that an accept call has returned. -/
def Event.returned? : Event → Option Nat
  | .returned _ session => some session
  | _ => none

/-- The fate that an event tells of. -/
def Event.fate? : Event → Option (Nat × Fate)
  | .returned call session => some (session, .returned call)
  | .expired session => some (session, .expired)
  | _ => none

/-- Whether an event tells of a fate when it is met. -/
def Fate.isTold : Fate → Bool
  | .returned _ => true
  | .expired => true
  | _ => false

/-- The session of a fate that is to have been returned. -/
def Fate.returned? : Nat × Fate → Option Nat
  | (number, .returned _) => some number
  | _ => none

theorem Event.Answers.silent {peer : Address} {event : Event} (answers : event.Answers peer) :
    event.fate? = none := by
  cases event with
  | sent | reported => rfl
  | _ => exact answers.elim

namespace Listener

/-- The sessions and where they are. -/
def whereabouts (l : Listener) : List (Nat × Place) :=
  l.loop.held?.toList.map (·, .held) ++ l.queue.map (·, .queued) ++
    l.inHand.map (fun candidate => (candidate.session, .inHand candidate.call)) ++
    l.fates.map fun entry => (entry.1, .gone entry.2)

/-- The sessions in the order of their places. -/
def placed (l : Listener) : List Nat :=
  l.whereabouts.map Prod.fst

/-- Every session that has been created is in one place. -/
def Placed (l : Listener) : Prop :=
  l.placed.Perm (List.range l.created)

theorem count_placed (l : Listener) (number : Nat) :
    l.placed.count number =
      l.loop.held?.toList.count number + l.queue.count number +
        (l.inHand.map Candidate.session).count number + (l.fates.map Prod.fst).count number := by
  simp [placed, whereabouts, Function.comp_def, Nat.add_assoc]

theorem placed_iff {l : Listener} :
    l.Placed ↔ ∀ number, l.placed.count number = (List.range l.created).count number :=
  List.perm_iff_count

theorem Placed.count_eq_one {l : Listener} (placed : l.Placed) {number : Nat}
    (created : number < l.created) : l.placed.count number = 1 := by
  rw [placed_iff.mp placed]
  exact List.count_eq_one_of_mem List.nodup_range (List.mem_range.mpr created)

theorem count_map_erase {candidates : List Candidate} {candidate : Candidate}
    (found : candidate ∈ candidates) (number : Nat) :
    (candidates.map Candidate.session).count number =
      ((candidates.erase candidate).map Candidate.session).count number +
        [candidate.session].count number := by
  have split := ((List.perm_cons_erase found).map Candidate.session).count_eq number
  rw [split, List.map_cons, ← List.singleton_append, List.count_append, Nat.add_comm]

theorem perm_eraseIdx {α : Type} {items : List α} {item : α} {index : Nat}
    (found : items[index]? = some item) : items.Perm (item :: items.eraseIdx index) := by
  rcases List.getElem?_eq_some_iff.mp found with ⟨inside, rfl⟩
  exact (List.getElem_cons_eraseIdx_perm inside).symm

theorem count_map_eraseIdx {candidates : List Candidate} {candidate : Candidate} {index : Nat}
    (found : candidates[index]? = some candidate) (number : Nat) :
    (candidates.map Candidate.session).count number =
      ((candidates.eraseIdx index).map Candidate.session).count number +
        [candidate.session].count number := by
  have split := ((perm_eraseIdx found).map Candidate.session).count_eq number
  rw [split, List.map_cons, ← List.singleton_append, List.count_append, Nat.add_comm]

/-- What moves no session and creates none keeps every session in its place. -/
theorem Placed.of_eq {l next : Listener} (placed : l.Placed) (same : next.placed = l.placed)
    (created : next.created = l.created) : next.Placed := by
  rw [Placed, same, created]
  exact placed

/-- It is enough that every session is counted as often as before, if none is created. -/
theorem Placed.of_count {l next : Listener} (placed : l.Placed) (created : next.created = l.created)
    (counts : ∀ number, next.placed.count number = l.placed.count number) : next.Placed := by
  rw [placed_iff, created]
  intro number
  exact (counts number).trans (placed_iff.mp placed number)

theorem Issued.placed {l next : Listener} {command : Command} (issued : Issued l command next)
    (placed : l.Placed) : next.Placed := by
  have created := issued.created
  cases issued with
  | @lost candidate found =>
      apply placed.of_count created
      intro number
      have moved := count_map_erase found number
      simp only [count_placed, List.map_append, List.count_append, List.map_cons, List.map_nil]
      omega
  | _ => exact placed.of_eq rfl created

/-- Offering a session puts it in one place. -/
theorem count_offer {l : Listener} (reading : l.loop = .reading) (session number : Nat) :
    (l.offer session).placed.count number = l.placed.count number + [session].count number := by
  rw [offer]
  split
  · simp only [count_placed, List.count_append]
    omega
  · simp only [count_placed, reading, ReadLoop.held?, Option.toList_some, Option.toList_none,
      List.count_nil]
    omega

theorem created_enroll (l : Listener) (session : Session) :
    (l.enroll session).created = l.created + 1 := by
  rw [enroll, created, created, Registry.register_add]
  exact List.length_append

theorem created_offer (l : Listener) (session : Nat) : (l.offer session).created = l.created := by
  rw [offer]
  split <;> rfl

theorem Handled.placed {l next : Listener} {peer : Address} {datagram : Bytes}
    (handled : Handled l peer datagram next) (reading : l.loop = .reading) (placed : l.Placed) :
    next.Placed := by
  cases handled with
  | forwarded => exact placed.of_eq rfl (Registry.length_modify ..)
  | failed =>
      refine placed.of_count rfl ?_
      intro number
      simp only [count_placed, reading]
      rfl
  | @negotiated server mtu guid session =>
      rw [placed_iff, created_offer]
      intro number
      have created := created_enroll l session
      calc
        _ = l.placed.count number + [l.created].count number :=
          count_offer (l := (l.enroll session).recordAll _) reading l.created number
        _ = (List.range (l.created + 1)).count number := by
          rw [List.range_succ, List.count_append, placed_iff.mp placed number]
        _ = _ := by rw [← created]; rfl
  | _ => exact placed

theorem count_map_fst (sessions : List Nat) (fate : Fate) (number : Nat) :
    ((sessions.map (·, fate)).map Prod.fst).count number = sessions.count number := by
  simp [Function.comp_def]

/-- A candidate that is taken out of the hands of its accept call and given a fate is moved. -/
theorem Placed.taken {l next : Listener} {index : Nat} {candidate : Candidate} {fate : Fate}
    (placed : l.Placed) (found : l.inHand[index]? = some candidate)
    (created : next.created = l.created) (loop : next.loop = l.loop) (queue : next.queue = l.queue)
    (inHand : next.inHand = l.inHand.eraseIdx index)
    (fates : next.fates = l.fates ++ [(candidate.session, fate)]) : next.Placed := by
  apply placed.of_count created
  intro number
  have taken := count_map_eraseIdx found number
  simp only [count_placed, loop, queue, inHand, fates, List.map_append, List.count_append,
    List.map_cons, List.map_nil]
  omega

theorem created_retire (l : Listener) (session : Nat) :
    ((l.registry.closeSession session).1.unregister session).1.sessions.length = l.created := by
  rw [Registry.sessions_unregister, Registry.length_closeSession, created]

theorem Moved.placed {l next : Listener} {move : Move} (moved : Moved l move next)
    (placed : l.Placed) : next.Placed := by
  cases moved with
  | stopped =>
      refine placed.of_count rfl ?_
      intro number
      simp only [count_placed, List.map_append, List.count_append, count_map_fst, ReadLoop.held?,
        Option.toList_none, List.count_nil]
      omega
  | drained =>
      refine placed.of_count rfl ?_
      intro number
      simp only [count_placed, List.map_append, List.count_append, count_map_fst, List.count_nil]
      omega
  | dropped found => exact placed.taken found rfl rfl rfl rfl rfl
  | accepted found => exact placed.taken found rfl rfl rfl rfl rfl
  | expired found => exact placed.taken found (created_retire l _) rfl rfl rfl rfl
  | @evicted index number =>
      exact placed.of_eq rfl (congrArg List.length (Registry.sessions_unregister l.registry number))
  | pulled waiting queue =>
      refine placed.of_count rfl ?_
      intro number
      simp only [count_placed, record, queue, List.map_append, List.count_append, List.count_cons,
        List.map_cons, List.map_nil, List.count_nil]
      omega
  | enqueued holding =>
      refine placed.of_count rfl ?_
      intro number
      simp only [count_placed, holding, ReadLoop.held?, Option.toList_some, Option.toList_none,
        List.count_append, List.count_nil]
      omega
  | handled backlog running reading => exact (handled_handle _ _ _).placed reading placed
  | _ => exact placed

theorem Went.placed {l next : Listener} {step : Step} (went : Went l step next)
    (placed : l.Placed) : next.Placed := by
  cases went with
  | command issued => exact issued.placed placed
  | move moved => exact moved.placed placed
  | closeSessions => exact placed.of_eq rfl (Registry.length_closeEach ..)

theorem placed_start (setup : Setup) : (start setup).Placed :=
  List.Perm.nil

/-! ## Fates -/

/-- What the fate of a session says about the listener. -/
def Bears (l : Listener) (number : Nat) : Fate → Prop
  | .expired => l.registry.Retired number
  | .discarded => l.shutdown = true
  | _ => True

/-- The events and the fates that a step adds: the events tell of the fates. -/
structure Fated (l next : Listener) (events : List Event) (fates : List (Nat × Fate)) : Prop where
  history : next.events = l.events ++ events
  met : next.fates = l.fates ++ fates
  told : events.filterMap Event.fate? = fates.filter fun entry => entry.2.isTold
  borne : ∀ entry ∈ fates, next.Bears entry.1 entry.2

/-- A step that adds no fate. -/
theorem Fated.silent {l next : Listener} {events : List Event}
    (history : next.events = l.events ++ events) (met : next.fates = l.fates)
    (silent : ∀ event ∈ events, event.fate? = none) : Fated l next events [] where
  history := history
  met := met.trans (List.append_nil _).symm
  told := List.filterMap_eq_nil_iff.mpr silent
  borne entry member := by cases member

/-- A step that adds nothing. -/
theorem Fated.still {l next : Listener} (history : next.events = l.events)
    (met : next.fates = l.fates) : Fated l next [] [] :=
  .silent (history.trans (List.append_nil _).symm) met (List.forall_mem_nil _)

theorem Fated.discarded {l next : Listener} {sessions : List Nat}
    (history : next.events = l.events) (met : next.fates = l.fates ++ sessions.map (·, .discarded))
    (shut : next.shutdown = true) : Fated l next [] (sessions.map (·, .discarded)) where
  history := history.trans (List.append_nil _).symm
  met := met
  told := by simp [Fate.isTold]
  borne := by
    intro entry member
    rcases List.mem_map.mp member with ⟨session, _, rfl⟩
    exact shut

theorem Issued.fated {l next : Listener} {command : Command} (issued : Issued l command next) :
    ∃ events fates, Fated l next events fates := by
  cases issued with
  | learned => exact ⟨_, _, .silent (events_record _ _) rfl (List.forall_mem_singleton.mpr rfl)⟩
  | sent => exact ⟨_, _, .silent (events_record _ _) rfl (List.forall_mem_singleton.mpr rfl)⟩
  | wrote => exact ⟨_, _, .silent (events_record _ _) rfl (List.forall_mem_singleton.mpr rfl)⟩
  | @lost candidate found =>
      refine ⟨[], [(candidate.session, .abandoned)], (List.append_nil _).symm, rfl, rfl, ?_⟩
      exact List.forall_mem_singleton.mpr trivial
  | _ => exact ⟨_, _, .still rfl rfl⟩

theorem events_offer (l : Listener) (session : Nat) : (l.offer session).events = l.events := by
  rw [offer]
  split <;> rfl

theorem fates_offer (l : Listener) (session : Nat) : (l.offer session).fates = l.fates := by
  rw [offer]
  split <;> rfl

theorem Handled.fated {l next : Listener} {peer : Address} {datagram : Bytes}
    (handled : Handled l peer datagram next) : ∃ events fates, Fated l next events fates := by
  cases handled with
  | forwarded =>
      refine ⟨_, _, .silent (events_recordAll _ _) rfl ?_⟩
      simp [Event.fate?]
  | unclaimed =>
      exact ⟨_, _, .silent (events_recordAll _ _) rfl (List.forall_mem_singleton.mpr rfl)⟩
  | answered unregistered answers =>
      refine ⟨_, _, .silent (events_recordAll _ _) rfl (List.forall_mem_cons.mpr ⟨rfl, ?_⟩)⟩
      intro event member
      exact (answers event member).silent
  | failed =>
      refine ⟨_, _, .silent (events_recordAll _ _) rfl ?_⟩
      simp [Event.fate?]
  | negotiated =>
      refine ⟨_, _, .silent ((events_offer _ _).trans (events_recordAll _ _)) (fates_offer _ _) ?_⟩
      simp [Event.fate?]

/-- A session in the hands of an accept call exists. -/
theorem Placed.known {l : Listener} (placed : l.Placed) {candidate : Candidate}
    (found : candidate ∈ l.inHand) :
    ∃ session, l.registry.session? candidate.session = some session := by
  have listed : candidate.session ∈ l.placed := by
    simp only [Listener.placed, whereabouts, List.map_append, List.map_map, List.mem_append]
    exact .inl (.inr (List.mem_map_of_mem found))
  have inside := List.mem_range.mp (placed.mem_iff.mp listed)
  exact ⟨_, List.getElem?_eq_getElem inside⟩

theorem Moved.fated {l next : Listener} {move : Move} (moved : Moved l move next)
    (sound : l.registry.Sound) (placed : l.Placed) : ∃ events fates, Fated l next events fates := by
  cases moved with
  | stopped shut going => exact ⟨_, _, .discarded rfl rfl shut⟩
  | drained shut ended full => exact ⟨_, _, .discarded rfl rfl shut⟩
  | refused => exact ⟨_, _, .silent (events_record _ _) rfl (List.forall_mem_singleton.mpr rfl)⟩
  | @dropped index candidate found shut =>
      refine ⟨_, [(candidate.session, .discarded)], events_record _ _, rfl, rfl, ?_⟩
      exact List.forall_mem_singleton.mpr shut
  | @accepted index candidate found =>
      refine ⟨_, [(candidate.session, .returned candidate.call)], events_record _ _, rfl, rfl, ?_⟩
      exact List.forall_mem_singleton.mpr trivial
  | @expired index candidate found =>
      rcases placed.known (List.mem_of_getElem? found) with ⟨session, known⟩
      refine ⟨_, [(candidate.session, .expired)], events_record _ _, rfl, rfl, ?_⟩
      exact List.forall_mem_singleton.mpr (Registry.retired_unregister_closeSession sound known)
  | hijackWent =>
      refine ⟨_, _, .silent (events_recordAll _ _) rfl ?_⟩
      intro event member
      split at member
      · rw [List.mem_singleton.mp member]
        rfl
      · cases member
  | pulled => exact ⟨_, _, .silent (events_record _ _) rfl (List.forall_mem_singleton.mpr rfl)⟩
  | @handled delivery deliveries =>
      obtain ⟨events, fates, history, met, told, borne⟩ :=
        (handled_handle { l with backlog := deliveries } delivery.peer delivery.datagram).fated
      exact ⟨events, fates, history, met, told, borne⟩
  | _ => exact ⟨_, _, .still rfl rfl⟩

/-- A step adds events that tell of the fates it adds. -/
theorem Went.fated {l next : Listener} {step : Step} (went : Went l step next)
    (sound : l.registry.Sound) (placed : l.Placed) : ∃ events fates, Fated l next events fates := by
  cases went with
  | command issued => exact issued.fated
  | move moved => exact moved.fated sound placed
  | closeSessions =>
      refine ⟨_, _, .silent (events_recordAll _ _) rfl ?_⟩
      intro event member
      rcases List.mem_map.mp member with ⟨session, _, rfl⟩
      rfl

/-- No step takes a shutdown back. -/
theorem Went.shutdown {l next : Listener} {step : Step} (went : Went l step next)
    (shut : l.shutdown = true) : next.shutdown = true := by
  cases went with
  | command issued =>
      cases issued with
      | closing => rfl
      | _ => exact shut
  | move moved => exact moved.shutdown shut
  | closeSessions => exact shut

theorem follow_shutdown {l last : Listener} {steps : List Step} (shut : l.shutdown = true)
    (followed : l.follow steps = some last) : last.shutdown = true := by
  apply follow_induction (P := fun l => l.shutdown = true) _ shut followed
  intro step _ l next shut went
  exact went.shutdown shut

/-- What a fate says stays true. -/
theorem Bears.mono {l next : Listener} {step : Step} {number : Nat} {fate : Fate}
    (bears : l.Bears number fate) (went : Went l step next) : next.Bears number fate := by
  cases fate with
  | expired => exact Registry.Retired.mono bears went.became.advances
  | discarded => exact went.shutdown bears
  | _ => trivial

/-- What is known of the sessions along every schedule: they are registered while they are open,
each is in one place, and their fates are told and are what they say. -/
structure Tracked (l : Listener) : Prop where
  sound : l.registry.Sound
  placed : l.Placed
  told : l.events.filterMap Event.fate? = l.fates.filter fun entry => entry.2.isTold
  borne : ∀ entry ∈ l.fates, l.Bears entry.1 entry.2

theorem tracked_start (setup : Setup) : (start setup).Tracked where
  sound := Registry.sound_empty
  placed := placed_start setup
  told := rfl
  borne := List.forall_mem_nil _

theorem Went.tracked {l next : Listener} {step : Step} (went : Went l step next)
    (tracked : l.Tracked) : next.Tracked := by
  rcases went.fated tracked.sound tracked.placed with ⟨events, fates, history, met, told, borne⟩
  constructor
  · exact went.became.sound tracked.sound
  · exact went.placed tracked.placed
  · rw [history, met, List.filterMap_append, List.filter_append, tracked.told, told]
  · rw [met]
    intro entry member
    rcases List.mem_append.mp member with before | new
    · exact (tracked.borne entry before).mono went
    · exact borne entry new

theorem tracked_follow {setup : Setup} {steps : List Step} {l : Listener}
    (followed : (start setup).follow steps = some l) : l.Tracked := by
  apply follow_induction (P := Tracked) _ (tracked_start setup) followed
  intro step _ l next tracked went
  exact went.tracked tracked

/-- What has happened stays in the history. -/
theorem Went.mem_events {l next : Listener} {step : Step} (went : Went l step next)
    (tracked : l.Tracked) {event : Event} (told : event ∈ l.events) : event ∈ next.events := by
  rcases went.fated tracked.sound tracked.placed with ⟨_, _, events, _, _, _⟩
  rw [events]
  exact List.mem_append_left _ told

/-- Fates are final. -/
theorem Went.fates {l next : Listener} {step : Step} (went : Went l step next)
    (tracked : l.Tracked) {entry : Nat × Fate} (met : entry ∈ l.fates) : entry ∈ next.fates := by
  rcases went.fated tracked.sound tracked.placed with ⟨_, _, _, fates, _, _⟩
  rw [fates]
  exact List.mem_append_left _ met

/-- Fates are final along every schedule. -/
theorem fates_follow {l last : Listener} {steps : List Step} (tracked : l.Tracked)
    (followed : l.follow steps = some last) {entry : Nat × Fate} (met : entry ∈ l.fates) :
    entry ∈ last.fates := by
  suffices both : last.Tracked ∧ entry ∈ last.fates from both.2
  apply follow_induction (P := fun s => s.Tracked ∧ entry ∈ s.fates) _ ⟨tracked, met⟩ followed
  rintro step _ s next ⟨tracked, met⟩ went
  exact ⟨went.tracked tracked, went.fates tracked met⟩

/-- A session is abandoned with the accept call that has it in hand. -/
theorem Went.abandoned_or {l next : Listener} {step : Step} (went : Went l step next)
    {number : Nat} (abandoned : (number, Fate.abandoned) ∈ next.fates) :
    (number, Fate.abandoned) ∈ l.fates ∨
      ∃ candidate ∈ l.inHand, step = .command (.abandon candidate.call) ∧
        candidate.session = number := by
  cases went.served with
  | abandon issued =>
      cases issued with
      | @lost candidate found =>
          rcases List.mem_append.mp abandoned with before | new
          · exact .inl before
          · cases List.mem_singleton.mp new
            exact .inr ⟨candidate, found, rfl, rfl⟩
      | _ => exact .inl abandoned
  | pull moved =>
      cases moved
      exact .inl abandoned
  | resolve moved => cases moved <;> exact .inl (by simpa [record] using abandoned)
  | other untouched => exact .inl (untouched.mem_fates Fate.noConfusion abandoned)

/-- Only abandoning an accept call makes a session abandoned. -/
theorem Went.abandoned {l next : Listener} {step : Step} (went : Went l step next)
    (patient : ∀ call, step ≠ .command (.abandon call)) {number : Nat}
    (abandoned : (number, Fate.abandoned) ∈ next.fates) : (number, Fate.abandoned) ∈ l.fates := by
  rcases went.abandoned_or abandoned with before | ⟨candidate, _, same, _⟩
  · exact before
  · exact absurd same (patient candidate.call)

/-! ## Every session is in exactly one place -/

/-- A session is in a place, and what this says about the listener. -/
inductive Kept (l : Listener) (number : Nat) : Place → Prop
  /-- The read loop, which waits for the full queue, holds it. -/
  | held (holding : l.loop = .holding number) (running : l.shutdown = false)
      (full : l.setup.capacity ≤ l.queue.length) : Kept l number .held
  | queued (waits : number ∈ l.queue) : Kept l number .queued
  | inHand {candidate : Candidate} (found : candidate ∈ l.inHand)
      (own : candidate.session = number) : Kept l number (.inHand candidate.call)
  | returned {call : Nat} (told : .returned call number ∈ l.events) :
      Kept l number (.gone (.returned call))
  /-- Its time to complete was up; it has been closed and unregistered. -/
  | expired (told : .expired number ∈ l.events) (retired : l.registry.Retired number) :
      Kept l number (.gone .expired)
  | discarded (met : (number, .discarded) ∈ l.fates) (shut : l.shutdown = true) :
      Kept l number (.gone .discarded)

theorem held?_eq_some_iff {loop : ReadLoop} {session : Nat} :
    loop.held? = some session ↔ loop = .holding session := by
  cases loop <;> simp [ReadLoop.held?]

theorem mem_whereabouts {l : Listener} {number : Nat} {place : Place} :
    (number, place) ∈ l.whereabouts ↔
      (l.loop = .holding number ∧ place = .held) ∨ (number ∈ l.queue ∧ place = .queued) ∨
        (∃ candidate ∈ l.inHand, candidate.session = number ∧ place = .inHand candidate.call) ∨
        ∃ fate, (number, fate) ∈ l.fates ∧ place = .gone fate := by
  simp only [whereabouts, List.mem_append, List.mem_map, Option.mem_toList, held?_eq_some_iff,
    Prod.mk.injEq, Prod.exists, or_assoc]
  constructor
  · rintro (⟨session, holding, rfl, rfl⟩ | ⟨session, waits, rfl, rfl⟩ |
      ⟨candidate, found, rfl, rfl⟩ | ⟨session, fate, met, rfl, rfl⟩)
    · exact .inl ⟨holding, rfl⟩
    · exact .inr (.inl ⟨waits, rfl⟩)
    · exact .inr (.inr (.inl ⟨candidate, found, rfl, rfl⟩))
    · exact .inr (.inr (.inr ⟨fate, met, rfl⟩))
  · rintro (⟨holding, rfl⟩ | ⟨waits, rfl⟩ | ⟨candidate, found, rfl, rfl⟩ | ⟨fate, met, rfl⟩)
    · exact .inl ⟨number, holding, rfl, rfl⟩
    · exact .inr (.inl ⟨number, waits, rfl, rfl⟩)
    · exact .inr (.inr (.inl ⟨candidate, found, rfl, rfl⟩))
    · exact .inr (.inr (.inr ⟨number, fate, met, rfl, rfl⟩))

/-- A settled read loop that holds a session waits for the full queue. -/
theorem Settled.full {l : Listener} (settled : l.Settled) {session : Nat}
    (holding : l.loop = .holding session) :
    l.shutdown = false ∧ l.setup.capacity ≤ l.queue.length := by
  have running : l.shutdown = false := by
    cases shut : l.shutdown with
    | false => rfl
    | true =>
        have going : l.loop.ended = false := by rw [holding]; rfl
        exact absurd (Moved.stopped shut going) settled.not_moved
  refine ⟨running, Nat.not_lt.mp ?_⟩
  intro room
  exact settled.not_moved (.enqueued holding running room)

/-- A fate that is told of has been met, and one that is met is told of. -/
theorem Tracked.told_iff {l : Listener} (tracked : l.Tracked) {number : Nat} {fate : Fate}
    (told : fate.isTold = true) :
    (∃ event ∈ l.events, event.fate? = some (number, fate)) ↔ (number, fate) ∈ l.fates := by
  rw [← List.mem_filterMap, tracked.told, List.mem_filter]
  exact and_iff_left told

theorem Tracked.returned_iff {l : Listener} (tracked : l.Tracked) {number call : Nat} :
    Event.returned call number ∈ l.events ↔ (number, Fate.returned call) ∈ l.fates := by
  rw [← tracked.told_iff rfl]
  constructor
  · intro told
    exact ⟨_, told, rfl⟩
  · rintro ⟨event, told, tells⟩
    cases event with
    | returned =>
        cases tells
        exact told
    | _ => cases tells

theorem Tracked.expired_iff {l : Listener} (tracked : l.Tracked) {number : Nat} :
    Event.expired number ∈ l.events ↔ (number, Fate.expired) ∈ l.fates := by
  rw [← tracked.told_iff rfl]
  constructor
  · intro told
    exact ⟨_, told, rfl⟩
  · rintro ⟨event, told, tells⟩
    cases event with
    | expired =>
        cases tells
        exact told
    | _ => cases tells

theorem Tracked.mem_whereabouts {l : Listener} (tracked : l.Tracked) {number : Nat} {place : Place}
    (kept : l.Kept number place) : (number, place) ∈ l.whereabouts := by
  rw [Listener.mem_whereabouts]
  cases kept with
  | held holding => exact .inl ⟨holding, rfl⟩
  | queued waits => exact .inr (.inl ⟨waits, rfl⟩)
  | inHand found own => exact .inr (.inr (.inl ⟨_, found, own, rfl⟩))
  | returned told => exact .inr (.inr (.inr ⟨_, tracked.returned_iff.mp told, rfl⟩))
  | expired told => exact .inr (.inr (.inr ⟨_, tracked.expired_iff.mp told, rfl⟩))
  | discarded met => exact .inr (.inr (.inr ⟨_, met, rfl⟩))

theorem Tracked.kept {l : Listener} (tracked : l.Tracked) (settled : l.Settled) {number : Nat}
    {place : Place} (patient : (number, Fate.abandoned) ∉ l.fates)
    (listed : (number, place) ∈ l.whereabouts) : l.Kept number place := by
  rcases Listener.mem_whereabouts.mp listed with
    ⟨holding, rfl⟩ | ⟨waits, rfl⟩ | ⟨candidate, found, own, rfl⟩ | ⟨fate, met, rfl⟩
  · rcases settled.full holding with ⟨running, full⟩
    exact .held holding running full
  · exact .queued waits
  · exact .inHand found own
  · have bears := tracked.borne _ met
    cases fate with
    | returned call => exact .returned (tracked.returned_iff.mpr met)
    | expired => exact .expired (tracked.expired_iff.mpr met) bears
    | discarded => exact .discarded met bears
    | abandoned => exact absurd met patient

/-- No session has two places. -/
theorem Placed.unique {l : Listener} (placed : l.Placed) {number : Nat} {place other : Place}
    (first : (number, place) ∈ l.whereabouts) (second : (number, other) ∈ l.whereabouts) :
    place = other := by
  have distinct : l.placed.Nodup := placed.nodup_iff.mpr List.nodup_range
  have same := List.inj_on_of_nodup_map distinct first second rfl
  exact congrArg Prod.snd same

/-- A session meets one fate. -/
theorem Placed.fate_unique {l : Listener} (placed : l.Placed) {number : Nat} {fate other : Fate}
    (met : (number, fate) ∈ l.fates) (also : (number, other) ∈ l.fates) : fate = other := by
  have first : (number, .gone fate) ∈ l.whereabouts :=
    mem_whereabouts.mpr (.inr (.inr (.inr ⟨fate, met, rfl⟩)))
  have second : (number, .gone other) ∈ l.whereabouts :=
    mem_whereabouts.mpr (.inr (.inr (.inr ⟨other, also, rfl⟩)))
  cases placed.unique first second
  rfl

theorem isPending_iff {l : Listener} {call : Nat} :
    l.isPending call = true ↔
      call ∈ l.waiting ∨ ∃ candidate ∈ l.inHand, candidate.call = call := by
  simp [isPending]

/-- A session waits to be served: the read loop holds it, it is queued, or an accept call that is
under way has it in hand. -/
inductive Awaits (l : Listener) (number : Nat) : Prop
  | held (holding : l.loop = .holding number)
  | queued (waits : number ∈ l.queue)
  | inHand {candidate : Candidate} (found : candidate ∈ l.inHand)
      (own : candidate.session = number) (pending : l.isPending candidate.call = true)

theorem awaits_of_inHand {l : Listener} {candidate : Candidate} (found : candidate ∈ l.inHand) :
    l.Awaits candidate.session :=
  .inHand found rfl (isPending_iff.mpr (.inr ⟨candidate, found, rfl⟩))

/-- What has met a fate does not wait any more. -/
theorem Awaits.not_met {l : Listener} (placed : l.Placed) {number : Nat} (awaits : l.Awaits number)
    (fate : Fate) : (number, fate) ∉ l.fates := by
  intro met
  have gone : (number, .gone fate) ∈ l.whereabouts :=
    mem_whereabouts.mpr (.inr (.inr (.inr ⟨fate, met, rfl⟩)))
  cases awaits with
  | held holding => cases placed.unique (mem_whereabouts.mpr (.inl ⟨holding, rfl⟩)) gone
  | queued waits => cases placed.unique (mem_whereabouts.mpr (.inr (.inl ⟨waits, rfl⟩))) gone
  | inHand found own =>
      have hand := mem_whereabouts.mpr (.inr (.inr (.inl ⟨_, found, own, rfl⟩)))
      cases placed.unique hand gone

/-- The sessions that accept calls are told to have returned are those they have returned. -/
theorem Tracked.returned_eq {l : Listener} (tracked : l.Tracked) :
    l.events.filterMap Event.returned? = l.returned := by
  have tells : ∀ event : Event, event.returned? = event.fate?.bind Fate.returned? := by
    intro event
    cases event <;> rfl
  have meets : ∀ entry : Nat × Fate, entry.2.isTold = false → Fate.returned? entry = none := by
    rintro ⟨number, fate⟩ quiet
    cases fate with
    | returned => cases quiet
    | _ => rfl
  calc
    l.events.filterMap Event.returned? =
        (l.events.filterMap Event.fate?).filterMap Fate.returned? := by
      rw [List.filterMap_filterMap]
      exact congrArg (fun tell => l.events.filterMap tell) (funext tells)
    _ = (l.fates.filter fun entry => entry.2.isTold).filterMap Fate.returned? := by
      rw [tracked.told]
    _ = l.fates.filterMap Fate.returned? := by
      rw [List.filterMap_filter]
      refine congrArg (fun tell => l.fates.filterMap tell) (funext fun entry => ?_)
      split
      · rfl
      · rename_i quiet
        exact (meets entry (Bool.eq_false_iff.mpr quiet)).symm
    _ = l.returned := rfl

theorem returned_sublist (l : Listener) : l.returned.Sublist (l.fates.map Prod.fst) := by
  rw [returned]
  induction l.fates with
  | nil => exact .slnil
  | cons entry fates ih =>
      rcases entry with ⟨number, fate⟩
      cases fate with
      | returned => exact ih.cons_cons number
      | _ => exact ih.cons number

/-- No session is returned twice. -/
theorem Tracked.nodup_returned {l : Listener} (tracked : l.Tracked) :
    (l.events.filterMap Event.returned?).Nodup := by
  have distinct : l.placed.Nodup := tracked.placed.nodup_iff.mpr List.nodup_range
  have fates : (l.fates.map Prod.fst).Sublist l.placed := by
    rw [Listener.placed, whereabouts, List.map_append, List.map_map (l := l.fates)]
    exact List.sublist_append_right _ _
  rw [tracked.returned_eq]
  exact distinct.sublist (l.returned_sublist.trans fates)

/-- Along every schedule in which no accept call is abandoned, every session that has been created
is in exactly one place whenever the listener is settled: held by the read loop in front of the
full queue, queued, in the hands of one accept call, returned by one, expired, or discarded by the
shutdown.  All places together name each session once, and no session is returned twice. -/
theorem exists_unique_place {setup : Setup} {steps : List Step} {l : Listener}
    (followed : (start setup).follow steps = some l)
    (patient : ∀ call, .command (.abandon call) ∉ steps) (settled : l.Settled) :
    (∀ number, number < l.created → ∃! place, l.Kept number place) ∧
      l.placed.Perm (List.range l.created) ∧ (l.events.filterMap Event.returned?).Nodup := by
  have tracked := tracked_follow followed
  have kept : ∀ number, (number, Fate.abandoned) ∉ l.fates := by
    intro number
    apply follow_induction (P := fun l => (number, Fate.abandoned) ∉ l.fates) _ _ followed
    · intro step member l next never went abandoned
      refine never (went.abandoned ?_ abandoned)
      rintro call rfl
      exact patient call member
    · exact List.not_mem_nil
  refine ⟨?_, tracked.placed, tracked.nodup_returned⟩
  intro number created
  have listed : number ∈ l.placed := tracked.placed.mem_iff.mpr (List.mem_range.mpr created)
  rcases List.mem_map.mp listed with ⟨⟨_, place⟩, member, rfl⟩
  refine ⟨place, tracked.kept settled (kept _) member, ?_⟩
  intro other also
  exact tracked.placed.unique (tracked.mem_whereabouts also) member

/-- Before any accept call the session of a client is queued. -/
theorem exists_unique_place_of_handshake :
    ∃ l, (start .plain).follow (handshake (.v4 0x7F000001 4000)) = some l ∧ l.created = 1 ∧
      ∃! place, l.Kept 0 place := by
  have followed : (start .plain).follow (handshake (.v4 0x7F000001 4000)) = some _ := rfl
  refine ⟨_, followed, rfl, ?_⟩
  refine (exists_unique_place followed ?_ ?_).1 0 Nat.one_pos
  · intro call
    simp [handshake]
  · intro move
    cases move <;> rfl

end Listener

end Anteroom

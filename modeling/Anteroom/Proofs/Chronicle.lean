import Anteroom.Proofs.Schedule

/-!
# What is told of a step

The history of a listener only grows, and of each kind of step only certain
events are told.  A datagram that is taken is told of first, and then what has
come of it; no other step tells of datagrams that were taken.
-/

namespace Anteroom

/-- The steps of which an event may be told. -/
def Event.ToldOf : Event → Step → Prop
  | .handled .., step => step = .move .handle
  | .sent _ datagram none, step => step = .move .handle ∧ IsReply datagram
  | .sent _ datagram (some session), step => step = .command (.sendSession session datagram)
  | .reported .., step => step = .move .handle
  | .created _, step => step = .move .handle
  | .pulled .., step => step = .move .pull
  | .returned .., step => ∃ index, step = .move (.resolve index)
  | .refused _, step => step = .move .refuse ∨ ∃ index, step = .move (.resolve index)
  | .expired _, step => ∃ index, step = .move (.resolve index)
  | .shut _, step => step = .closeSessions
  | .probed .., step => ∃ index, step = .move (.hijack index)
  | .written none payload, step => step = .command (.setPong payload)
  | .written (some hijack) _, step =>
      ∃ serial datagram, step = .command (.answerProbe hijack serial datagram)

/-- The datagram that was taken, with the session registered for its sender. -/
def Event.handling? : Event → Option (Delivery × Option Nat)
  | .handled peer datagram session => some (⟨peer, datagram⟩, session)
  | _ => none

theorem Event.Answers.told {peer : Address} {event : Event} (answers : event.Answers peer) :
    event.ToldOf (.move .handle) ∧ event.handling? = none := by
  cases event with
  | sent _ _ session =>
      cases session with
      | none => exact ⟨⟨rfl, answers.2⟩, rfl⟩
      | some number => exact answers.elim
  | reported => exact ⟨rfl, rfl⟩
  | _ => exact answers.elim

namespace Listener

/-- The datagrams that the read loop has taken, oldest first. -/
def handlings (l : Listener) : List (Delivery × Option Nat) :=
  l.events.filterMap Event.handling?

/-- Some events, all of which happen now, are what is told of a step. -/
structure Tells (l : Listener) (step : Step) (events : List Event) (next : Listener) : Prop where
  history : next.history = l.history ++ events.map (Entry.mk l.now)
  told : ∀ event ∈ events, event.ToldOf step

theorem Tells.nothing {l next : Listener} {step : Step} (history : next.history = l.history) :
    l.Tells step [] next :=
  ⟨history.trans (List.append_nil _).symm, List.forall_mem_nil _⟩

theorem Tells.one {l next : Listener} {step : Step} {event : Event}
    (history : next.history = l.history ++ [⟨l.now, event⟩]) (told : event.ToldOf step) :
    l.Tells step [event] next :=
  ⟨history, List.forall_mem_singleton.mpr told⟩

theorem Tells.events {l next : Listener} {step : Step} {events : List Event}
    (tells : l.Tells step events next) : next.events = l.events ++ events := by
  rw [Listener.events, tells.history, List.map_append, List.map_map]
  exact congrArg (l.events ++ ·) (List.map_id events)

theorem history_offer (l : Listener) (session : Nat) : (l.offer session).history = l.history := by
  rw [offer]
  split <;> rfl

theorem Issued.told {l next : Listener} {command : Command} (issued : Issued l command next) :
    ∃ events, l.Tells (.command command) events next := by
  cases issued with
  | learned => exact ⟨_, .one rfl ⟨_, _, rfl⟩⟩
  | sent | wrote => exact ⟨_, .one rfl rfl⟩
  | _ => exact ⟨_, .nothing rfl⟩

/-- Of a datagram that is taken it is told first that it is, with the session registered for its
sender, and then what comes of it. -/
theorem Handled.told {l next : Listener} {peer : Address} {datagram : Bytes}
    (handled : Handled l peer datagram next) :
    ∃ events, l.Tells (.move .handle)
        (.handled peer datagram (l.sessionOf? peer) :: events) next ∧
      events.filterMap Event.handling? = [] := by
  cases handled with
  | forwarded registered =>
      rw [registered]
      refine ⟨_, ⟨rfl, ?_⟩, ?_⟩
      · simp [Event.ToldOf]
      · simp [Event.handling?]
  | unclaimed registered =>
      rw [registered]
      exact ⟨[], .one rfl rfl, rfl⟩
  | answered unregistered answers =>
      rw [unregistered]
      refine ⟨_, ⟨rfl, List.forall_mem_cons.mpr ⟨rfl, ?_⟩⟩, ?_⟩
      · exact fun event member => (answers event member).told.1
      · exact List.filterMap_eq_nil_iff.mpr fun event member => (answers event member).told.2
  | @failed _ mtu _ unregistered =>
      have isReply : IsReply (l.reply2 peer mtu) := .reply2 _ _ _ _
      rw [unregistered]
      refine ⟨_, ⟨rfl, ?_⟩, rfl⟩
      simp [Event.ToldOf, isReply]
  | @negotiated _ mtu _ _ unregistered =>
      have isReply : IsReply (l.reply2 peer mtu) := .reply2 _ _ _ _
      rw [unregistered]
      refine ⟨_, ⟨history_offer _ _, ?_⟩, rfl⟩
      simp [Event.ToldOf, isReply]

theorem Moved.told {l next : Listener} {move : Move} (moved : Moved l move next) :
    ∃ events, l.Tells (.move move) events next := by
  cases moved with
  | refused => exact ⟨_, .one rfl (.inl rfl)⟩
  | dropped => exact ⟨_, .one rfl (.inr ⟨_, rfl⟩)⟩
  | accepted | expired => exact ⟨_, .one rfl ⟨_, rfl⟩⟩
  | pulled => exact ⟨_, .one rfl rfl⟩
  | hijackWent =>
      refine ⟨_, rfl, ?_⟩
      intro event member
      split at member
      · rw [List.mem_singleton.mp member]
        exact ⟨_, rfl⟩
      · cases member
  | @handled delivery deliveries =>
      rcases (handled_handle { l with backlog := deliveries } delivery.peer
        delivery.datagram).told with ⟨events, ⟨history, told⟩, _⟩
      exact ⟨_, history, told⟩
  | _ => exact ⟨_, .nothing rfl⟩

theorem tells_closeSessions (l : Listener) :
    l.Tells .closeSessions (l.registry.table.numbers.map .shut) l.closeSessions.1 := by
  rw [closeSessions_fst]
  refine ⟨rfl, ?_⟩
  intro event member
  rcases List.mem_map.mp member with ⟨session, _, rfl⟩
  rfl

/-- The history grows by what is told of the step. -/
theorem Went.told {l next : Listener} {step : Step} (went : Went l step next) :
    ∃ events, l.Tells step events next := by
  cases went with
  | command issued => exact issued.told
  | move moved => exact moved.told
  | closeSessions => exact ⟨_, l.closeSessions_fst ▸ l.tells_closeSessions⟩

/-! ## The datagrams that were taken -/

theorem Handled.handlings {l next : Listener} {peer : Address} {datagram : Bytes}
    (handled : Handled l peer datagram next) :
    next.handlings = l.handlings ++ [(⟨peer, datagram⟩, l.sessionOf? peer)] := by
  rcases handled.told with ⟨events, tells, rest⟩
  rw [Listener.handlings, tells.events, List.filterMap_append]
  exact congrArg (l.handlings ++ _ :: ·) rest

/-- Every other step leaves the datagrams that were taken as they are. -/
theorem Tells.handlings {l next : Listener} {step : Step} {events : List Event}
    (tells : l.Tells step events next) (other : step ≠ .move .handle) :
    events.filterMap Event.handling? = [] ∧ next.handlings = l.handlings := by
  have nothing : events.filterMap Event.handling? = [] := by
    rw [List.filterMap_eq_nil_iff]
    intro event member
    cases event with
    | handled => exact absurd (tells.told _ member) other
    | _ => rfl
  refine ⟨nothing, ?_⟩
  rw [Listener.handlings, tells.events, List.filterMap_append, nothing, List.append_nil]
  rfl

end Listener

end Anteroom

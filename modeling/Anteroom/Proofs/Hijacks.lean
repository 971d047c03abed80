import Anteroom.Proofs.Closings

/-!
# Hijacks at work

As long as the listener runs, its hijacks stand in the order of their numbers,
and each of them comes to its next tick within one period: a probe that is open
ends by then, whether it is answered or not, and only a tick starts another one.
So a hijack goes on probing, whatever becomes of its probes.  Once the listener
shuts down, all that can happen to a hijack is that it ends.
-/

namespace Anteroom

namespace Ticker

/-- Skipping ticks, the one that is due included, moves the next one, by no more than a period from
now on. -/
theorem skipPast_bounds {ticker : Ticker} {now : Nat} (due : ticker.isDue now = true) :
    ticker.next < (ticker.skipPast now).next ∧
      (ticker.skipPast now).next ≤ now + ticker.period ∧
      (ticker.skipPast now).period = ticker.period := by
  have late : ticker.next ≤ now := of_decide_eq_true due
  have rest := Nat.mod_lt (now - ticker.next) ticker.period_pos
  refine ⟨?_, Nat.sub_le _ _, rfl⟩
  simp only [skipPast]
  omega

theorem fire_bounds {ticker : Ticker} {now : Nat} (due : ticker.isDue now = true) :
    ticker.next < (ticker.fire now).next ∧
      (ticker.fire now).next ≤ now + ticker.period ∧
      (ticker.fire now).period = ticker.period := by
  have late : ticker.next ≤ now := of_decide_eq_true due
  rw [fire]
  split
  · exact skipPast_bounds due
  · exact ⟨Nat.lt_add_of_pos_right ticker.period_pos, Nat.add_le_add_right late _, rfl⟩

end Ticker

namespace Hijack

/-- What may become of a hijack in one step of a running listener. -/
inductive Became (link : Link) (now : Nat) (hijack : Hijack) : Hijack → Prop
  | still : Became link now hijack hijack
  | heard (framing : PongFraming) (serial : Nat) (datagram : Bytes) :
      Became link now hijack (hijack.hear framing serial datagram).1
  | went {next : Hijack} (step : hijack.step? link now = some next) : Became link now hijack next

/-- A hijack has taken no tick since: all that may have happened to it is that its probe has
ended. -/
structure Waits (hijack later : Hijack) : Prop where
  sent : later.sent = hijack.sent
  ticker : later.ticker = hijack.ticker
  probe : later.probe = hijack.probe ∨ later.probe = none

/-- A hijack has taken a tick since, and has sent a probe if it could. -/
structure Ticked (link : Link) (hijack later : Hijack) : Prop where
  tick : hijack.ticker.next < later.ticker.next
  sent : link.reaches hijack.target = true → hijack.sent < later.sent

/-- What a hijack has become in a number of steps. -/
structure Goes (link : Link) (hijack later : Hijack) : Prop where
  number : later.number = hijack.number
  target : later.target = hijack.target
  period : later.ticker.period = hijack.ticker.period
  sent_le : hijack.sent ≤ later.sent
  course : hijack.Waits later ∨ hijack.Ticked link later

theorem Waits.refl (hijack : Hijack) : hijack.Waits hijack :=
  ⟨rfl, rfl, .inl rfl⟩

theorem Goes.refl (link : Link) (hijack : Hijack) : hijack.Goes link hijack :=
  ⟨rfl, rfl, rfl, Nat.le_refl _, .inl (.refl hijack)⟩

theorem Goes.trans {link : Link} {hijack middle later : Hijack} (first : hijack.Goes link middle)
    (second : middle.Goes link later) : hijack.Goes link later where
  number := second.number.trans first.number
  target := second.target.trans first.target
  period := second.period.trans first.period
  sent_le := Nat.le_trans first.sent_le second.sent_le
  course := by
    have same : middle.target = hijack.target := first.target
    rcases first.course with waits | ticked
    · rcases second.course with still | moves
      · refine .inl ⟨still.sent.trans waits.sent, still.ticker.trans waits.ticker, ?_⟩
        rcases still.probe with probe | ended
        · rw [probe]
          exact waits.probe
        · exact .inr ended
      · refine .inr ⟨waits.ticker ▸ moves.tick, fun reaches => ?_⟩
        exact waits.sent ▸ moves.sent (same ▸ reaches)
    · have monotone : middle.ticker.next ≤ later.ticker.next := by
        rcases second.course with still | moves
        · exact Nat.le_of_eq (congrArg Ticker.next still.ticker.symm)
        · exact Nat.le_of_lt moves.tick
      refine .inr ⟨Nat.lt_of_lt_of_le ticked.tick monotone, fun reaches => ?_⟩
      exact Nat.lt_of_lt_of_le (ticked.sent reaches) second.sent_le

/-- Hearing a datagram ends the open probe, or changes nothing. -/
theorem hear_fst (hijack : Hijack) (framing : PongFraming) (serial : Nat) (datagram : Bytes) :
    (hijack.hear framing serial datagram).1 = hijack ∨
      (hijack.hear framing serial datagram).1 = { hijack with probe := none } := by
  rw [hear]
  split
  · exact .inl rfl
  · split
    · split
      · exact .inl rfl
      · exact .inr rfl
      · exact .inr rfl
    · exact .inl rfl

/-- The steps of a hijack: it gives up a probe, sends the next one, or cannot send it. -/
theorem step?_eq_some {hijack next : Hijack} {link : Link} {now : Nat}
    (step : hijack.step? link now = some next) :
    (∃ probe, hijack.probe = some probe ∧ probe.deadline ≤ now ∧
      next = { hijack with probe := none }) ∨
    hijack.probe = none ∧ hijack.ticker.isDue now = true ∧
      (link.reaches hijack.target = true ∧
        next = { hijack with
          ticker := hijack.ticker.fire now
          sent := hijack.sent + 1
          probe := some { serial := hijack.sent, deadline := now + hijack.ticker.period } } ∨
      link.reaches hijack.target = false ∧
        next = { hijack with ticker := hijack.ticker.skipPast now }) := by
  rw [step?] at step
  split at step
  · rename_i probe opened
    split at step
    · rename_i due
      cases step
      exact .inl ⟨probe, opened, due, rfl⟩
    · cases step
  · rename_i idle
    split at step
    · rename_i due
      split at step
      · rename_i reaches
        cases step
        exact .inr ⟨idle, due, .inl ⟨reaches, rfl⟩⟩
      · rename_i lost
        cases step
        exact .inr ⟨idle, due, .inr ⟨Bool.eq_false_iff.mpr lost, rfl⟩⟩
    · cases step

theorem Became.goes {hijack later : Hijack} {link : Link} {now : Nat}
    (became : hijack.Became link now later) : hijack.Goes link later := by
  have ends : hijack.Goes link { hijack with probe := none } :=
    ⟨rfl, rfl, rfl, Nat.le_refl _, .inl ⟨rfl, rfl, .inr rfl⟩⟩
  cases became with
  | still => exact .refl link hijack
  | heard framing serial datagram =>
      rcases hijack.hear_fst framing serial datagram with same | ended
      · rw [same]
        exact .refl link hijack
      · rw [ended]
        exact ends
  | went step =>
      rcases step?_eq_some step with ⟨_, _, _, rfl⟩ | ⟨_, due, ⟨_, rfl⟩ | ⟨lost, rfl⟩⟩
      · exact ends
      · obtain ⟨tick, _, period⟩ := Ticker.fire_bounds due
        exact ⟨rfl, rfl, period, Nat.le_succ _, .inr ⟨tick, fun _ => Nat.lt_succ_self _⟩⟩
      · obtain ⟨tick, _, period⟩ := Ticker.skipPast_bounds due
        refine ⟨rfl, rfl, period, Nat.le_refl _, .inr ⟨tick, fun reaches => ?_⟩⟩
        cases lost.symm.trans reaches

/-- Nothing that a hijack waits for is further away than its period. -/
structure Paced (interval now : Nat) (hijack : Hijack) : Prop where
  period : hijack.ticker.period = interval
  tick : hijack.ticker.next ≤ now + interval
  deadline : ∀ probe, hijack.probe = some probe → probe.deadline ≤ now + interval

theorem Paced.later {interval now later : Nat} {hijack : Hijack}
    (paced : hijack.Paced interval now) (passed : now ≤ later) : hijack.Paced interval later where
  period := paced.period
  tick := Nat.le_trans paced.tick (Nat.add_le_add_right passed interval)
  deadline := fun probe opened =>
    Nat.le_trans (paced.deadline probe opened) (Nat.add_le_add_right passed interval)

theorem paced_start (number : Nat) (target : Address) (period : Span)
    (positive : 0 < period.nanos) (now : Nat) :
    (start number target period positive now).Paced period.nanos now :=
  ⟨rfl, Nat.le_add_right _ _, nofun⟩

theorem Became.paced {interval now : Nat} {hijack later : Hijack} {link : Link}
    (became : hijack.Became link now later) (paced : hijack.Paced interval now) :
    later.Paced interval now := by
  have ends : Paced interval now { hijack with probe := none } := ⟨paced.period, paced.tick, nofun⟩
  cases became with
  | still => exact paced
  | heard framing serial datagram =>
      rcases hijack.hear_fst framing serial datagram with same | ended
      · rw [same]
        exact paced
      · rw [ended]
        exact ends
  | went step =>
      rcases step?_eq_some step with ⟨_, _, _, rfl⟩ | ⟨idle, due, ⟨_, rfl⟩ | ⟨_, rfl⟩⟩
      · exact ends
      · obtain ⟨_, next, period⟩ := Ticker.fire_bounds due
        refine ⟨period.trans paced.period, paced.period ▸ next, ?_⟩
        rintro probe ⟨⟩
        exact Nat.le_of_eq (congrArg (now + ·) paced.period)
      · obtain ⟨_, next, period⟩ := Ticker.skipPast_bounds due
        refine ⟨period.trans paced.period, paced.period ▸ next, ?_⟩
        intro probe opened
        cases idle.symm.trans opened

/-- A hijack that has taken no tick for a whole period can take a step. -/
theorem Waits.exists_step {interval began now : Nat} {hijack later : Hijack}
    (waits : hijack.Waits later) (paced : hijack.Paced interval began)
    (passed : began + interval ≤ now) (link : Link) : ∃ next, later.step? link now = some next := by
  have due : later.ticker.isDue now = true := by
    rw [waits.ticker]
    exact decide_eq_true (Nat.le_trans paced.tick passed)
  rw [step?]
  split
  · rename_i probe opened
    have same : hijack.probe = some probe := by
      rcases waits.probe with probe | ended
      · exact probe ▸ opened
      · cases ended.symm.trans opened
    have due : probe.deadline ≤ now := Nat.le_trans (paced.deadline probe same) passed
    exact ⟨_, if_pos due⟩
  · rw [if_pos due]
    split
    · exact ⟨_, rfl⟩
    · exact ⟨_, rfl⟩

end Hijack

/-- The hijack that an event is about. -/
def Event.hijack? : Event → Option Nat
  | .probed hijack _ => some hijack
  | .written hijack _ => hijack
  | _ => none

namespace Listener

/-- What a step does to the hijacks. -/
inductive Tended (l next : Listener) : Prop
  | still (hijacks : next.hijacks = l.hijacks) (count : next.hijackCount = l.hijackCount)
  /-- One of them does something; it is told if it sends a probe. -/
  | became {index : Nat} {hijack later : Hijack} (running : l.shutdown = false)
      (found : l.hijacks[index]? = some hijack)
      (became : hijack.Became l.setup.link l.now later)
      (told : hijack.sent < later.sent →
        later.sent = hijack.sent + 1 ∧ .probed hijack.number hijack.sent ∈ next.events)
      (hijacks : next.hijacks = l.hijacks.set index later)
      (count : next.hijackCount = l.hijackCount)
  | enlisted {target : Address} (running : l.shutdown = false)
      (hijacks : next.hijacks = l.hijacks ++ [.start l.hijackCount target
        l.setup.config.hijackInterval l.setup.interval_pos l.now])
      (count : next.hijackCount = l.hijackCount + 1)
  | ended {index : Nat} (shut : l.shutdown = true)
      (hijacks : next.hijacks = l.hijacks.eraseIdx index)
      (count : next.hijackCount = l.hijackCount)

theorem Issued.tended {l next : Listener} {command : Command} (issued : Issued l command next) :
    l.Tended next := by
  have quiet {hijack : Hijack} {serial : Nat} {datagram : Bytes} :
      ¬ hijack.sent < (hijack.hear l.setup.config.framing serial datagram).1.sent := by
    rcases hijack.hear_fst l.setup.config.framing serial datagram with same | ended
    · rw [same]
      exact Nat.lt_irrefl _
    · rw [ended]
      exact Nat.lt_irrefl _
  cases issued with
  | heard running found =>
      exact .became running found (.heard _ _ _) (fun sends => absurd sends quiet) rfl rfl
  | learned _ running found =>
      exact .became running found (.heard _ _ _) (fun sends => absurd sends quiet) rfl rfl
  | enlisted running => exact .enlisted running rfl rfl
  | _ => exact .still rfl rfl

theorem Moved.tended {l next : Listener} {move : Move} (moved : Moved l move next) :
    l.Tended next := by
  cases moved with
  | hijackEnded _ shut => exact .ended shut rfl rfl
  | @hijackWent index hijack later found running step =>
      refine .became running found (.went step) ?_ rfl rfl
      intro sends
      refine ⟨?_, ?_⟩
      · rcases Hijack.step?_eq_some step with ⟨_, _, _, rfl⟩ | ⟨_, _, ⟨_, rfl⟩ | ⟨_, rfl⟩⟩
        · exact absurd sends (Nat.lt_irrefl _)
        · rfl
        · exact absurd sends (Nat.lt_irrefl _)
      · rw [events_recordAll, if_pos sends]
        exact List.mem_append_right _ List.mem_cons_self
  | handled =>
      rw [(handled_handle _ _ _).eq_update]
      exact .still rfl rfl
  | _ => exact .still rfl rfl

theorem Went.tended {l next : Listener} {step : Step} (went : Went l step next) :
    l.Tended next := by
  cases went with
  | command issued => exact issued.tended
  | move moved => exact moved.tended
  | closeSessions => exact .still rfl rfl

/-- Time does not run backwards. -/
theorem Went.now_le {l next : Listener} {step : Step} (went : Went l step next) :
    l.now ≤ next.now := by
  cases went with
  | command issued =>
      cases issued with
      | elapsed => exact Nat.le_add_right _ _
      | _ => exact Nat.le_refl _
  | move moved =>
      cases moved with
      | @handled delivery deliveries =>
          have handled := handled_handle { l with backlog := deliveries } delivery.peer
            delivery.datagram
          exact Nat.le_of_eq (congrArg Listener.now handled.eq_update).symm
      | _ => exact Nat.le_refl _
  | closeSessions => exact Nat.le_refl _

/-- A listener that runs in the end has run all the time. -/
theorem running_of_follow {l last : Listener} {steps : List Step}
    (followed : l.follow steps = some last) (running : last.shutdown = false) :
    l.shutdown = false := by
  rw [Bool.eq_false_iff]
  intro shut
  cases running.symm.trans (follow_shutdown shut followed)

/-- The hijacks of a running listener stand in the order of their numbers.  None waits for longer
than a period, and the probes that were sent have been told. -/
structure Manned (l : Listener) : Prop where
  counted : l.shutdown = false → l.hijacks.length = l.hijackCount
  placed : l.shutdown = false → ∀ (index : Nat) (hijack : Hijack),
    l.hijacks[index]? = some hijack → hijack.number = index
  paced : ∀ hijack ∈ l.hijacks, hijack.Paced l.setup.config.hijackInterval.nanos l.now
  told : ∀ hijack ∈ l.hijacks, ∀ serial < hijack.sent, .probed hijack.number serial ∈ l.events

theorem manned_start (setup : Setup) : (start setup).Manned where
  counted := fun _ => rfl
  placed := fun _ => nofun
  paced := List.forall_mem_nil _
  told := List.forall_mem_nil _

/-- A step of a running listener leaves each hijack at its place. -/
theorem Tended.goes {l next : Listener} (tended : l.Tended next) (running : l.shutdown = false)
    {index : Nat} {hijack : Hijack} (found : l.hijacks[index]? = some hijack) :
    ∃ later, next.hijacks[index]? = some later ∧ hijack.Goes l.setup.link later := by
  cases tended with
  | still hijacks => exact ⟨hijack, hijacks ▸ found, .refl _ _⟩
  | @became place acting later _ stands became _ hijacks =>
      rw [hijacks, List.getElem?_set]
      by_cases same : place = index
      · subst same
        obtain rfl : hijack = acting := Option.some.inj (found.symm.trans stands)
        rw [if_pos rfl, if_pos (List.getElem?_eq_some_iff.mp found).1]
        exact ⟨later, rfl, became.goes⟩
      · rw [if_neg same]
        exact ⟨hijack, found, .refl _ _⟩
  | enlisted _ hijacks =>
      rw [hijacks, List.getElem?_append_left (List.getElem?_eq_some_iff.mp found).1]
      exact ⟨hijack, found, .refl _ _⟩
  | ended shut => cases running.symm.trans shut

/-- Every hijack after a step was there before, or has just been started. -/
theorem Tended.comes {l next : Listener} (tended : l.Tended next) {hijack : Hijack}
    (member : hijack ∈ next.hijacks) :
    (∃ before ∈ l.hijacks, before.Became l.setup.link l.now hijack ∧
      (before.sent < hijack.sent →
        hijack.sent = before.sent + 1 ∧ .probed before.number before.sent ∈ next.events)) ∨
    ∃ target, hijack = .start l.hijackCount target l.setup.config.hijackInterval
      l.setup.interval_pos l.now := by
  have kept {hijack : Hijack} (there : hijack ∈ l.hijacks) : ∃ before ∈ l.hijacks,
      before.Became l.setup.link l.now hijack ∧ (before.sent < hijack.sent →
        hijack.sent = before.sent + 1 ∧ .probed before.number before.sent ∈ next.events) :=
    ⟨hijack, there, .still, fun sends => absurd sends (Nat.lt_irrefl _)⟩
  cases tended with
  | still hijacks => exact .inl (kept (hijacks ▸ member))
  | became _ found became told hijacks =>
      rw [hijacks] at member
      rcases List.mem_or_eq_of_mem_set member with there | rfl
      · exact .inl (kept there)
      · exact .inl ⟨_, List.mem_of_getElem? found, became, told⟩
  | enlisted _ hijacks =>
      rw [hijacks] at member
      rcases List.mem_append.mp member with there | new
      · exact .inl (kept there)
      · exact .inr ⟨_, List.mem_singleton.mp new⟩
  | ended _ hijacks => exact .inl (kept (List.mem_of_mem_eraseIdx (hijacks ▸ member)))

theorem Tended.counted {l next : Listener} (tended : l.Tended next) (running : l.shutdown = false)
    (counted : l.hijacks.length = l.hijackCount) : next.hijacks.length = next.hijackCount := by
  cases tended with
  | still hijacks count => rw [hijacks, count, counted]
  | became _ _ _ _ hijacks count => rw [hijacks, count, List.length_set, counted]
  | enlisted _ hijacks count =>
      rw [hijacks, count, List.length_append, List.length_singleton, counted]
  | ended shut => cases running.symm.trans shut

/-- What stands behind the hijacks that were there before has just been started. -/
theorem Tended.started {l next : Listener} (tended : l.Tended next) (running : l.shutdown = false)
    {index : Nat} {hijack : Hijack} (found : next.hijacks[index]? = some hijack)
    (outside : l.hijacks.length ≤ index) :
    index = l.hijacks.length ∧ hijack.number = l.hijackCount := by
  have short := (List.getElem?_eq_some_iff.mp found).1
  cases tended with
  | still hijacks =>
      rw [hijacks] at short
      exact absurd short (Nat.not_lt.mpr outside)
  | became _ _ _ _ hijacks =>
      rw [hijacks, List.length_set] at short
      exact absurd short (Nat.not_lt.mpr outside)
  | enlisted _ hijacks =>
      rw [hijacks, List.getElem?_append_right outside, List.getElem?_singleton,
        Option.ite_none_right_eq_some] at found
      obtain ⟨last, new⟩ := found
      cases new
      exact ⟨Nat.le_antisymm (Nat.le_of_sub_eq_zero last) outside, rfl⟩
  | ended shut => cases running.symm.trans shut

theorem Manned.placed_after {l next : Listener} (manned : l.Manned) (tended : l.Tended next)
    (running : l.shutdown = false) {index : Nat} {hijack : Hijack}
    (found : next.hijacks[index]? = some hijack) : hijack.number = index := by
  by_cases inside : index < l.hijacks.length
  · have there : l.hijacks[index]? = some l.hijacks[index] := List.getElem?_eq_getElem inside
    obtain ⟨later, same, goes⟩ := tended.goes running there
    obtain rfl : hijack = later := Option.some.inj (found.symm.trans same)
    rw [goes.number]
    exact manned.placed running index _ there
  · obtain ⟨last, number⟩ := tended.started running found (Nat.le_of_not_lt inside)
    rw [number, last, manned.counted running]

theorem Went.manned {l next : Listener} {step : Step} (went : Went l step next)
    (manned : l.Manned) : next.Manned := by
  have tended := went.tended
  have before (running : next.shutdown = false) : l.shutdown = false :=
    Bool.eq_false_iff.mpr fun shut => Bool.eq_false_iff.mp running (went.shutdown shut)
  constructor
  · intro running
    exact tended.counted (before running) (manned.counted (before running))
  · intro running index hijack found
    exact manned.placed_after tended (before running) found
  · intro hijack member
    rw [went.setup]
    refine Hijack.Paced.later ?_ went.now_le
    rcases tended.comes member with ⟨earlier, there, became, _⟩ | ⟨target, rfl⟩
    · exact became.paced (manned.paced earlier there)
    · exact Hijack.paced_start _ target _ _ l.now
  · intro hijack member serial sent
    rcases went.told with ⟨events, tells⟩
    rcases tended.comes member with ⟨earlier, there, became, told⟩ | ⟨target, rfl⟩
    · rw [became.goes.number]
      by_cases old : serial < earlier.sent
      · rw [tells.events]
        exact List.mem_append_left _ (manned.told earlier there serial old)
      · obtain ⟨one, probed⟩ := told (Nat.lt_of_le_of_lt (Nat.le_of_not_lt old) sent)
        obtain rfl : serial = earlier.sent := by omega
        exact probed
    · exact absurd sent (Nat.not_lt_zero serial)

theorem manned_follow {setup : Setup} {steps : List Step} {l : Listener}
    (followed : (start setup).follow steps = some l) : l.Manned :=
  follow_induction (fun _ _ _ _ manned went => went.manned manned) (manned_start setup) followed

/-! ## Hijacks go on -/

/-- Along every schedule that ends in a running listener each hijack keeps its place. -/
theorem goes_follow {l last : Listener} {steps : List Step}
    (followed : l.follow steps = some last) (running : last.shutdown = false) {index : Nat}
    {hijack : Hijack} (found : l.hijacks[index]? = some hijack) :
    ∃ later, last.hijacks[index]? = some later ∧ hijack.Goes l.setup.link later := by
  induction steps generalizing l hijack with
  | nil =>
      cases followed
      exact ⟨hijack, found, .refl _ hijack⟩
  | cons step steps ih =>
      rcases follow_cons_eq_some_iff.mp followed with ⟨next, after, rest⟩
      have went := went_of_after? after
      have began := running_of_follow followed running
      obtain ⟨middle, there, first⟩ := went.tended.goes began found
      obtain ⟨later, stands, second⟩ := ih rest there
      rw [went.setup] at second
      exact ⟨later, stands, first.trans second⟩

/-- When a running listener has settled a period later, each of its hijacks has taken a tick, and
has sent a probe if its target can be reached. -/
theorem Manned.goes_on {l last : Listener} {steps : List Step} (manned : l.Manned)
    (followed : l.follow steps = some last) (settled : last.Settled)
    (running : last.shutdown = false)
    (passed : l.now + l.setup.config.hijackInterval.nanos ≤ last.now) {hijack : Hijack}
    (member : hijack ∈ l.hijacks) :
    ∃ later ∈ last.hijacks, later.number = hijack.number ∧ later.target = hijack.target ∧
      hijack.Ticked l.setup.link later := by
  obtain ⟨index, found⟩ := List.mem_iff_getElem?.mp member
  obtain ⟨later, stands, goes⟩ := goes_follow followed running found
  refine ⟨later, List.mem_of_getElem? stands, goes.number, goes.target, ?_⟩
  rcases goes.course with waits | ticked
  -- Without a tick in all that time it could take a step now, so nothing would have settled.
  · obtain ⟨next, step⟩ :=
      waits.exists_step (manned.paced hijack member) passed last.setup.link
    exact absurd (Moved.hijackWent stands running step) settled.not_moved
  · exact ticked

/-! ## Hijacks stop -/

/-- Once the listener shuts down, no step is about a hijack, and none is started. -/
theorem Went.unhijacked {l next : Listener} {step : Step} (went : Went l step next)
    (shut : l.shutdown = true) :
    (∃ events, next.events = l.events ++ events ∧ ∀ event ∈ events, event.hijack? = none) ∧
      next.hijackCount = l.hijackCount := by
  constructor
  · rcases went.told with ⟨events, tells⟩
    refine ⟨events, tells.events, ?_⟩
    intro event member
    have silent (same : next.history = l.history) : event ∉ events := by
      have nothing := tells.history.symm.trans same
      rw [List.append_right_eq_self, List.map_eq_nil_iff] at nothing
      rw [nothing]
      exact List.not_mem_nil
    have told := tells.told event member
    -- Only two steps tell of a hijack, and both need a listener that runs.
    cases event with
    | probed hijack serial =>
        obtain ⟨index, rfl⟩ := told
        cases went with
        | move moved =>
            cases moved with
            | hijackEnded => exact absurd member (silent rfl)
            | hijackWent _ running => cases shut.symm.trans running
    | written hijack payload =>
        cases hijack with
        | none => rfl
        | some number =>
            obtain ⟨serial, datagram, rfl⟩ := told
            cases went with
            | command issued =>
                cases issued with
                | ignored => exact absurd member (silent rfl)
                | heard running => cases shut.symm.trans running
                | learned _ running => cases shut.symm.trans running
    | _ => rfl
  · cases went.tended with
    | still _ count => exact count
    | became _ _ _ _ _ count => exact count
    | enlisted running => cases shut.symm.trans running
    | ended _ _ count => exact count

theorem unhijacked_follow {l last : Listener} {steps : List Step}
    (followed : l.follow steps = some last) (shut : l.shutdown = true) :
    (∃ events, last.events = l.events ++ events ∧ ∀ event ∈ events, event.hijack? = none) ∧
      last.hijackCount = l.hijackCount := by
  induction steps generalizing l with
  | nil =>
      cases followed
      exact ⟨⟨[], (List.append_nil _).symm, List.forall_mem_nil _⟩, rfl⟩
  | cons step steps ih =>
      rcases follow_cons_eq_some_iff.mp followed with ⟨next, after, rest⟩
      have went := went_of_after? after
      obtain ⟨⟨first, begins, quiet⟩, count⟩ := went.unhijacked shut
      obtain ⟨⟨second, goes, still⟩, counts⟩ := ih rest (went.shutdown shut)
      refine ⟨⟨first ++ second, ?_, List.forall_mem_append.mpr ⟨quiet, still⟩⟩,
        counts.trans count⟩
      rw [goes, begins, List.append_assoc]

/-- No hijack is started on a listener that shuts down. -/
theorem hijack_of_shut {l : Listener} (shut : l.shutdown = true) (names : Names)
    (endpoint : String) :
    l.hijack names endpoint = .error .closed ∧ l.perform (.hijack names endpoint) = l := by
  have refused : l.hijack names endpoint = .error .closed := if_pos shut
  refine ⟨refused, ?_⟩
  rw [perform, refused, ifHeld]
  split <;> rfl

/-- When a listener that was let go of has settled and no accept call is under way, it has shut
down. -/
theorem Settled.shutdown_of_released {l : Listener} (settled : l.Settled)
    (released : l.released = true) (idle : l.hasPendingCall = false) : l.shutdown = true := by
  cases running : l.shutdown with
  | true => rfl
  | false => exact absurd (Moved.released released running idle) settled.not_moved

end Listener

end Anteroom

import Anteroom.Proofs.Writers
import Mathlib.Data.List.Perm.Subperm

/-!
# The pace of the probes

The ticks of a hijack are numbered from when it was started, and each of its
probes is released by a tick of its own.  A probe never starts before its tick,
and one that starts late by more than the slack of the ticker makes it skip the
ticks that were missed.  So a period that is longer than the slack sees at most
one probe start; in a shorter one the ticks that lie within the slack of the
present may still be taken, one after the other.
-/

namespace Anteroom

namespace Ticker

/-- A tick that was taken. -/
structure Taken where
  /-- The number of ticks before it, taken or skipped. -/
  tick : Nat
  /-- When it was taken. -/
  time : Nat

namespace Taken

/-- When a tick was due. -/
def due (origin period : Nat) (taken : Taken) : Nat :=
  origin + taken.tick * period

/-- A tick that is taken comes before a later one.  When it was taken too late, the later one was
not due by then. -/
structure Before (origin period : Nat) (taken : Taken) (tick : Nat) : Prop where
  tick_lt : taken.tick < tick
  skips : taken.due origin period + slack < taken.time → taken.time < origin + tick * period

theorem Before.later {origin period tick later : Nat} {taken : Taken}
    (before : taken.Before origin period tick) (passed : tick ≤ later) :
    taken.Before origin period later where
  tick_lt := Nat.lt_of_lt_of_le before.tick_lt passed
  skips := fun late => Nat.lt_of_lt_of_le (before.skips late)
    (Nat.add_le_add_left (Nat.mul_le_mul_right period passed) origin)

end Taken

/-- No tick was taken before it was due, and the ticks that were missed have been skipped. -/
structure Kept (origin period : Nat) (taken : List Taken) : Prop where
  due : ∀ one ∈ taken, one.due origin period ≤ one.time
  order : taken.Pairwise fun one other =>
    one.Before origin period other.tick ∧ one.time ≤ other.time

/-- Some ticks were taken, and the ticker is due next at a later one. -/
def Awaits (ticker : Ticker) (origin : Nat) (taken : List Taken) : Prop :=
  ∃ tick, ticker.next = origin + tick * ticker.period ∧
    ∀ one ∈ taken, one.Before origin ticker.period tick

theorem awaits_start (period : Nat) (positive : 0 < period) (now : Nat) :
    (start period positive now).Awaits now [] :=
  ⟨0, by rw [Nat.zero_mul]; rfl, List.forall_mem_nil _⟩

/-- Skipping leads to the first tick that is not due. -/
theorem skipPast_next {ticker : Ticker} {origin tick now : Nat}
    (stands : ticker.next = origin + tick * ticker.period) (due : ticker.isDue now = true) :
    ∃ later, tick < later ∧ (ticker.skipPast now).next = origin + later * ticker.period ∧
      now < (ticker.skipPast now).next := by
  have late : ticker.next ≤ now := of_decide_eq_true due
  have rest := Nat.mod_lt (now - ticker.next) ticker.period_pos
  have parts := Nat.div_add_mod' (now - ticker.next) ticker.period
  refine ⟨tick + ((now - ticker.next) / ticker.period + 1),
    Nat.lt_add_of_pos_right (Nat.succ_pos _), ?_, ?_⟩
  · simp only [skipPast, Nat.add_mul]
    omega
  · simp only [skipPast]
    omega

/-- Taking a tick leads to a later one, which is not due if the tick was taken too late. -/
theorem fire_next {ticker : Ticker} {origin tick now : Nat}
    (stands : ticker.next = origin + tick * ticker.period) (due : ticker.isDue now = true) :
    ∃ later, (ticker.fire now).next = origin + later * ticker.period ∧
      (⟨tick, now⟩ : Taken).Before origin ticker.period later := by
  rw [fire]
  split
  · obtain ⟨later, passed, next, future⟩ := skipPast_next stands due
    exact ⟨later, next, passed, fun _ => next ▸ future⟩
  · rename_i soon
    refine ⟨tick + 1, ?_, Nat.lt_succ_self tick, fun late => absurd (stands ▸ late) soon⟩
    rw [Nat.succ_mul, ← Nat.add_assoc, ← stands]

theorem Awaits.skipPast {ticker : Ticker} {origin now : Nat} {taken : List Taken}
    (awaits : ticker.Awaits origin taken) (due : ticker.isDue now = true) :
    (ticker.skipPast now).Awaits origin taken := by
  obtain ⟨tick, stands, before⟩ := awaits
  obtain ⟨later, passed, next, _⟩ := skipPast_next stands due
  exact ⟨later, next, fun one member => (before one member).later (Nat.le_of_lt passed)⟩

/-- Taking the tick that is due goes on with the ticks that were taken. -/
theorem Awaits.fire {ticker : Ticker} {origin now : Nat} {taken : List Taken}
    (awaits : ticker.Awaits origin taken) (kept : Kept origin ticker.period taken)
    (past : ∀ one ∈ taken, one.time ≤ now) (due : ticker.isDue now = true) :
    ∃ tick, Kept origin ticker.period (taken ++ [⟨tick, now⟩]) ∧
      (ticker.fire now).Awaits origin (taken ++ [⟨tick, now⟩]) := by
  obtain ⟨tick, stands, before⟩ := awaits
  obtain ⟨later, next, passed⟩ := fire_next stands due
  have same : (ticker.fire now).period = ticker.period := (fire_bounds due).2.2
  refine ⟨tick, ⟨?_, ?_⟩, later, same ▸ next, ?_⟩
  · refine List.forall_mem_append.mpr ⟨kept.due, List.forall_mem_singleton.mpr ?_⟩
    have reached : ticker.next ≤ now := of_decide_eq_true due
    rw [stands] at reached
    exact reached
  · refine List.pairwise_append.mpr ⟨kept.order, List.pairwise_singleton _ _, ?_⟩
    intro one member other new
    rw [List.mem_singleton.mp new]
    exact ⟨before one member, past one member⟩
  · rw [same]
    refine List.forall_mem_append.mpr ⟨?_, List.forall_mem_singleton.mpr passed⟩
    exact fun one member => (before one member).later (Nat.le_of_lt passed.tick_lt)

/-- Ticks in order, all of them after one and none after another, are no more than lie between. -/
theorem length_le_of_order {taken : List Taken} {low high : Nat}
    (order : taken.Pairwise fun one other => one.tick < other.tick)
    (within : ∀ one ∈ taken, low < one.tick ∧ one.tick ≤ high) : taken.length ≤ high - low := by
  have distinct : (taken.map Taken.tick).Nodup :=
    List.pairwise_map.mpr (order.imp Nat.ne_of_lt)
  have among : taken.map Taken.tick ⊆ List.range' (low + 1) (high - low) := by
    intro tick member
    obtain ⟨one, taken, rfl⟩ := List.mem_map.mp member
    have bounds := within one taken
    rw [List.mem_range'_1]
    omega
  have fewer := (distinct.subperm among).length_le
  rwa [List.length_map, List.length_range'] at fewer

/-- Few ticks are taken within one period of the grid: beyond the first of them, only those that
were due within the slack after it. -/
theorem Kept.countP_le {origin period : Nat} {taken : List Taken}
    (kept : Kept origin period taken) (positive : 0 < period) (turn : Nat) :
    (taken.map Taken.time).countP (fun time =>
      origin + turn * period ≤ time ∧ time < origin + (turn + 1) * period) ≤
        slack / period + 1 := by
  rw [List.countP_map, List.countP_eq_length_filter]
  have order := kept.order.filter ((fun time =>
    decide (origin + turn * period ≤ time ∧ time < origin + (turn + 1) * period)) ∘ Taken.time)
  have inside (one : Taken) (member : one ∈ taken.filter ((fun time =>
      decide (origin + turn * period ≤ time ∧ time < origin + (turn + 1) * period)) ∘
        Taken.time)) : origin + turn * period ≤ one.time ∧ one.tick ≤ turn := by
    obtain ⟨member, within⟩ := List.mem_filter.mp member
    obtain ⟨started, early⟩ := of_decide_eq_true within
    have due : origin + one.tick * period ≤ one.time := kept.due one member
    have before : one.tick * period < (turn + 1) * period := by omega
    exact ⟨started, Nat.le_of_lt_succ (Nat.lt_of_mul_lt_mul_right before)⟩
  generalize taken.filter _ = those at order inside ⊢
  cases those with
  | nil => exact Nat.zero_le _
  | cons first rest =>
      obtain ⟨after, order⟩ := List.pairwise_cons.mp order
      have few : rest.length ≤ turn - first.tick := by
        refine length_le_of_order (order.imp fun before => before.1.tick_lt) fun one member => ?_
        exact ⟨(after one member).1.tick_lt, (inside one (List.mem_cons_of_mem first member)).2⟩
      refine Nat.succ_le_succ ?_
      cases rest with
      | nil => exact Nat.zero_le _
      | cons second rest =>
          -- The second tick was due when the first was taken, so the first was not taken too late.
          refine Nat.le_trans few ((Nat.le_div_iff_mul_le positive).mpr ?_)
          obtain ⟨started, _⟩ := inside first List.mem_cons_self
          obtain ⟨_, due⟩ := inside second (List.mem_cons_of_mem first List.mem_cons_self)
          have missed := Nat.mul_le_mul_right period due
          have soon : ¬ first.due origin period + slack < first.time := by
            intro late
            have future := (after second List.mem_cons_self).1.skips late
            omega
          rw [Taken.due] at soon
          rw [Nat.sub_mul]
          omega

end Ticker

namespace Hijack

/-- A hijack has sent a probe at each of the ticks it has taken.  If one is open, it is the last of
them, and its time is up one period after it was sent. -/
structure Keeps (hijack : Hijack) (origin period : Nat) (taken : List Ticker.Taken) : Prop where
  sent : hijack.sent = taken.length
  pace : hijack.ticker.period = period
  awaits : hijack.ticker.Awaits origin taken
  opened : ∀ probe, hijack.probe = some probe → probe.serial + 1 = taken.length ∧
    ∃ one, taken.getLast? = some one ∧ probe.deadline = one.time + period

theorem keeps_start (number : Nat) (target : Address) (period : Span)
    (positive : 0 < period.nanos) (now : Nat) :
    (start number target period positive now).Keeps now period.nanos [] :=
  ⟨rfl, rfl, Ticker.awaits_start period.nanos positive now, nofun⟩

theorem Keeps.ended {hijack : Hijack} {origin period : Nat} {taken : List Ticker.Taken}
    (keeps : hijack.Keeps origin period taken) :
    Keeps { hijack with probe := none } origin period taken :=
  ⟨keeps.sent, keeps.pace, keeps.awaits, nofun⟩

/-- What a hijack does without sending a probe. -/
theorem Keeps.became {hijack later : Hijack} {origin period now : Nat} {link : Link}
    {taken : List Ticker.Taken} (keeps : hijack.Keeps origin period taken)
    (became : hijack.Became link now later) (quiet : later.sent = hijack.sent) :
    later.Keeps origin period taken := by
  cases became with
  | still => exact keeps
  | heard framing serial datagram =>
      rcases hijack.hear_fst framing serial datagram with same | ended
      · rw [same]
        exact keeps
      · rw [ended]
        exact keeps.ended
  | went step =>
      rcases step?_eq_some step with ⟨_, _, _, rfl⟩ | ⟨idle, due, ⟨_, rfl⟩ | ⟨_, rfl⟩⟩
      · exact keeps.ended
      · exact absurd quiet (Nat.succ_ne_self hijack.sent)
      · refine ⟨keeps.sent, keeps.pace, keeps.awaits.skipPast due, ?_⟩
        intro probe opened
        cases idle.symm.trans opened

/-- A hijack that sends a probe takes one tick more. -/
theorem Keeps.sends {hijack later : Hijack} {origin period now : Nat} {link : Link}
    {taken : List Ticker.Taken} (keeps : hijack.Keeps origin period taken)
    (kept : Ticker.Kept origin period taken) (past : ∀ one ∈ taken, one.time ≤ now)
    (step : hijack.step? link now = some later) (sends : hijack.sent < later.sent) :
    ∃ tick, Ticker.Kept origin period (taken ++ [⟨tick, now⟩]) ∧
      later.Keeps origin period (taken ++ [⟨tick, now⟩]) := by
  rcases step?_eq_some step with ⟨_, _, _, rfl⟩ | ⟨_, due, ⟨_, rfl⟩ | ⟨_, rfl⟩⟩
  · exact absurd sends (Nat.lt_irrefl _)
  · obtain ⟨tick, grows, awaits⟩ := keeps.awaits.fire (keeps.pace ▸ kept) past due
    refine ⟨tick, keeps.pace ▸ grows, ?_, ?_, awaits, ?_⟩
    · rw [List.length_append, List.length_singleton, keeps.sent]
    · exact (Ticker.fire_bounds due).2.2.trans keeps.pace
    · rintro probe ⟨⟩
      refine ⟨?_, ⟨tick, now⟩, List.getLast?_concat, ?_⟩
      · rw [List.length_append, List.length_singleton, keeps.sent]
      · exact congrArg (now + ·) keeps.pace
  · exact absurd sends (Nat.lt_irrefl _)

end Hijack

/-- The default configuration, but with a probe every two milliseconds. -/
def Setup.brisk : Setup :=
  .ofConfig 7 { hijackInterval := ⟨2000000, by decide⟩ } Link.routed fun _ => .raw

/-- Whether an entry tells of a probe of a hijack. -/
def Entry.isProbeOf (number : Nat) (entry : Entry) : Bool :=
  match entry.event with
  | .probed hijack _ => hijack = number
  | _ => false

namespace Listener

/-- The probes that a hijack has sent, as they stand in the history. -/
def probes (l : Listener) (number : Nat) : List Entry :=
  l.history.filter (·.isProbeOf number)

/-- How many probes a hijack has sent from one time on and before another. -/
def probesWithin (l : Listener) (number low high : Nat) : Nat :=
  (l.probes number).countP fun entry => low ≤ entry.time ∧ entry.time < high

/-- Whether a probe of a hijack is open. -/
def IsOpen (l : Listener) (number serial : Nat) : Prop :=
  ∃ hijack ∈ l.hijacks, hijack.number = number ∧
    ∃ probe, hijack.probe = some probe ∧ probe.serial = serial

/-- The probes that were sent at some ticks. -/
def probesAt (number : Nat) (taken : List Ticker.Taken) : List Entry :=
  taken.mapIdx fun serial one => ⟨one.time, .probed number serial⟩

theorem map_time_probesAt (number : Nat) (taken : List Ticker.Taken) :
    (probesAt number taken).map Entry.time = taken.map Ticker.Taken.time := by
  refine List.ext_getElem? fun serial => ?_
  simp only [probesAt, List.getElem?_map, List.getElem?_mapIdx, Option.map_map]
  rfl

/-- A hijack after a step in which it has sent no probe. -/
inductive Quiet (l : Listener) : Hijack → Prop
  | became {before hijack : Hijack} (member : before ∈ l.hijacks)
      (became : before.Became l.setup.link l.now hijack) (quiet : hijack.sent = before.sent) :
      l.Quiet hijack
  | started (target : Address) :
      l.Quiet (.start l.hijackCount target l.setup.config.hijackInterval l.setup.interval_pos l.now)

/-- What a step does to the probes of the hijacks. -/
inductive Probed (l next : Listener) : Prop
  | silent (probes : ∀ number, next.probes number = l.probes number)
      (quiet : ∀ hijack ∈ next.hijacks, l.Quiet hijack)
  /-- A hijack sends a probe. -/
  | sends {index : Nat} {hijack later : Hijack} (running : l.shutdown = false)
      (found : l.hijacks[index]? = some hijack)
      (step : hijack.step? l.setup.link l.now = some later) (sends : hijack.sent < later.sent)
      (hijacks : next.hijacks = l.hijacks.set index later)
      (history : next.history = l.history ++ [⟨l.now, .probed hijack.number hijack.sent⟩])

theorem Quiet.still {l : Listener} {hijack : Hijack} (member : hijack ∈ l.hijacks) :
    l.Quiet hijack :=
  .became member .still rfl

theorem Quiet.of_mem_set {l : Listener} {index : Nat} {before later hijack : Hijack}
    (found : l.hijacks[index]? = some before)
    (became : before.Became l.setup.link l.now later) (quiet : later.sent = before.sent)
    (member : hijack ∈ l.hijacks.set index later) : l.Quiet hijack := by
  rcases List.mem_or_eq_of_mem_set member with there | rfl
  · exact .still there
  · exact .became (List.mem_of_getElem? found) became quiet

/-- Only a hijack that acts sends a probe. -/
theorem Tells.probes {l next : Listener} {step : Step} {events : List Event}
    (tells : l.Tells step events next) (other : ∀ index, step ≠ .move (.hijack index))
    (number : Nat) : next.probes number = l.probes number := by
  have silent : (events.map (Entry.mk l.now)).filter (·.isProbeOf number) = [] := by
    rw [List.filter_eq_nil_iff]
    intro entry member
    obtain ⟨event, told, rfl⟩ := List.mem_map.mp member
    cases event with
    | probed =>
        obtain ⟨index, same⟩ := tells.told _ told
        exact absurd same (other index)
    | _ => exact Bool.false_ne_true
  rw [Listener.probes, tells.history, List.filter_append, silent, List.append_nil]
  rfl

theorem Issued.quiet {l next : Listener} {command : Command} (issued : Issued l command next)
    {hijack : Hijack} (member : hijack ∈ next.hijacks) : l.Quiet hijack := by
  have sent {hijack : Hijack} {serial : Nat} {datagram : Bytes} :
      (hijack.hear l.setup.config.framing serial datagram).1.sent = hijack.sent := by
    rcases hijack.hear_fst l.setup.config.framing serial datagram with same | ended
    · rw [same]
    · rw [ended]
  cases issued with
  | heard _ found => exact .of_mem_set found (.heard _ _ _) sent member
  | learned _ _ found => exact .of_mem_set found (.heard _ _ _) sent member
  | enlisted =>
      rcases List.mem_append.mp member with there | new
      · exact .still there
      · rw [List.mem_singleton.mp new]
        exact .started _
  | _ => exact .still member

theorem Moved.probed {l next : Listener} {move : Move} (moved : Moved l move next) :
    l.Probed next := by
  have ⟨events, tells⟩ := moved.told
  cases moved with
  | hijackEnded =>
      exact .silent (fun _ => rfl) fun _ member => .still (List.mem_of_mem_eraseIdx member)
  | @hijackWent index hijack later found running step =>
      by_cases sends : hijack.sent < later.sent
      · rw [if_pos sends]
        exact .sends running found step sends rfl rfl
      · rw [if_neg sends, recordAll_nil]
        have became : hijack.Became l.setup.link l.now later := .went step
        have quiet := Nat.le_antisymm (Nat.le_of_not_lt sends) became.goes.sent_le
        exact .silent (fun _ => rfl) fun _ member => .of_mem_set found became quiet member
  | handled =>
      refine .silent (tells.probes nofun) fun _ member => .still ?_
      rw [(handled_handle _ _ _).eq_update] at member
      exact member
  | _ => exact .silent (tells.probes nofun) fun _ => .still (l := l)

theorem Went.probed {l next : Listener} {step : Step} (went : Went l step next) :
    l.Probed next := by
  have ⟨events, tells⟩ := went.told
  cases went with
  | command issued => exact .silent (tells.probes nofun) fun _ => issued.quiet
  | move moved => exact moved.probed
  | closeSessions => exact .silent (tells.probes nofun) fun _ => .still (l := l)

/-- A hijack that was started at `origin` has sent its probes at some ticks. -/
structure Keeps (l : Listener) (number origin : Nat) (taken : List Ticker.Taken) : Prop where
  known : number < l.hijackCount
  probes : l.probes number = probesAt number taken
  kept : Ticker.Kept origin l.setup.config.hijackInterval.nanos taken
  past : ∀ one ∈ taken, one.time ≤ l.now
  hijack : ∀ hijack ∈ l.hijacks, hijack.number = number →
    hijack.Keeps origin l.setup.config.hijackInterval.nanos taken

theorem Went.hijackCount_le {l next : Listener} {step : Step} (went : Went l step next) :
    l.hijackCount ≤ next.hijackCount := by
  cases went.tended with
  | still _ count => exact Nat.le_of_eq count.symm
  | became _ _ _ _ _ count => exact Nat.le_of_eq count.symm
  | enlisted _ _ count => exact count ▸ Nat.le_succ _
  | ended _ _ count => exact Nat.le_of_eq count.symm

/-- The probe of a hijack is told as the next one of that hijack, and of no other. -/
theorem probes_of_history {l next : Listener} {time hijack serial : Nat}
    (history : next.history = l.history ++ [⟨time, .probed hijack serial⟩]) (number : Nat) :
    next.probes number =
      l.probes number ++ if hijack = number then [⟨time, .probed hijack serial⟩] else [] := by
  rw [Listener.probes, history, List.filter_append, List.filter_singleton]
  simp [Entry.isProbeOf, Listener.probes]

theorem Went.keeps {l next : Listener} {step : Step} {number origin : Nat}
    {taken : List Ticker.Taken} (went : Went l step next) (manned : l.Manned)
    (keeps : l.Keeps number origin taken) : ∃ taken, next.Keeps number origin taken := by
  have known : number < next.hijackCount := Nat.lt_of_lt_of_le keeps.known went.hijackCount_le
  have past (one : Ticker.Taken) (member : one ∈ taken) : one.time ≤ next.now :=
    Nat.le_trans (keeps.past one member) went.now_le
  rcases went.probed with ⟨probes, quiet⟩ |
    @⟨index, acting, later, running, found, step, sends, hijacks, history⟩
  · refine ⟨taken, known, (probes number).trans keeps.probes, went.setup ▸ keeps.kept, past, ?_⟩
    intro hijack member same
    rw [went.setup]
    cases quiet hijack member with
    | started => exact absurd (same ▸ keeps.known) (Nat.lt_irrefl _)
    | @became before _ there became silent =>
        have same : before.number = number := became.goes.number ▸ same
        exact (keeps.hijack before there same).became became silent
  · have probes := probes_of_history history number
    by_cases same : acting.number = number
    · have member := List.mem_of_getElem? found
      obtain ⟨tick, grows, goes⟩ := (keeps.hijack acting member same).sends keeps.kept keeps.past
        step sends
      refine ⟨taken ++ [⟨tick, l.now⟩], known, ?_, went.setup ▸ grows, ?_, ?_⟩
      · rw [probes, if_pos same, keeps.probes, same, (keeps.hijack acting member same).sent,
          probesAt, probesAt, List.mapIdx_concat]
      · exact List.forall_mem_append.mpr ⟨past, List.forall_mem_singleton.mpr went.now_le⟩
      · intro hijack member numbered
        obtain ⟨place, stands⟩ := List.mem_iff_getElem?.mp member
        have there : next.hijacks[index]? = some later := by
          rw [hijacks, List.getElem?_set_self (List.getElem?_eq_some_iff.mp found).1]
        -- Both stand at the place that their number tells.
        have placed := manned.placed_after went.tended running stands
        have own := manned.placed_after went.tended running there
        have keeping : later.number = acting.number := (Hijack.Became.went step).goes.number
        obtain rfl : place = index := by omega
        obtain rfl : hijack = later := Option.some.inj (stands.symm.trans there)
        rw [went.setup]
        exact goes
    · rw [if_neg same, List.append_nil] at probes
      refine ⟨taken, known, probes.trans keeps.probes, went.setup ▸ keeps.kept, past, ?_⟩
      intro hijack member numbered
      rw [went.setup]
      rw [hijacks] at member
      rcases List.mem_or_eq_of_mem_set member with there | rfl
      · exact keeps.hijack hijack there numbered
      · have goes : acting.Goes l.setup.link hijack := (Hijack.Became.went step).goes
        exact absurd (goes.number ▸ numbered) same

/-- Only hijacks that were started send probes. -/
theorem Went.probes_eq_nil {l next : Listener} {step : Step} (went : Went l step next)
    (manned : l.Manned) (unstarted : ∀ number, l.hijackCount ≤ number → l.probes number = [])
    (number : Nat) (outside : next.hijackCount ≤ number) : next.probes number = [] := by
  have fresh := unstarted number (Nat.le_trans went.hijackCount_le outside)
  rcases went.probed with ⟨probes, _⟩ | ⟨running, found, step, sends, hijacks, history⟩
  · rw [probes, fresh]
  · have placed := manned.placed running _ _ found
    have inside := (List.getElem?_eq_some_iff.mp found).1
    have counted := manned.counted running
    have grows := went.hijackCount_le
    rw [probes_of_history history, fresh, if_neg (by omega)]
    rfl

theorem probes_eq_nil {setup : Setup} {steps : List Step} {l : Listener}
    (followed : (start setup).follow steps = some l) {number : Nat}
    (unstarted : l.hijackCount ≤ number) : l.probes number = [] := by
  have invariant : l.Manned ∧ ∀ number, l.hijackCount ≤ number → l.probes number = [] := by
    apply follow_induction (P := fun s => s.Manned ∧
      ∀ number, s.hijackCount ≤ number → s.probes number = []) _ _ followed
    · rintro step _ s next ⟨manned, unstarted⟩ went
      exact ⟨went.manned manned, went.probes_eq_nil manned unstarted⟩
    · exact ⟨manned_start setup, fun _ _ => rfl⟩
  exact invariant.2 number unstarted

/-- A hijack that is started has sent no probe. -/
theorem keeps_enlist {setup : Setup} {steps : List Step} {l : Listener}
    (followed : (start setup).follow steps = some l) (running : l.shutdown = false)
    (target : Address) : (l.enlist target).Keeps l.hijackCount l.now [] where
  known := Nat.lt_succ_self _
  probes := probes_eq_nil followed (Nat.le_refl _)
  kept := ⟨List.forall_mem_nil _, .nil⟩
  past := List.forall_mem_nil _
  hijack := by
    intro hijack member same
    rcases List.mem_append.mp member with there | new
    · obtain ⟨index, found⟩ := List.mem_iff_getElem?.mp there
      have manned := manned_follow followed
      have placed := manned.placed running index hijack found
      have inside := (List.getElem?_eq_some_iff.mp found).1
      have counted := manned.counted running
      omega
    · rw [List.mem_singleton.mp new]
      exact Hijack.keeps_start _ _ _ _ _

theorem Keeps.follow {l last : Listener} {steps : List Step} {number origin : Nat}
    {taken : List Ticker.Taken} (keeps : l.Keeps number origin taken) (manned : l.Manned)
    (followed : l.follow steps = some last) : ∃ taken, last.Keeps number origin taken := by
  have invariant : last.Manned ∧ ∃ taken, last.Keeps number origin taken := by
    apply follow_induction (P := fun s => s.Manned ∧ ∃ taken, s.Keeps number origin taken) _ _
      followed
    · rintro step _ s next ⟨manned, taken, keeps⟩ went
      exact ⟨went.manned manned, went.keeps manned keeps⟩
    · exact ⟨manned, taken, keeps⟩
  exact invariant.2

/-- An answer to a probe that is not open changes nothing. -/
theorem hear_of_not_isOpen {l : Listener} {number serial : Nat} (datagram : Bytes)
    (ended : ¬ l.IsOpen number serial) : l.hear number serial datagram = l := by
  rw [hear]
  split
  · rfl
  · split
    · rfl
    · rename_i index known
      split
      · rfl
      · rename_i hijack found
        have deaf : hijack.hear l.setup.config.framing serial datagram = (hijack, none) := by
          rw [Hijack.hear]
          split
          · rfl
          · rename_i probe opened
            refine if_neg fun same => ended ?_
            exact ⟨hijack, List.mem_of_getElem? found, number_of_findIdx? known found, probe,
              opened, same⟩
        obtain ⟨inside, rfl⟩ := List.getElem?_eq_some_iff.mp found
        rw [deaf]
        simp only [List.set_getElem_self]

/-- When things have settled, the time of an open probe is not up. -/
theorem Settled.lt_deadline {l : Listener} (settled : l.Settled) {hijack : Hijack}
    {probe : OpenProbe} (member : hijack ∈ l.hijacks) (opened : hijack.probe = some probe) :
    l.now < probe.deadline := by
  by_contra passed
  obtain ⟨index, found⟩ := List.mem_iff_getElem?.mp member
  cases running : l.shutdown with
  | true => exact settled.not_moved (.hijackEnded found running)
  | false =>
      have step : hijack.step? l.setup.link l.now = some { hijack with probe := none } := by
        rw [Hijack.step?, opened]
        exact if_pos (Nat.le_of_not_lt passed)
      exact settled.not_moved (.hijackWent found running step)

/-- The probe of a hijack that is open is the last one that it has sent. -/
theorem Keeps.open_last {l : Listener} {number origin serial : Nat} {taken : List Ticker.Taken}
    (keeps : l.Keeps number origin taken) (opened : l.IsOpen number serial) :
    ∃ time, (l.probes number).getLast? = some ⟨time, .probed number serial⟩ ∧
      (l.Settled → l.now < time + l.setup.config.hijackInterval.nanos) := by
  obtain ⟨hijack, member, same, probe, opened, rfl⟩ := opened
  obtain ⟨last, one, latest, deadline⟩ := (keeps.hijack hijack member same).opened probe opened
  refine ⟨one.time, ?_, fun settled => deadline ▸ settled.lt_deadline member opened⟩
  rw [keeps.probes, probesAt, List.getLast?_eq_getElem?, List.length_mapIdx, List.getElem?_mapIdx,
    ← last, Nat.add_sub_cancel]
  rw [List.getLast?_eq_getElem?, ← last, Nat.add_sub_cancel] at latest
  rw [latest]
  rfl

theorem Keeps.probesWithin_le {l : Listener} {number origin : Nat} {taken : List Ticker.Taken}
    (keeps : l.Keeps number origin taken) (turn : Nat) :
    l.probesWithin number (origin + turn * l.setup.config.hijackInterval.nanos)
      (origin + (turn + 1) * l.setup.config.hijackInterval.nanos) ≤
        Ticker.slack / l.setup.config.hijackInterval.nanos + 1 := by
  have few := keeps.kept.countP_le l.setup.interval_pos turn
  rw [← map_time_probesAt number, ← keeps.probes, List.countP_map] at few
  exact few

/-- Along every schedule a hijack of a listener probes its target at a pace.  At most one of its
probes is open, the last one that it has sent, and the answers to all others change nothing; when
things have settled, an open probe was sent less than a period ago.  Each probe is sent at a tick of
its own, not before it is due, and after one that is sent too late the next tick to be taken was not
due by then.  So if the period is longer than the slack of the ticker, at most one probe is sent
within each period of the grid that the ticks lie on; in a shorter one there may be as many more as
there are ticks within the slack. -/
theorem probes_keep_pace {setup : Setup} {before after : List Step} {l last : Listener}
    {names : Names} {endpoint : String} {target : Address}
    (followed : (start setup).follow before = some l) (held : l.released = false)
    (running : l.shutdown = false) (resolved : Endpoint.resolve names endpoint = .ok target)
    (went : (l.issue (.hijack names endpoint)).follow after = some last) :
    (∀ serial other, last.IsOpen l.hijackCount serial → last.IsOpen l.hijackCount other →
      serial = other) ∧
    (∀ serial, last.IsOpen l.hijackCount serial →
      ∃ time, (last.probes l.hijackCount).getLast? =
          some ⟨time, .probed l.hijackCount serial⟩ ∧
        (last.Settled → last.now < time + setup.config.hijackInterval.nanos)) ∧
    (∀ serial, ¬ last.IsOpen l.hijackCount serial → ∀ datagram,
      last.issue (.answerProbe l.hijackCount serial datagram) = last) ∧
    (∃ taken, last.probes l.hijackCount = probesAt l.hijackCount taken ∧
      Ticker.Kept l.now setup.config.hijackInterval.nanos taken) ∧
    (∀ turn, last.probesWithin l.hijackCount
        (l.now + turn * setup.config.hijackInterval.nanos)
        (l.now + (turn + 1) * setup.config.hijackInterval.nanos) ≤
      Ticker.slack / setup.config.hijackInterval.nanos + 1) ∧
    (Ticker.slack < setup.config.hijackInterval.nanos →
      ∀ turn, last.probesWithin l.hijackCount
          (l.now + turn * setup.config.hijackInterval.nanos)
          (l.now + (turn + 1) * setup.config.hijackInterval.nanos) ≤ 1) := by
  have same : l.setup = setup := setup_follow followed
  have issued : l.issue (.hijack names endpoint) = l.enlist target := by
    rw [issue, ifHeld, held, running, resolved]
    rfl
  have began : (start setup).follow (before ++ [.command (.hijack names endpoint)]) =
      some (l.enlist target) :=
    follow_append_eq_some_iff.mpr ⟨l, followed, by rw [← issued]; rfl⟩
  rw [issued] at went
  obtain ⟨taken, keeps⟩ := (keeps_enlist followed running target).follow (manned_follow began) went
  obtain rfl : last.setup = setup := (setup_follow went).trans same
  refine ⟨?_, ?_, ?_, ⟨taken, keeps.probes, keeps.kept⟩, keeps.probesWithin_le, ?_⟩
  · intro serial other first second
    obtain ⟨_, one, _⟩ := keeps.open_last first
    obtain ⟨_, another, _⟩ := keeps.open_last second
    cases one.symm.trans another
    rfl
  · exact fun serial => keeps.open_last
  · exact fun serial ended datagram => hear_of_not_isOpen datagram ended
  · intro long turn
    have few := keeps.probesWithin_le turn
    rwa [Nat.div_eq_of_lt long] at few

/-- The first probe of a hijack gets no answer, and the hijack wakes only after `late` nanoseconds.
It gives up that probe, and its next one is answered at once. -/
def latePong (late : Nat) : List Step :=
  [.move (.hijack 0), .command (.advance late), .move (.hijack 0), .move (.hijack 0),
    .command (.answerProbe 0 1 (Pong.encode .lengthPrefixed ⟨5, 9, [0x61]⟩))]

/-- A hijack that wakes late skips the ticks that it has missed: within the same period of a second
it sends no other probe, although the late one has been answered. -/
theorem probes_keep_pace_of_late_pong :
    ∃ last, ((start .plain).issue (.hijack Names.loopback "127.0.0.1:19133")).follow
        (latePong 2500000000 ++ [.command (.advance 499999999)]) = some last ∧
      last.probes 0 = [⟨0, .probed 0 0⟩, ⟨2500000000, .probed 0 1⟩] ∧
      last.probesWithin 0 2000000000 3000000000 ≤ 1 := by
  have some? : (((start .plain).issue (.hijack Names.loopback "127.0.0.1:19133")).follow
      (latePong 2500000000 ++ [.command (.advance 499999999)])).any (fun last =>
        last.probes 0 = [⟨0, .probed 0 0⟩, ⟨2500000000, .probed 0 1⟩]) = true := by
    decide +kernel
  have resolved : Endpoint.resolve Names.loopback "127.0.0.1:19133" =
      .ok (.v4 0x7F000001 19133) := by
    decide +kernel
  rcases (Option.any_eq_true _ _).mp some? with ⟨last, went, sent⟩
  have started : (start .plain).follow [] = some (start .plain) := rfl
  obtain ⟨_, _, _, _, _, few⟩ := probes_keep_pace started rfl rfl resolved went
  exact ⟨last, went, of_decide_eq_true sent, few (by decide) 2⟩

/-- With a period of two milliseconds, a hijack that wakes after five takes the two ticks that it
has missed one after the other, and sends two probes within the same period. -/
theorem missed_ticks_bunch_up :
    ∃ last, ((start .brisk).issue (.hijack Names.loopback "127.0.0.1:19133")).follow
        (latePong 5000000 ++ [.move (.hijack 0)]) = some last ∧
      last.probes 0 =
        [⟨0, .probed 0 0⟩, ⟨5000000, .probed 0 1⟩, ⟨5000000, .probed 0 2⟩] ∧
      ¬ last.probesWithin 0 (0 + 2 * Setup.brisk.config.hijackInterval.nanos)
        (0 + (2 + 1) * Setup.brisk.config.hijackInterval.nanos) ≤ 1 := by
  have some? : (((start .brisk).issue (.hijack Names.loopback "127.0.0.1:19133")).follow
      (latePong 5000000 ++ [.move (.hijack 0)])).any (fun last =>
        last.probes 0 =
          [⟨0, .probed 0 0⟩, ⟨5000000, .probed 0 1⟩, ⟨5000000, .probed 0 2⟩]) = true := by
    decide +kernel
  rcases (Option.any_eq_true _ _).mp some? with ⟨last, went, sent⟩
  have sent := of_decide_eq_true sent
  refine ⟨last, went, sent, ?_⟩
  rw [probesWithin, sent]
  decide

end Listener

end Anteroom

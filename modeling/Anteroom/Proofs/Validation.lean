import Anteroom.Listener.Builder
import Anteroom.Proofs.Documents

/-!
# Valid configurations

Making a configuration valid replaces what is empty and nothing else, so the
queue of a listener has room and its timers have a period.  A queue that is too
long to be built is not replaced, and a listener with such a configuration does
not start, although its endpoint can be bound.
-/

namespace Anteroom

namespace Config

/-- What becomes of a configuration that is made valid: a field that is empty is replaced by one
that is not, all others are kept, and so is a queue that is too long to be built. -/
structure Mends (given valid : Config) : Prop where
  version : valid.protocolVersion = given.protocolVersion
  capacity : valid.acceptQueueCapacity = given.acceptQueueCapacity ∨
    given.acceptQueueCapacity.toNat = 0 ∧ valid.acceptQueueCapacity = 1
  timeout : valid.handshakeTimeout = given.handshakeTimeout ∨
    given.handshakeTimeout.nanos = 0 ∧ valid.handshakeTimeout = Span.ofSeconds 10
  interval : valid.hijackInterval = given.hijackInterval ∨
    given.hijackInterval.nanos = 0 ∧ valid.hijackInterval = Span.ofSeconds 1
  capacity_pos : 0 < valid.acceptQueueCapacity.toNat
  timeout_pos : 0 < valid.handshakeTimeout.nanos
  interval_pos : 0 < valid.hijackInterval.nanos
  buildable : valid.acceptQueueCapacity.toNat ≤ maxQueueCapacity ↔
    given.acceptQueueCapacity.toNat ≤ maxQueueCapacity

/-- A span is replaced only if it is empty. -/
theorem nonempty_eq_or (span default : Span) :
    nonempty span default = span ∨ span.nanos = 0 ∧ nonempty span default = default := by
  rw [nonempty]
  split
  · rename_i empty
    exact .inr ⟨empty, rfl⟩
  · exact .inl rfl

/-- The capacity of the queue is replaced only if there is no room at all. -/
theorem validated_acceptQueueCapacity_eq_or (config : Config) :
    config.validated.acceptQueueCapacity = config.acceptQueueCapacity ∨
      config.acceptQueueCapacity.toNat = 0 ∧ config.validated.acceptQueueCapacity = 1 := by
  rw [validated]
  split
  · rename_i empty
    rw [empty]
    exact .inr ⟨rfl, rfl⟩
  · exact .inl rfl

/-- Whether a queue can be built does not change. -/
theorem validated_buildable_iff (config : Config) :
    config.validated.acceptQueueCapacity.toNat ≤ maxQueueCapacity ↔
      config.acceptQueueCapacity.toNat ≤ maxQueueCapacity := by
  rcases config.validated_acceptQueueCapacity_eq_or with same | ⟨empty, one⟩
  · rw [same]
  · refine iff_of_true ?_ ?_
    · rw [one]
      decide
    · exact empty ▸ Nat.zero_le maxQueueCapacity

theorem mends_validated (config : Config) : config.Mends config.validated where
  version := rfl
  capacity := config.validated_acceptQueueCapacity_eq_or
  timeout := nonempty_eq_or _ _
  interval := nonempty_eq_or _ _
  capacity_pos := Nat.pos_of_ne_zero fun zero =>
    config.validated_acceptQueueCapacity_ne_zero (UInt64.toNat_inj.mp zero)
  timeout_pos := config.validated_handshakeTimeout_pos
  interval_pos := config.validated_hijackInterval_pos
  buildable := config.validated_buildable_iff

end Config

namespace Builder

variable (builder : Builder) {names : Names} (id : Int64) {link : Link} (plan : Nat → Plan)

/-- A listener whose endpoint can be bound starts unless its queue is too long to be built. -/
theorem listen_of_bindable {address : Address}
    (resolved : Endpoint.resolve names builder.endpoint = .ok address)
    (free : link.bindFault? address = none) :
    builder.listen names id link plan =
      if builder.config.acceptQueueCapacity.toNat ≤ Config.maxQueueCapacity then
        .ok (.start (builder.setup id link plan))
      else .error .unbuildable := by
  have buildable : (builder.setup id link plan).capacity ≤ Config.maxQueueCapacity ↔
      builder.config.acceptQueueCapacity.toNat ≤ Config.maxQueueCapacity :=
    builder.config.validated_buildable_iff
  have same : (builder.setup id link plan).link = link := rfl
  simp only [listen, Listener.listen, resolved, same, free, buildable]

/-- A listener fails to be built exactly if its endpoint can be bound and its queue is too long. -/
theorem listen_eq_unbuildable_iff :
    builder.listen names id link plan = .error .unbuildable ↔
      (∃ address, Endpoint.resolve names builder.endpoint = .ok address ∧
        link.bindFault? address = none) ∧
      Config.maxQueueCapacity < builder.config.acceptQueueCapacity.toNat := by
  have same : (builder.setup id link plan).link = link := rfl
  cases resolved : Endpoint.resolve names builder.endpoint with
  | error error => simp [listen, Listener.listen, resolved]
  | ok address =>
      cases free : link.bindFault? address with
      | some fault => simp [listen, Listener.listen, resolved, same, free]
      | none =>
          rw [builder.listen_of_bindable id plan resolved free]
          split
          · rename_i short
            simp [short]
          · rename_i long
            simp [Nat.not_le.mp long, free]

end Builder

namespace Config

/-- Whatever a configuration is, making it valid replaces just what is empty, and what has been
made valid stays so; a listener is built with it at every endpoint that can be bound, unless its
queue is longer than any that can be built. -/
theorem validated_mends (config : Config) :
    config.Mends config.validated ∧ config.validated.validated = config.validated ∧
    ∀ (names : Names) (endpoint : String) (id : Int64) (link : Link) (plan : Nat → Plan),
      (({ endpoint, config } : Builder).listen names id link plan = .error .unbuildable ↔
        (∃ address, Endpoint.resolve names endpoint = .ok address ∧
          link.bindFault? address = none) ∧
        maxQueueCapacity < config.acceptQueueCapacity.toNat) ∧
      (config.acceptQueueCapacity.toNat ≤ maxQueueCapacity →
        ∀ address, Endpoint.resolve names endpoint = .ok address →
          link.bindFault? address = none →
          ({ endpoint, config } : Builder).listen names id link plan =
            .ok (.start (.ofConfig id config link plan))) := by
  refine ⟨config.mends_validated, config.validated_validated, ?_⟩
  intro names endpoint id link plan
  refine ⟨Builder.listen_eq_unbuildable_iff { endpoint, config } id plan, ?_⟩
  intro short address resolved free
  exact (Builder.listen_of_bindable { endpoint, config } id plan resolved free).trans
    (if_pos short)

/-- A configuration whose fields are all empty. -/
def bare : Config where
  acceptQueueCapacity := 0
  handshakeTimeout := Span.ofSeconds 0
  hijackInterval := Span.ofSeconds 0

/-- A listener starts where everything that its configuration leaves empty is replaced. -/
theorem validated_mends_of_bare :
    Endpoint.resolve Names.loopback "0.0.0.0:19132" = .ok (.v4 0 19132) ∧
      ({ endpoint := "0.0.0.0:19132", config := bare } : Builder).listen Names.loopback 7
        Link.routed (fun _ => .raw) =
          .ok (.start (.ofConfig 7 bare Link.routed fun _ => .raw)) ∧
      bare.validated.acceptQueueCapacity = 1 ∧
      bare.validated.handshakeTimeout = Span.ofSeconds 10 ∧
      bare.validated.hijackInterval = Span.ofSeconds 1 := by
  have resolved : Endpoint.resolve Names.loopback "0.0.0.0:19132" = .ok (.v4 0 19132) := rfl
  have listened := ((validated_mends bare).2.2 Names.loopback "0.0.0.0:19132" 7 Link.routed
    fun _ => .raw).2 (by decide) (.v4 0 19132) resolved rfl
  exact ⟨resolved, listened, rfl, rfl, rfl⟩

/-- A queue one place longer than the longest that can be built. -/
def overlong : Config where
  acceptQueueCapacity := 2305843009213693952

/-- A configuration can be read from its document that is not usable when it has been made valid:
its listener does not start at an endpoint that can be bound. -/
theorem overlong_unbuildable :
    ofDocument? overlong.document.toUTF8.toList = some overlong ∧
      ¬ overlong.validated.acceptQueueCapacity.toNat ≤ maxQueueCapacity ∧
      ({ endpoint := "0.0.0.0:19132", config := overlong } : Builder).listen Names.loopback 7
        Link.routed (fun _ => .raw) = .error .unbuildable := by
  have blank : ∀ c ∈ ("" ++ "" : String).toList, c ∈ [' ', '\t', '\n', '\r'] := by simp
  have read := overlong.ofDocument?_blanks blank
  rw [String.empty_append, String.append_empty] at read
  exact ⟨read, by decide, rfl⟩

end Config

end Anteroom

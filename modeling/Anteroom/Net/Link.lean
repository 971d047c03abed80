import Anteroom.Net.Host

/-!
# Links

A link is what the sockets of a host can do: the addresses they can be bound
to, and the addresses they can send to.  No socket sends to port 0.  A host
whose network is down has no addresses and sends nothing at all, whatever the
address.
-/

namespace Anteroom

/-- Why no socket can be bound to an address. -/
inductive BindFault
  /-- The host needs a scope, and none is given. -/
  | noScope
  /-- The scope is that of no interface. -/
  | unknownScope
  /-- The host is that of another. -/
  | foreignHost
  deriving DecidableEq, Repr

/-- The text of a fault of binding. -/
def BindFault.message : BindFault → String
  | noScope => "Invalid argument (os error 22)"
  | unknownScope => "No such device (os error 19)"
  | foreignHost => "Cannot assign requested address (os error 99)"

/-- What the sockets of a host can do. -/
structure Link where
  /-- Why no socket can be bound to an address, if none can. -/
  bindFault? : Address → Option BindFault
  /-- Whether a socket can send to an address. -/
  reaches : Address → Bool

namespace Link

/-- A host with a route: only port 0 cannot be sent to. -/
def routed : Link where
  bindFault? _ := none
  reaches address := address.port != 0

/-- Why no socket can be bound to an address on a host without addresses, whose one interface has
number 1.  Any IPv4 host will do.  Of the IPv6 hosts a socket is bound to the unspecified one, to
one that stands for an IPv4 host, and to a multicast one. -/
def unassigned : Address → Option BindFault
  | .v4 _ _ => none
  | .v6 upper lower _ _ scope =>
      if Host.isScoped upper ∧ scope = 0 then some .noScope
      else if Host.isScoped upper ∧ scope ≠ 1 then some .unknownScope
      else if Host.isMulticast upper then none
      else if upper = 0 ∧ (lower = 0 ∨ lower >>> 32 = 0xffff) then none
      else some .foreignHost

/-- A host whose network is down, where every attempt to send fails. -/
def cut : Link where
  bindFault? := unassigned
  reaches _ := false

/-- Why a datagram could not be sent. -/
def fault : String :=
  "destination unreachable"

@[simp]
theorem cut_reaches (address : Address) : cut.reaches address = false :=
  rfl

@[simp]
theorem routed_reaches (address : Address) :
    routed.reaches address = true ↔ address.port ≠ 0 := by
  simp [routed]

@[simp]
theorem routed_bindFault? (address : Address) : routed.bindFault? address = none :=
  rfl

end Link

end Anteroom

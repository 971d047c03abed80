import Anteroom.Session.Basic

/-!
# The session registry

All sessions that exist are numbered in the order they came; the number is the
identity of the session.  The table of registered sessions maps the address of
a peer to the number of its session.  It keeps one entry for each address.

Removing a session takes its entry away only if the table still maps its
address to this very session, so a late removal never hits a newer session of
the same peer.
-/

namespace Anteroom

/-- The table of registered sessions: their addresses and numbers. -/
abbrev Table := List (Address × Nat)

namespace Table

/-- The number registered for an address. -/
def find? (table : Table) (address : Address) : Option Nat :=
  List.lookup address table

/-- The table without the entry of an address. -/
def erase (table : Table) (address : Address) : Table :=
  List.filter (fun entry => entry.1 != address) table

/-- The table with `number` as the entry of an address. -/
def insert (table : Table) (address : Address) (number : Nat) : Table :=
  table.erase address ++ [(address, number)]

/-- The registered numbers. -/
def numbers (table : Table) : List Nat :=
  List.map Prod.snd table

end Table

/-- All sessions, and the table of those that are registered. -/
structure Registry where
  sessions : List Session := []
  table : Table := []

namespace Registry

/-- The session of a number. -/
def session? (registry : Registry) (number : Nat) : Option Session :=
  registry.sessions[number]?

/-- Changes a session. -/
def modify (registry : Registry) (number : Nat) (change : Session → Session) : Registry :=
  { registry with sessions := registry.sessions.modify number change }

/-- Adds a session without registering it; it gets the next number. -/
def add (registry : Registry) (session : Session) : Registry :=
  { registry with sessions := registry.sessions ++ [session] }

/-- Registers a session under its address, and gives the number it displaces there. -/
def register (registry : Registry) (number : Nat) : Registry × Option Nat :=
  match registry.session? number with
  | some session =>
      ({ registry with table := registry.table.insert session.address number },
        registry.table.find? session.address)
  | none => (registry, none)

/-- Takes a session out of the table if it is the one registered under its address; tells
whether it was. -/
def unregister (registry : Registry) (number : Nat) : Registry × Bool :=
  match registry.session? number with
  | some session =>
      if registry.table.find? session.address = some number then
        ({ registry with table := registry.table.erase session.address }, true)
      else
        (registry, false)
  | none => (registry, false)

/-- Closes a session, and gives the failure it ends in. -/
def closeSession (registry : Registry) (number : Nat) : Registry × Option CloseError :=
  match registry.session? number with
  | some session =>
      (registry.modify number fun session => session.close.1,
        session.closeFault.map fun cause => { peer := session.address, cause })
  | none => (registry, none)

/-- Closes the given sessions in order, whatever failures there are, and gives these. -/
def closeEach (registry : Registry) : List Nat → Registry × List CloseError
  | [] => (registry, [])
  | number :: others =>
      let (registry, failure) := registry.closeSession number
      let (registry, failures) := closeEach registry others
      (registry, failure.toList ++ failures)

/-- Closes every registered session and gives the failures. -/
def closeAll (registry : Registry) : Registry × List CloseError :=
  registry.closeEach registry.table.numbers

/-- The outcome of closing all sessions: the first failure, if there is one. -/
def closeResult (failures : List CloseError) : Except CloseError Unit :=
  match failures with
  | [] => .ok ()
  | failure :: _ => .error failure

/-- Empties the table without closing anything. -/
def clear (registry : Registry) : Registry :=
  { registry with table := [] }

/-- The number of registered sessions. -/
def size (registry : Registry) : Nat :=
  registry.table.length

/-- Whether no session is registered. -/
def isEmpty (registry : Registry) : Bool :=
  registry.table.isEmpty

/-! ## What the operations change -/

@[simp]
theorem session?_modify (registry : Registry) (number : Nat) (change : Session → Session)
    (other : Nat) :
    (registry.modify number change).session? other =
      if number = other then (registry.session? other).map change
      else registry.session? other := by
  simp only [modify, session?, List.getElem?_modify]
  split <;> simp

@[simp]
theorem table_modify (registry : Registry) (number : Nat) (change : Session → Session) :
    (registry.modify number change).table = registry.table :=
  rfl

@[simp]
theorem length_modify (registry : Registry) (number : Nat) (change : Session → Session) :
    (registry.modify number change).sessions.length = registry.sessions.length :=
  List.length_modify ..

theorem modify_eq_self {registry : Registry} {number : Nat}
    (unknown : registry.session? number = none) (change : Session → Session) :
    registry.modify number change = registry := by
  have outside : registry.sessions.length ≤ number := List.getElem?_eq_none_iff.mp unknown
  simp [modify, List.modify_eq_self outside]

/-- Putting in place of a session what it changes to is changing it. -/
theorem modify_const {registry : Registry} {number : Nat} {session : Session}
    (found : registry.session? number = some session) (change : Session → Session) :
    registry.modify number (fun _ => change session) = registry.modify number change := by
  have same : registry.sessions.modify number (fun _ => change session) =
      registry.sessions.modify number change := by
    apply List.ext_getElem?
    intro other
    rw [List.getElem?_modify, List.getElem?_modify]
    split
    · rename_i here
      subst here
      rw [show registry.sessions[number]? = some session from found]
      rfl
    · rfl
  rw [modify, same]
  rfl

theorem session?_add (registry : Registry) (session : Session) (number : Nat) :
    (registry.add session).session? number =
      if number = registry.sessions.length then some session else registry.session? number := by
  simp only [add, session?]
  split
  · rename_i last
    simp [last]
  · rename_i other
    rcases Nat.lt_or_gt_of_ne other with inside | outside
    · rw [List.getElem?_append_left inside]
    · rw [List.getElem?_eq_none (by simp; omega), List.getElem?_eq_none (by omega)]

@[simp]
theorem sessions_register (registry : Registry) (number : Nat) :
    (registry.register number).1.sessions = registry.sessions := by
  rw [register]
  split <;> rfl

@[simp]
theorem sessions_unregister (registry : Registry) (number : Nat) :
    (registry.unregister number).1.sessions = registry.sessions := by
  rw [unregister]
  split
  · split <;> rfl
  · rfl

@[simp]
theorem session?_register (registry : Registry) (number other : Nat) :
    (registry.register number).1.session? other = registry.session? other := by
  simp [session?]

@[simp]
theorem session?_unregister (registry : Registry) (number other : Nat) :
    (registry.unregister number).1.session? other = registry.session? other := by
  simp [session?]

/-- Adding a session and registering it makes it the one registered for its address. -/
theorem register_add (registry : Registry) (session : Session) :
    (registry.add session).register registry.sessions.length =
      ({ sessions := registry.sessions ++ [session]
         table := registry.table.insert session.address registry.sessions.length },
        registry.table.find? session.address) := by
  have found : (registry.add session).session? registry.sessions.length = some session := by
    simp [session?_add]
  rw [register, found]
  rfl

/-- Closing a session changes it alone. -/
theorem closeSession_eq (registry : Registry) (number : Nat) :
    (registry.closeSession number).1 = registry.modify number fun session => session.close.1 := by
  rw [closeSession]
  split
  · rfl
  · rename_i unknown
    exact (modify_eq_self unknown _).symm

@[simp]
theorem session?_closeSession (registry : Registry) (number other : Nat) :
    (registry.closeSession number).1.session? other =
      if number = other then (registry.session? other).map fun session => session.close.1
      else registry.session? other := by
  rw [closeSession_eq, session?_modify]

@[simp]
theorem table_closeSession (registry : Registry) (number : Nat) :
    (registry.closeSession number).1.table = registry.table := by
  rw [closeSession_eq, table_modify]

@[simp]
theorem length_closeSession (registry : Registry) (number : Nat) :
    (registry.closeSession number).1.sessions.length = registry.sessions.length := by
  rw [closeSession_eq, length_modify]

end Registry

end Anteroom

import Mathlib.Logic.Function.Basic
import Anteroom.Proofs.Registry

/-!
# The table as a map of handles

Seen from outside, a registry whose sessions are given is a map from addresses
to session numbers.  The number of a session is its identity: sessions of one
peer have the same address and different numbers, and it is the number that
decides whether a removal hits.  Whatever requests are made of a registry, it
answers as the map does, and its table lists what is in the map, each number
once.
-/

namespace Anteroom

namespace Registry

/-- A request to a registry. -/
inductive Request
  | insert (number : Nat)
  | find (address : Address)
  | removeIfSame (number : Nat)
  | closeAll
  | clear
  deriving DecidableEq

/-- The answer to a request. -/
inductive Answer
  /-- The number that an inserted one displaces. -/
  | displaced (number : Option Nat)
  | found (number : Option Nat)
  /-- Whether a number was removed. -/
  | removed (removed : Bool)
  | done
  deriving DecidableEq

/-- The registry after a request, and the answer. -/
def serve (registry : Registry) : Request → Registry × Answer
  | .insert number => ((registry.register number).1, .displaced (registry.register number).2)
  | .find address => (registry, .found (registry.table.find? address))
  | .removeIfSame number =>
      ((registry.unregister number).1, .removed (registry.unregister number).2)
  | .closeAll => (registry.closeAll.1, .done)
  | .clear => (registry.clear, .done)

/-- The registry after a list of requests, and the answers. -/
def serveAll (registry : Registry) : List Request → Registry × List Answer
  | [] => (registry, [])
  | request :: requests =>
      let (next, answer) := registry.serve request
      let (last, answers) := next.serveAll requests
      (last, answer :: answers)

/-- The address of the session of a number. -/
def address? (registry : Registry) (number : Nat) : Option Address :=
  (registry.session? number).map Session.address

end Registry

/-- A map from addresses to session numbers. -/
abbrev Handles := Address → Option Nat

namespace Handles

open Registry (Request Answer)

variable (address? : Nat → Option Address)

/-- The map without entries. -/
def empty : Handles :=
  fun _ => none

/-- The map after a request, and the answer.  Numbers that have no address are not inserted. -/
def serve (handles : Handles) : Request → Handles × Answer
  | .insert number =>
      match address? number with
      | some address =>
          (Function.update handles address (some number), .displaced (handles address))
      | none => (handles, .displaced none)
  | .find address => (handles, .found (handles address))
  | .removeIfSame number =>
      match address? number with
      | some address =>
          if handles address = some number then
            (Function.update handles address none, .removed true)
          else (handles, .removed false)
      | none => (handles, .removed false)
  | .closeAll => (handles, .done)
  | .clear => (empty, .done)

/-- The map after a list of requests, and the answers. -/
def serveAll (handles : Handles) : List Request → Handles × List Answer
  | [] => (handles, [])
  | request :: requests =>
      let (next, answer) := serve address? handles request
      let (last, answers) := serveAll next requests
      (last, answer :: answers)

end Handles

namespace Registry

/-! ## What a request keeps -/

/-- A registry stands for a map: what is found in its table is what the map has, and every number
of the map has the address it is under. -/
structure Represents (registry : Registry) (handles : Handles) : Prop where
  unique : registry.table.Unique
  find : ∀ address, registry.table.find? address = handles address
  owned : ∀ {address : Address} {number : Nat}, handles address = some number →
    registry.address? number = some address

theorem represents_empty {registry : Registry} (new : registry.table = []) :
    registry.Represents Handles.empty where
  unique := new ▸ Table.unique_nil
  find address := by
    rw [new]
    rfl
  owned found := by cases found

/-- A request does not change the sessions, other than by closing them. -/
theorem sessions_serve (registry : Registry) {request : Request} (other : request ≠ .closeAll) :
    (registry.serve request).1.sessions = registry.sessions := by
  cases request with
  | insert number => exact registry.sessions_register number
  | removeIfSame number => exact registry.sessions_unregister number
  | closeAll => exact absurd rfl other
  | find | clear => rfl

/-- Closing sessions does not change their addresses. -/
theorem address?_closeEach (registry : Registry) (numbers : List Nat) (number : Nat) :
    (registry.closeEach numbers).1.address? number = registry.address? number := by
  induction numbers generalizing registry with
  | nil => rfl
  | cons first others ih =>
      rw [closeEach_cons, ih, address?, session?_closeSession]
      split
      · rw [Option.map_map]
        rfl
      · rfl

theorem table_closeEach (registry : Registry) (numbers : List Nat) :
    (registry.closeEach numbers).1.table = registry.table := by
  induction numbers generalizing registry with
  | nil => rfl
  | cons first others ih => rw [closeEach_cons, ih, table_closeSession]

/-- No request changes the address of a session. -/
theorem address?_serve (registry : Registry) (request : Request) :
    (registry.serve request).1.address? = registry.address? := by
  funext number
  by_cases closing : request = .closeAll
  · subst closing
    exact registry.address?_closeEach _ number
  · rw [address?, session?, registry.sessions_serve closing]
    rfl

theorem address?_serveAll (registry : Registry) (requests : List Request) :
    (registry.serveAll requests).1.address? = registry.address? := by
  induction requests generalizing registry with
  | nil => rfl
  | cons request requests ih => exact (ih _).trans (registry.address?_serve request)

theorem Represents.insert {registry : Registry} {handles : Handles}
    (represents : registry.Represents handles) {number : Nat} {session : Session}
    (known : registry.session? number = some session) :
    ({ registry with table := registry.table.insert session.address number
      } : Registry).Represents (Function.update handles session.address (some number)) where
  unique := represents.unique.insert session.address number
  find address := by
    rw [Table.find?_insert, Function.update_apply, represents.find]
  owned := by
    intro address other found
    rw [Function.update_apply] at found
    split at found
    · rename_i same
      cases found
      exact (congrArg (Option.map Session.address) known).trans (congrArg some same.symm)
    · exact represents.owned found

theorem Represents.erase {registry : Registry} {handles : Handles}
    (represents : registry.Represents handles) (address : Address) :
    ({ registry with table := registry.table.erase address } : Registry).Represents
      (Function.update handles address none) where
  unique := represents.unique.erase address
  find other := by
    rw [Table.find?_erase, Function.update_apply, represents.find]
  owned := by
    intro other number found
    rw [Function.update_apply] at found
    split at found
    · cases found
    · exact represents.owned found

/-- A registry that stands for a map answers a request as the map does, and goes on standing for
it. -/
theorem Represents.serve {registry : Registry} {handles : Handles}
    (represents : registry.Represents handles) (request : Request) :
    (registry.serve request).1.Represents (handles.serve registry.address? request).1 ∧
      (registry.serve request).2 = (handles.serve registry.address? request).2 := by
  cases request with
  | insert number =>
      cases known : registry.session? number with
      | none =>
          have unknown : registry.address? number = none := by rw [address?, known]; rfl
          simp only [Registry.serve, register, known, Handles.serve, unknown]
          exact ⟨represents, trivial⟩
      | some session =>
          have owner : registry.address? number = some session.address := by
            rw [address?, known]
            rfl
          simp only [Registry.serve, register, known, Handles.serve, owner, represents.find]
          exact ⟨represents.insert known, trivial⟩
  | find address => exact ⟨represents, congrArg Answer.found (represents.find address)⟩
  | removeIfSame number =>
      cases known : registry.session? number with
      | none =>
          have unknown : registry.address? number = none := by rw [address?, known]; rfl
          simp only [Registry.serve, unregister, known, Handles.serve, unknown]
          exact ⟨represents, trivial⟩
      | some session =>
          have owner : registry.address? number = some session.address := by
            rw [address?, known]
            rfl
          simp only [Registry.serve, unregister, known, Handles.serve, owner, represents.find]
          split
          · exact ⟨represents.erase session.address, rfl⟩
          · exact ⟨represents, rfl⟩
  | closeAll =>
      refine ⟨⟨?_, ?_, ?_⟩, rfl⟩
      · rw [Registry.serve, closeAll, table_closeEach]
        exact represents.unique
      · intro address
        rw [Registry.serve, closeAll, table_closeEach]
        exact represents.find address
      · intro address number found
        exact (registry.address?_closeEach _ number).trans (represents.owned found)
  | clear => exact ⟨represents_empty rfl, rfl⟩

/-- The same for a list of requests. -/
theorem Represents.serveAll {registry : Registry} {handles : Handles}
    (represents : registry.Represents handles) (requests : List Request) :
    (registry.serveAll requests).1.Represents
        (handles.serveAll registry.address? requests).1 ∧
      (registry.serveAll requests).2 = (handles.serveAll registry.address? requests).2 := by
  induction requests generalizing registry handles with
  | nil => exact ⟨represents, rfl⟩
  | cons request requests ih =>
      rcases represents.serve request with ⟨next, answer⟩
      rcases ih next with ⟨last, answers⟩
      rw [registry.address?_serve] at last answers
      exact ⟨last, congrArg₂ List.cons answer answers⟩

/-! ## What the table lists -/

theorem Represents.mem_numbers_iff {registry : Registry} {handles : Handles}
    (represents : registry.Represents handles) {number : Nat} :
    number ∈ registry.table.numbers ↔ ∃ address, handles address = some number := by
  simp only [Table.mem_numbers_iff represents.unique, represents.find]

theorem Represents.nodup_numbers {registry : Registry} {handles : Handles}
    (represents : registry.Represents handles) : registry.table.numbers.Nodup := by
  apply Table.nodup_numbers represents.unique
  intro address other number found found'
  rw [represents.find] at found found'
  exact Option.some.inj ((represents.owned found).symm.trans (represents.owned found'))

/-- The listed numbers have different addresses. -/
theorem Represents.nodup_addresses {registry : Registry} {handles : Handles}
    (represents : registry.Represents handles) :
    (registry.table.numbers.map registry.address?).Nodup := by
  apply (List.nodup_map_iff_inj_on represents.nodup_numbers).mpr
  intro number member other member' same
  rcases represents.mem_numbers_iff.mp member with ⟨address, found⟩
  rcases represents.mem_numbers_iff.mp member' with ⟨address', found'⟩
  rw [represents.owned found, represents.owned found'] at same
  cases same
  exact Option.some.inj (found.symm.trans found')

/-- A registry with an empty table answers every list of requests as the map of handles does, and
has in its table what the map has: each number once, under an address of its own.  Only closing
all sessions touches a session.  Addresses with another flow label or scope are other keys. -/
theorem serveAll_eq_handles {registry last : Registry} {requests : List Request}
    {answers : List Answer} (new : registry.table = [])
    (served : registry.serveAll requests = (last, answers)) :
    ∃ handles : Handles,
      Handles.empty.serveAll registry.address? requests = (handles, answers) ∧
      (∀ address, last.table.find? address = handles address) ∧
      (∀ number, number ∈ last.table.numbers ↔
        ∃ address, registry.address? number = some address ∧ handles address = some number) ∧
      last.table.numbers.Nodup ∧
      (last.table.numbers.map registry.address?).Nodup ∧
      last.size = last.table.numbers.length ∧
      (last.isEmpty = true ↔ last.table.numbers = []) ∧
      (∀ request, request ≠ .closeAll → (last.serve request).1.sessions = last.sessions) ∧
      (∀ number upper lower port flow scope flow' scope',
        registry.address? number = some (.v6 upper lower port flow scope) →
        (flow ≠ flow' ∨ scope ≠ scope') →
          (last.serve (.insert number)).1.table.find? (.v6 upper lower port flow' scope') =
            handles (.v6 upper lower port flow' scope')) := by
  rcases (represents_empty new).serveAll requests with ⟨represents, same⟩
  have addresses : last.address? = registry.address? := by
    have kept := registry.address?_serveAll requests
    rwa [served] at kept
  rw [served] at represents same
  refine ⟨_, Prod.ext rfl same.symm, represents.find, ?_, represents.nodup_numbers,
    addresses ▸ represents.nodup_addresses, ?_, ?_, ?_, ?_⟩
  · intro number
    rw [represents.mem_numbers_iff]
    constructor
    · rintro ⟨address, found⟩
      exact ⟨address, addresses ▸ represents.owned found, found⟩
    · rintro ⟨address, _, found⟩
      exact ⟨address, found⟩
  · exact (List.length_map ..).symm
  · rw [isEmpty, List.isEmpty_iff, Table.numbers, List.map_eq_nil_iff]
  · intro request other
    exact last.sessions_serve other
  · intro number upper lower port flow scope flow' scope' owner apart
    have next := (represents.serve (.insert number)).1.find (.v6 upper lower port flow' scope')
    rw [next, addresses, Handles.serve, owner]
    apply Function.update_of_ne
    intro equal
    cases equal
    rcases apart with flows | scopes
    · exact flows rfl
    · exact scopes rfl

/-- Two sessions of one peer and one of a peer on another link. -/
def rivals : Registry where
  sessions :=
    [.raw (.v6 0xfe80000000000000 1 4000 0 1) 1400 7,
      .raw (.v6 0xfe80000000000000 1 4000 0 1) 1400 8,
      .raw (.v6 0xfe80000000000000 1 4000 0 2) 1400 9]

/-- A session that has been displaced cannot remove the one that is in its place. -/
theorem serveAll_eq_handles_of_rivals :
    ∃ (last : Registry) (handles : Handles),
      rivals.serveAll [.insert 0, .insert 1, .removeIfSame 0, .insert 2, .insert 0, .removeIfSame 1,
        .closeAll] =
        (last, [.displaced none, .displaced (some 0), .removed false, .displaced none,
          .displaced (some 1), .removed false, .done]) ∧
      last.table.numbers = [2, 0] ∧ last.table.numbers.Nodup ∧
      last.table.find? (.v6 0xfe80000000000000 1 4000 0 1) =
        handles (.v6 0xfe80000000000000 1 4000 0 1) := by
  have served : rivals.serveAll [.insert 0, .insert 1, .removeIfSame 0, .insert 2, .insert 0,
      .removeIfSame 1, .closeAll] =
      (_, [.displaced none, .displaced (some 0), .removed false, .displaced none,
        .displaced (some 1), .removed false, .done]) := rfl
  rcases serveAll_eq_handles rfl served with ⟨handles, _, found, _, distinct, _⟩
  exact ⟨_, handles, served, rfl, distinct, found _⟩

end Registry

end Anteroom

import Sero.Core.Types
import Sero.Library.Table

/-!
# Registered services

An entry's function pointers and context are one `ServiceContext`: either an
application object or the built-in diagnostics service.
-/

namespace Sero

open Library

variable {n : Nat}

/-- The object behind a service entry. -/
inductive ServiceContext where
  | application (context : Nat)
  | diagnostics
  deriving DecidableEq, Repr

structure ServiceEntry where
  serviceId : UInt16
  majorVersion : UInt8
  minorVersion : UInt8
  authRequired : Bool := false
  active : Bool := true
  context : ServiceContext
  deriving DecidableEq, Repr

structure MethodDispatcher (cfg : Config n) where
  services : List ServiceEntry := []

namespace MethodDispatcher

variable {cfg : Config n}

/-- The loop test shared by registration, removal and lookup. -/
def holds (serviceId : UInt16) (entry : ServiceEntry) : Bool :=
  entry.active && entry.serviceId == serviceId

def registerService (dispatcher : MethodDispatcher cfg) (entry : ServiceEntry) :
    Bool × MethodDispatcher cfg :=
  if dispatcher.services.any (holds entry.serviceId) then (false, dispatcher)
  else if dispatcher.services.length < cfg.maxServices then
    (true, { services := dispatcher.services ++ [entry] })
  else (false, dispatcher)

def unregisterService (dispatcher : MethodDispatcher cfg) (serviceId : UInt16) :
    Bool × MethodDispatcher cfg :=
  if dispatcher.services.any (holds serviceId) then
    (true, { services := Table.swapRemove (holds serviceId) dispatcher.services })
  else (false, dispatcher)

def find (dispatcher : MethodDispatcher cfg) (serviceId : UInt16) : Option ServiceEntry :=
  dispatcher.services.find? (holds serviceId)

theorem find_serviceId {dispatcher : MethodDispatcher cfg} {serviceId : UInt16}
    {entry : ServiceEntry} (found : dispatcher.find serviceId = some entry) :
    entry.serviceId = serviceId := by
  have holding := List.find?_some found
  simp only [holds, Bool.and_eq_true, beq_iff_eq] at holding
  exact holding.2

/-! ## The table as a map -/

/-- Every entry is active, and no service is registered twice. -/
structure Keyed (dispatcher : MethodDispatcher cfg) : Prop where
  active : ∀ entry ∈ dispatcher.services, entry.active = true
  distinct : Table.Distinct ServiceEntry.serviceId dispatcher.services

section Keyed

variable {dispatcher : MethodDispatcher cfg}

theorem Keyed.empty : Keyed ({} : MethodDispatcher cfg) :=
  ⟨by simp, List.nodup_nil⟩

/-- Among active entries the loop test compares ids. -/
theorem Keyed.holds_eq (keyed : dispatcher.Keyed) (serviceId : UInt16) :
    ∀ entry ∈ dispatcher.services, holds serviceId entry = (entry.serviceId == serviceId) := by
  intro entry member
  rw [holds, keyed.active entry member, Bool.true_and]

theorem Keyed.find_eq (keyed : dispatcher.Keyed) (serviceId : UInt16) :
    dispatcher.find serviceId =
      Table.lookup ServiceEntry.serviceId serviceId dispatcher.services :=
  List.find?_congr (keyed.holds_eq serviceId)

theorem Keyed.registerService (keyed : dispatcher.Keyed) {entry : ServiceEntry}
    (active : entry.active = true) : (dispatcher.registerService entry).2.Keyed := by
  rw [MethodDispatcher.registerService]
  split
  · exact keyed
  · next unused =>
      split
      · have fresh : Table.lookup ServiceEntry.serviceId entry.serviceId dispatcher.services =
            none := by
          rw [← keyed.find_eq, find, List.find?_eq_none]
          simpa using unused
        constructor
        · intro other member
          rcases List.mem_append.mp member with old | new
          · exact keyed.active other old
          · cases List.mem_singleton.mp new
            exact active
        · exact Table.Distinct.append_of_fresh keyed.distinct fresh
      · exact keyed

/-- Only a service that is not registered yet is registered. -/
theorem find_of_registered {entry : ServiceEntry}
    (registered : (dispatcher.registerService entry).1 = true) :
    dispatcher.find entry.serviceId = none := by
  rw [MethodDispatcher.registerService] at registered
  split at registered
  · cases registered
  · next unused =>
      rw [find, List.find?_eq_none]
      simpa using unused

/-- Registering a service adds it and changes no other. -/
theorem find_registerService (dispatcher : MethodDispatcher cfg) {entry : ServiceEntry}
    (active : entry.active = true) (serviceId : UInt16) :
    (dispatcher.registerService entry).2.find serviceId =
      (dispatcher.find serviceId).or
        (if (dispatcher.registerService entry).1 = true ∧ serviceId = entry.serviceId then
          some entry
        else none) := by
  rw [MethodDispatcher.registerService]
  split
  · simp
  · split
    · have appended : ({ services := dispatcher.services ++ [entry] } :
          MethodDispatcher cfg).find serviceId =
            (dispatcher.find serviceId).or ([entry].find? (holds serviceId)) :=
        List.find?_append
      rw [appended]
      by_cases same : serviceId = entry.serviceId
      · simp [holds, active, same]
      · simp [holds, same, Ne.symm same]
    · simp

theorem registerService_refused {entry : ServiceEntry}
    (refused : (dispatcher.registerService entry).1 = false) :
    (dispatcher.registerService entry).2 = dispatcher := by
  rw [registerService] at refused ⊢
  split at refused
  · next known => rw [if_pos known]
  · next unused =>
      split at refused
      · cases refused
      · next full => rw [if_neg unused, if_neg full]

/-- Unregistering takes a registration back. -/
theorem unregisterService_registerService {entry : ServiceEntry} (active : entry.active = true)
    (registered : (dispatcher.registerService entry).1 = true) :
    (dispatcher.registerService entry).2.unregisterService entry.serviceId =
      (true, dispatcher) := by
  rw [registerService] at registered ⊢
  split at registered
  · cases registered
  · next unused =>
      have passes : holds entry.serviceId entry = true := by
        rw [holds, active, beq_self_eq_true, Bool.true_and]
      have others : dispatcher.services.any (holds entry.serviceId) = false :=
        Bool.eq_false_iff.mpr unused
      split at registered
      · next room =>
          rw [if_neg unused, if_pos room, unregisterService, List.any_append, List.any_cons,
            passes, Bool.true_or, Bool.or_true, if_pos rfl, Table.swapRemove_append others passes]
      · cases registered

theorem unregisterService_refused {removed : UInt16}
    (refused : (dispatcher.unregisterService removed).1 = false) :
    (dispatcher.unregisterService removed).2 = dispatcher := by
  rw [MethodDispatcher.unregisterService] at *
  split at refused
  · cases refused
  · next unused => rw [if_neg unused]

theorem Keyed.unregisterService (keyed : dispatcher.Keyed) (removed : UInt16) :
    (dispatcher.unregisterService removed).2.Keyed := by
  rw [MethodDispatcher.unregisterService]
  split
  · constructor
    · intro entry member
      have erased := (Table.swapRemove_perm _ _).mem_iff.mp member
      exact keyed.active entry (List.mem_of_mem_eraseP erased)
    · exact Table.Distinct.swapRemove keyed.distinct _
  · exact keyed

/-- Unregistering removes the service and changes no other. -/
theorem Keyed.find_unregisterService (keyed : dispatcher.Keyed) (removed serviceId : UInt16) :
    (dispatcher.unregisterService removed).2.find serviceId =
      if serviceId = removed then none else dispatcher.find serviceId := by
  have after := keyed.unregisterService removed
  rw [after.find_eq, keyed.find_eq, MethodDispatcher.unregisterService]
  split
  · rw [Table.swapRemove_congr (keyed.holds_eq removed)]
    exact Table.Distinct.lookup_swapRemove keyed.distinct removed serviceId
  · next unused =>
      split
      · next same =>
          subst same
          have free : dispatcher.find serviceId = none := by
            rw [find, List.find?_eq_none]
            simpa using unused
          rw [← keyed.find_eq, free]
      · rfl

end Keyed

end MethodDispatcher

end Sero

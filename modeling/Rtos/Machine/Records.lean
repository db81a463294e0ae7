import Rtos.Machine.Basic

/-!
# Calls on registries and kernels
-/

namespace Rtos

namespace Machine

/-- The effect of a registry's reaction on the machine that holds the registry. -/
def ofReaction (machine : Machine) (id : ObjectId) (reaction : Registry.Reaction Label) :
    Effect :=
  { machine := machine.putRegistry id reaction.registry
    reply := Attempt.replyOfAnswer reaction.answer
    events := reaction.events }

/-- The effect of the end of an object that has a result. -/
def ofTeardown (machine : Machine) (label : Label)
    (outcome : Except Error Unit × List LogEvent) : Effect :=
  { machine := (machine.forget label).1
    reply := match outcome.1 with
      | .ok () => .done
      | .error error => .failed error
    events := outcome.2 }

/-- A call on a registry, which has the label under which it was called. -/
def callRegistry (machine : Machine) (attempt : Attempt) (label : Label) (id : ObjectId)
    (call : RegistryCall) : Effect :=
  match machine.registryOf? id with
  | none => { machine, reply := .unknown }
  | some registry =>
      match call with
      | .publish name data => machine.ofReaction id (registry.step name (.publish data))
      | .openRecord name wanted patience =>
          machine.ofReaction id (attempt.openRecord registry name wanted patience)
      | .close name => machine.ofReaction id (registry.step name .close)
      | .destroy name => machine.ofReaction id (registry.step name .destroy)
      | .contains name => { machine, reply := .truth (registry.contains name) }
      | .holders name => { machine, reply := .holders (registry.holders? name) }
      | .size => { machine, reply := .number registry.size }
      | .isEmpty => { machine, reply := .truth (registry.size == 0) }
      | .teardown => machine.ofTeardown label registry.teardown

/-- A call on a kernel, which has the label under which it was called. -/
def callKernel (machine : Machine) (label : Label) (id : ObjectId) (call : KernelCall) :
    Effect :=
  match machine.store.get? id with
  | some (.kernel kernel) =>
      match call with
      | .bringUp =>
          let (next, result, events) := kernel.bringUp
          { machine := machine.putObject id (.kernel next)
            reply := match result with
              | .ok () => .done
              | .error error => .failed error
            events }
      | .config => { machine, reply := .config kernel.config }
      | .teardown => machine.ofTeardown label kernel.teardown
  | _ => { machine, reply := .unknown }

/-- The names and parties of the opens without a limit that are in progress. -/
def unlimitedOpenings (registry : Registry Label) : List (Bytes × Label) :=
  registry.slots.listing.flatMap fun (name, slot) =>
    (slot.openings.filter fun opening => decide (opening.patience = .unlimited)).map
      fun opening => (name, opening.party)

/-- The text of the first report among some events that an open still waits. -/
def reportText? : List LogEvent → Option String
  | [] => none
  | .stillWaiting name interval :: _ => some (LogEvent.stillWaiting name interval).text
  | _ :: events => reportText? events

/-- The opens without a limit that are in progress in the registries of some objects. -/
def unlimitedOpeningsFrom (number : Nat) :
    List Object → List (ObjectId × Registry Label × Bytes × Label)
  | [] => []
  | object :: objects =>
      let here := object.registryOf?.toList.flatMap fun registry =>
        (unlimitedOpenings registry).map fun (name, party) => (⟨number⟩, registry, name, party)
      here ++ unlimitedOpeningsFrom (number + 1) objects

/-- Waits for the next report of an open that still waits. -/
def awaitReport (machine : Machine) : Effect :=
  match unlimitedOpeningsFrom 0 machine.store.objects with
  | [] => { machine, reply := .blocked }
  | (id, registry, name, party) :: _ =>
      let expired := registry.step name (.expire party)
      let rested := expired.registry.proceed name party
      let events := expired.events ++ rested.events
      { machine := machine.putRegistry id rested.registry
        reply := match reportText? events with
          | some text => .report text
          | none => .blocked
        events }

end Machine

end Rtos

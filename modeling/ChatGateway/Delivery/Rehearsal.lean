import ChatGateway.Delivery.Fanout

namespace ChatGateway.Delivery

/-- A subscriber whose deliveries end as a script says, and can be held. -/
structure Rehearsal where
  script : List Outcome := []
  held : Bool := false
  seen : List String := []
  deriving Repr

namespace Rehearsal

def deliver : Subscriber Rehearsal := fun m r =>
  if r.held then none
  else some (r.script.headD .sent, { r with script := r.script.tail, seen := r.seen ++ [m.id] })

def deliverTo (id : String) : Subscriber (List (String × Rehearsal)) := fun m cast =>
  match cast.lookup id with
  | none => some (.sent, cast)
  | some r => (deliver m r).map fun (outcome, r') => (outcome, Keyed.put Prod.fst (id, r') cast)

end Rehearsal

end ChatGateway.Delivery

import PluginHost.Diagnostics.Event

/-!
# Results with the events of their computation

A computation that reports events returns them beside its value, in the order in which they
happened.
-/
namespace PluginHost

/-- A value and the events that were reported while it was computed. -/
structure Traced (α : Type) where
  value : α
  /-- The events, oldest first. -/
  events : List Event := []
deriving Repr

namespace Traced

variable {α β : Type}

instance : Monad Traced where
  pure value := { value := value }
  bind first next :=
    let second := next first.value
    { value := second.value, events := first.events ++ second.events }

def emit (event : Event) : Traced Unit := { value := (), events := [event] }

@[simp] theorem value_pure (value : α) : (pure value : Traced α).value = value := rfl

@[simp] theorem events_pure (value : α) : (pure value : Traced α).events = [] := rfl

@[simp] theorem value_bind (first : Traced α) (next : α → Traced β) :
    (first >>= next).value = (next first.value).value := rfl

@[simp] theorem events_bind (first : Traced α) (next : α → Traced β) :
    (first >>= next).events = first.events ++ (next first.value).events := rfl

@[simp] theorem value_emit (event : Event) : (emit event).value = () := rfl

@[simp] theorem events_emit (event : Event) : (emit event).events = [event] := rfl

end Traced

end PluginHost

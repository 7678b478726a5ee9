import PluginHost.Cache.Basic

/-!
# Steps of a cache session and their reports

A session is driven by steps. Its owner names the handles; a name that stands for nothing makes a
step invalid, and an invalid step changes nothing.
-/
namespace PluginHost

/-- What the cache of a session stores. -/
structure CachedValue where
  label : String
  /-- The text that is looked up in the cache when the value is destroyed. -/
  probe? : Option String := none
deriving DecidableEq, Repr

/-- The last words of a destroyed value. -/
structure Destruction where
  label : String
  /-- Whether the text was found that the value looked up, if it did. -/
  found? : Option Bool := none
deriving DecidableEq, Repr

namespace Destruction

/-- The order of a report: by label, then by what was found, where no lookup comes first and one
that found something comes last. -/
def le (first second : Destruction) : Bool :=
  match compare first.label second.label with
  | .lt => true
  | .gt => false
  | .eq =>
    match first.found?, second.found? with
    | none, _ => true
    | some _, none => false
    | some earlier, some later => earlier ≤ later

end Destruction

/-- The key of a lookup. -/
inductive Probe where
  | handle (id : String)
  /-- An object of this text, made for the lookup alone. -/
  | text (value : String)
deriving DecidableEq, Repr

/-- A step of a session. -/
inductive CacheStep where
  | makeKey (id text : String)
  /-- Makes `id` another handle of the object of `source`. -/
  | share (id source : String)
  | drop (id : String)
  /-- Makes a weak handle of the object of `source`, or one that never had an object. -/
  | makeWeak (id : String) (source? : Option String)
  | dropWeak (id : String)
  | countHandles (id : String)
  | get (probe : Probe)
  | contains (probe : Probe)
  | remove (probe : Probe)
  | put (id : String) (value : CachedValue)
  /-- Stores a value under the object of a weak handle. -/
  | putWeak (id : String) (value : CachedValue)
  /-- Asks for a value, and on a miss runs the steps and then makes this one. -/
  | getOrInsert (id : String) (value : CachedValue) (making : List CacheStep)
  | size
  | isEmpty
  | purge
  | clear
  | entries
  | describe
  | unknown
deriving Repr

/-- An entry as a session lists it. -/
structure ListedEntry where
  text : String
  label : String
  /-- The first handle of the key object, by name. -/
  id? : Option String
deriving DecidableEq, Repr

namespace ListedEntry

/-- The order of a listing: by text, then by label, then by handle, where no handle comes first. -/
def le (first second : ListedEntry) : Bool :=
  match compare first.text second.text with
  | .lt => true
  | .gt => false
  | .eq =>
    match compare first.label second.label with
    | .lt => true
    | .gt => false
    | .eq =>
      match first.id?, second.id? with
      | none, _ => true
      | some _, none => false
      | some earlier, some later => earlier ≤ later

end ListedEntry

mutual

/-- The answer to a step. -/
inductive CacheReply where
  | invalid
  /-- The step was taken, and there is nothing to say about it. -/
  | acknowledged
  | flag (value : Bool)
  | count (value : Nat)
  | handles (strong weak : Nat)
  /-- The label of a value, if there is one. -/
  | label (value? : Option String)
  | refused (error : KeyError)
  /-- The label of a value, and the reports of the steps that made it, if they ran. -/
  | memoized (label : String) (making? : Option (List CacheReport))
  | entries (listed : List ListedEntry)
  | description (cache strategy : String)

/-- What became known since the report before. -/
inductive CacheReport where
  /-- The answer to the step, the values destroyed in the order of a report, and the events. -/
  | mk (reply : CacheReply) (destroyed : List Destruction) (events : List Event)

end

deriving instance Repr for CacheReply, CacheReport

end PluginHost

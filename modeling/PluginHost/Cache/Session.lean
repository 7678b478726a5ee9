import PluginHost.Cache.KeyObject
import PluginHost.Cache.Memo
import PluginHost.Cache.Script

/-!
# Cache sessions

A session owns a cache and the handles of its keys. A key object is alive while a handle holds it,
or while a step that was given it is under way. Values look something up in the cache when they are
destroyed, which may release further slots and destroy their values in turn; that this ends is
because every value destroyed so was stored before.
-/
namespace PluginHost

/-- A cache, the handles of its keys, and what is not reported yet. -/
structure CacheSession where
  matching : KeyMatching
  /-- The least number of operations between two full sweeps. -/
  sweepFloor : UInt64 := 64
  cache : Cache KeyDigest KeyObject CachedValue := {}
  /-- The handles, by name. -/
  handles : List (String × KeyObject) := []
  /-- The weak handles, by name. Some never had an object. -/
  weakHandles : List (String × Option KeyObject) := []
  /-- The objects that steps under way were given. -/
  pinned : List KeyObject := []
  made : Nat := 0
  /-- The values destroyed since the last report, in the order in which they were. -/
  destroyed : List Destruction := []
  events : List Event := []
deriving Repr

/-- What remains to be done while values are destroyed. -/
inductive Demise where
  /-- A value is to be destroyed. -/
  | value (value : CachedValue)
  /-- A value has looked up its text, and what it came across is destroyed. -/
  | report (destruction : Destruction)

namespace Demise

/-- How many steps are left, if no further slots are released. A value takes two. -/
def cost : List Demise → Nat
  | [] => 0
  | value _ :: others => cost others + 2
  | report _ :: others => cost others + 1

def ofValues (values : List CachedValue) : List Demise := values.map value

theorem cost_append (first second : List Demise) :
    cost (first ++ second) = cost first + cost second := by
  induction first with
  | nil => simp [cost]
  | cons demise others ih => cases demise <;> simp [cost, ih] <;> omega

theorem cost_ofValues (values : List CachedValue) : cost (ofValues values) = 2 * values.length := by
  induction values with
  | nil => rfl
  | cons first others ih =>
    simp only [ofValues, List.map_cons, cost, List.length_cons] at ih ⊢
    omega

end Demise

namespace CacheSession

def config (session : CacheSession) : CacheConfig KeyDigest KeyObject :=
  { strategy := session.matching.strategy, sweepFloor := session.sweepFloor }

def isAlive (session : CacheSession) (key : KeyObject) : Bool :=
  session.handles.any (·.2 = key) || session.pinned.contains key

def object? (session : CacheSession) (id : String) : Option KeyObject := session.handles.lookup id

def makeObject (session : CacheSession) (text : String) : KeyObject × CacheSession :=
  (⟨session.made, text⟩, { session with made := session.made + 1 })

/-- The entries of `named`, with this one under its name instead of any other. -/
def assign {α : Type} (id : String) (held : α) (named : List (String × α)) : List (String × α) :=
  (id, held) :: named.filter (·.1 ≠ id)

/-- Releases a name; the flag says whether it stood for anything. -/
def release {α : Type} (id : String) (named : List (String × α)) : Bool × List (String × α) :=
  (named.any (·.1 = id), named.filter (·.1 ≠ id))

/-- Destroys values in turn. A value looks up its text before it is reported, and the values of the
slots released by that are destroyed in between. -/
def destroyAll : List Demise → CacheSession → CacheSession
  | [], session => session
  | .report destruction :: others, session =>
    destroyAll others { session with destroyed := session.destroyed ++ [destruction] }
  | .value value :: others, session =>
    match value.probe? with
    | none => destroyAll (.report ⟨value.label, none⟩ :: others) session
    | some text =>
      let (probe, made) := session.makeObject text
      let sought := session.cache.contains session.config session.isAlive probe
      destroyAll
        (Demise.ofValues (sought.released.map (·.value)) ++
          .report ⟨value.label, some sought.answer⟩ :: others)
        { made with cache := sought.cache, events := session.events ++ sought.events }
termination_by pending session => Demise.cost pending + 2 * session.cache.slotCount
decreasing_by
  · simp [Demise.cost]
  · simp [Demise.cost]
  -- a released value is two steps more, and its slot was worth two
  · have conserved := Cache.slotCount_touch session.config.sweepFloor session.isAlive
      (session.config.strategy.hash probe) session.cache
    simp only [Demise.cost_append, Demise.cost_ofValues, Demise.cost, List.length_map,
      Cache.contains, Cache.Outcome.map]
    omega

def destroy (values : List CachedValue) (session : CacheSession) : CacheSession :=
  session.destroyAll (Demise.ofValues values)

def absorb {α : Type} (outcome : Cache.Outcome KeyDigest KeyObject CachedValue α)
    (session : CacheSession) : CacheSession :=
  { session with
    cache := outcome.cache
    events := session.events ++ outcome.events }.destroy outcome.destroyed

def surroundings : Cache.Surroundings CacheSession KeyDigest KeyObject CachedValue :=
  { cache := (·.cache), alive := isAlive, absorb := absorb }

def operate {α : Type}
    (operation : (KeyObject → Bool) → Cache KeyDigest KeyObject CachedValue →
      Cache.Outcome KeyDigest KeyObject CachedValue α) : StateM CacheSession α := fun session =>
  let outcome := operation session.isAlive session.cache
  (outcome.answer, session.absorb outcome)

/-- The object to look for, if the probe names one. -/
def probeObject? : Probe → StateM CacheSession (Option KeyObject)
  | .handle id => return (← get).object? id
  | .text text => some <$> modifyGet (·.makeObject text)

/-- The answer of an operation on the object of a handle, which must be there. -/
def withObject (key? : Option KeyObject)
    (answer : KeyObject → StateM CacheSession CacheReply) : StateM CacheSession CacheReply :=
  match key? with
  | none => return .invalid
  | some key => answer key

/-- The answer where a value came out of the cache, which is destroyed once it is seen. -/
def discard (value? : Option CachedValue) : StateM CacheSession CacheReply := do
  modify (·.destroy value?.toList)
  return .label (value?.map (·.label))

/-- Makes `id` a handle of an object; the answer says whether it was one already. -/
def hold (id : String) (key : KeyObject) : StateM CacheSession CacheReply := do
  let known := ((← get).object? id).isSome
  modify fun session => { session with handles := assign id key session.handles }
  return .flag known

/-- The number of strong and of weak handles of an object. The cache holds weak ones. -/
def countHandles (session : CacheSession) (key : KeyObject) : CacheReply :=
  .handles (session.handles.countP (·.2 = key) + session.pinned.count key)
    (session.weakHandles.countP (·.2 = some key) +
      (session.cache.slots.flatMap (·.owners)).count key)

/-- The first of the handles of an object, by name. -/
def firstHandle? (session : CacheSession) (key : KeyObject) : Option String :=
  (((session.handles.filter (·.2 = key)).map (·.1)).mergeSort (· ≤ ·)).head?

/-- The entries of the cache in the order of a listing. -/
def listing (session : CacheSession) : List ListedEntry :=
  ((session.cache.entries session.isAlive).map fun (key, value) =>
    ⟨key.text, value.label, session.firstHandle? key⟩).mergeSort ListedEntry.le

/-- Takes what is not reported yet into a report. -/
def report (reply : CacheReply) : StateM CacheSession CacheReport := do
  let session ← get
  set { session with destroyed := [], events := [] }
  return .mk reply (session.destroyed.mergeSort Destruction.le) session.events

mutual

def perform : CacheStep → StateM CacheSession CacheReply
  | .makeKey id text => do hold id (← modifyGet (·.makeObject text))
  | .share id source => do withObject ((← get).object? source) (hold id)
  | .drop id => do
    let (known, rest) := release id (← get).handles
    modify fun session => { session with handles := rest }
    return .flag known
  | .makeWeak id source? => do
    let key? := source?.map (← get).object?
    if key? = some none then
      return .invalid
    modify fun session =>
      { session with weakHandles := assign id (key?.getD none) session.weakHandles }
    return .acknowledged
  | .dropWeak id => do
    let (known, rest) := release id (← get).weakHandles
    modify fun session => { session with weakHandles := rest }
    return .flag known
  | .countHandles id => do
    let session ← get
    withObject (session.object? id) fun key => return session.countHandles key
  | .get probe => do
    let config := (← get).config
    withObject (← probeObject? probe) fun key => do
      return .label ((← operate (Cache.get config · key)).map (·.label))
  | .contains probe => do
    let config := (← get).config
    withObject (← probeObject? probe) fun key => do
      return .flag (← operate (Cache.contains config · key))
  | .remove probe => do
    let config := (← get).config
    withObject (← probeObject? probe) fun key => do
      discard (← operate (Cache.remove config · key))
  | .put id value => do
    let session ← get
    withObject (session.object? id) fun key => do
      discard (← operate (Cache.put session.config · key value))
  | .putWeak id value => do
    let session ← get
    match session.weakHandles.lookup id with
    | none => return .invalid
    | some key? =>
      match ← operate (Cache.putWeak session.config · key? value) with
      | .error error => return .refused error
      | .ok replaced? => discard replaced?
  | .getOrInsert id value making => do
    let session ← get
    withObject (session.object? id) fun key => do
      set { session with pinned := key :: session.pinned }
      let (stored, making?) ← modifyGet
        (Cache.getOrInsert surroundings session.config key fun asked =>
          let (reports, state) := (performAll making).run asked
          ((value, reports), state))
      modify fun session => { session with pinned := session.pinned.erase key }
      return .memoized stored.label making?
  | .size => return .count (← operate Cache.size)
  | .isEmpty => return .flag (← operate Cache.isEmpty)
  | .purge => return .count (← operate Cache.purge)
  | .clear => do
    operate fun _ => Cache.clear
    return .acknowledged
  | .entries => return .entries (← get).listing
  | .describe => do
    let session ← get
    return .description (session.cache.describe session.config) session.matching.describe
  | .unknown => return .invalid

/-- Takes steps in turn, and reports after each. -/
def performAll : List CacheStep → StateM CacheSession (List CacheReport)
  | [] => return []
  | step :: others => do
    let first ← report (← perform step)
    return first :: (← performAll others)

end

/-- The reports of a session that starts with an empty cache. -/
def run (matching : KeyMatching) (sweepFloor : UInt64) (steps : List CacheStep) :
    List CacheReport :=
  ((performAll steps).run { matching := matching, sweepFloor := sweepFloor }).1

end CacheSession

end PluginHost

import PluginHost.Cache.KeyObject
import PluginHost.Proofs.Cache.Exchange

/-!
# Where values go

Every value that is handed to a cache is a token. It is stored in a slot, or it was handed back, or
it was destroyed, and an account of a run says which. Nothing is asked of the strategy.
-/
namespace PluginHost.Cache

variable {H K V : Type}

/-! ## An account of a run -/

/-- A world, and what became of the values that its cache was given. -/
structure Account (H K V : Type) where
  world : World H K V := {}
  handed : List V := []
  returned : List V := []
  destroyed : List V := []
  patrons : V → List K := fun _ => []

namespace Account

variable [DecidableEq H] [DecidableEq K] [DecidableEq V] (config : CacheConfig H K)

/-- The values that are stored. -/
def stored (account : Account H K V) : List V := account.world.cache.slots.map (·.value)

/-- Makes a move and books it. -/
def step (account : Account H K V) (move : Move K V) : Account H K V :=
  let outcome := account.world.respond config move
  { world := account.world.step config move
    handed := account.handed ++ handedBy move outcome.answer
    returned := account.returned ++ returnedBy outcome.answer
    destroyed := account.destroyed ++ outcome.destroyed
    patrons := patronsAfter move outcome.answer account.patrons }

/-- Makes moves in turn. -/
def run (account : Account H K V) (moves : List (Move K V)) : Account H K V :=
  moves.foldl (step config) account

/-- A token is in exactly one place: in one slot, handed back once, or destroyed once. -/
def InOnePlace (account : Account H K V) (token : V) : Prop :=
  account.stored.count token = 1 ∧ account.returned.count token = 0 ∧
      account.destroyed.count token = 0 ∨
    account.stored.count token = 0 ∧ account.returned.count token = 1 ∧
      account.destroyed.count token = 0 ∨
    account.stored.count token = 0 ∧ account.returned.count token = 0 ∧
      account.destroyed.count token = 1

end Account

/-! ## What holds of every account -/

namespace Account

section Kept

variable [DecidableEq H] {config : CacheConfig H K} {account : Account H K V} {slot : Slot K V}

/-- What holds of the account of any run. Patrons that a slot forgot are dead: this needs every
value to have been handed in once. -/
structure Kept (config : CacheConfig H K) (account : Account H K V) : Prop where
  sound : account.world.Sound config
  balanced : (account.stored ++ (account.returned ++ account.destroyed)).Perm account.handed
  fresh : account.handed.Nodup → ∀ token ∉ account.handed, account.patrons token = []
  remembers : account.handed.Nodup → ∀ slot ∈ account.world.cache.slots,
    Remembers account.world.fates account.patrons slot

theorem Kept.start : Kept config ({} : Account H K V) :=
  ⟨.start, .refl _, fun _ _ _ => rfl, fun _ _ hslot => by (cases hslot)⟩

theorem Kept.mem_handed (h : Kept config account) (hslot : slot ∈ account.world.cache.slots) :
    slot.value ∈ account.handed :=
  h.balanced.mem_iff.mp (List.mem_append_left _ (List.mem_map.mpr ⟨slot, hslot, rfl⟩))

/-- An owner that is not alive is dead: it was made when it became an owner. -/
theorem Kept.dead_of_owner (h : Kept config account) (hslot : slot ∈ account.world.cache.slots)
    {owner : K} (howner : owner ∈ slot.owners) (halive : account.world.alive owner = false) :
    account.world.fates owner = .dead := by
  have hknown := h.sound.known slot hslot owner howner
  cases hfate : account.world.fates owner with
  | unmade => exact absurd hfate hknown
  | living =>
    have hliving : account.world.alive owner = true := Fates.alive_iff.mpr hfate
    rw [halive] at hliving
    cases hliving
  | dead => rfl

/-- The patrons of a dead slot are dead. -/
theorem Kept.dead_of_patron (h : Kept config account) (hdistinct : account.handed.Nodup)
    (hslot : slot ∈ account.world.cache.slots)
    (hdead : slot.isLive account.world.alive = false) {key : K}
    (hkey : key ∈ account.patrons slot.value) : account.world.fates key = .dead := by
  rcases h.remembers hdistinct slot hslot key hkey with howner | hfate
  · exact h.dead_of_owner hslot howner (Slot.isLive_eq_false_iff.mp hdead key howner)
  · exact hfate

end Kept

variable [DecidableEq H] [DecidableEq K] [DecidableEq V] {config : CacheConfig H K}
  {account : Account H K V}

theorem Kept.step (h : Kept config account) (move : Move K V) :
    Kept config (account.step config move) := by
  have hexchange : Exchange config account.world.alive account.world.cache move
      (account.world.respond config move) := exchange_respond h.sound.wellFormed move
  have hbalanced := hexchange.balanced
  refine ⟨h.sound.step move, ?_, ?_, ?_⟩
  · refine List.perm_iff_count.mpr fun token => ?_
    have hbefore := h.balanced.count_eq token
    have hmove := hbalanced.count_eq token
    simp only [Account.step, stored, World.step, List.count_append] at hbefore hmove ⊢
    omega
  · intro hdistinct token htoken
    -- a value that is handed in now was not handed in before, so it has no patrons
    obtain ⟨hold, -, hnew⟩ := List.nodup_append.mp hdistinct
    simp only [Account.step, List.mem_append, not_or] at htoken
    have hfresh : ∀ value ∈ handedBy move (account.world.respond config move).answer,
        account.patrons value = [] := fun value hvalue =>
      h.fresh hold value fun hmem => hnew value hmem value hvalue rfl
    have hsame := hexchange.patronsAfter_of_ne hfresh htoken.2 fun hmem => by
      obtain ⟨slot, hslot, rfl⟩ := List.mem_map.mp hmem
      exact htoken.1 (h.mem_handed hslot)
    exact hsame.trans (h.fresh hold token htoken.1)
  · intro hdistinct slot hslot
    obtain ⟨hold, hnow, hnew⟩ := List.nodup_append.mp hdistinct
    have hfresh : ∀ value ∈ handedBy move (account.world.respond config move).answer,
        account.patrons value = [] := fun value hvalue =>
      h.fresh hold value fun hmem => hnew value hmem value hvalue rfl
    -- the stored values were handed in before, so they differ from those handed in now
    have hall := (List.nodup_append.mp (h.balanced.nodup_iff.mpr hold)).1
    have hapart : (account.world.cache.slots.map (·.value) ++
        handedBy move (account.world.respond config move).answer).Nodup := by
      refine List.nodup_append.mpr ⟨hall, hnow, fun value hvalue other hother => ?_⟩
      obtain ⟨slot, hslot, rfl⟩ := List.mem_map.mp hvalue
      exact hnew _ (h.mem_handed hslot) other hother
    have hremembers := hexchange.remembers hapart hfresh (h.remembers hold)
      (fun slot hslot owner => h.dead_of_owner hslot) slot hslot
    intro key hkey
    rcases hremembers key hkey with howner | hfate
    · exact .inl howner
    · exact .inr (World.dead_fatesAfter move hfate)

theorem Kept.run (h : Kept config account) (moves : List (Move K V)) :
    Kept config (account.run config moves) := by
  induction moves generalizing account with
  | nil => exact h
  | cons move moves ih => exact ih (h.step move)

omit [DecidableEq K] in
/-- A token that was handed in once is in one place, and there are no others. -/
theorem Kept.mem_handed_iff (h : Kept config account) (hdistinct : account.handed.Nodup)
    (token : V) : token ∈ account.handed ↔ account.InOnePlace token := by
  have hcount := h.balanced.count_eq token
  simp only [List.count_append] at hcount
  have honce := List.nodup_iff_count.mp hdistinct token
  rw [← List.count_pos_iff]
  simp only [InOnePlace]
  omega

theorem Kept.stays_or_departs (h : Kept config account) (hdistinct : account.handed.Nodup)
    (move : Move K V) {slot : Slot K V} (hslot : slot ∈ account.world.cache.slots) :
    Stays account.world.alive (account.step config move).world.cache slot ∨
      Departs config account.world.fates (account.patrons slot.value) move
        (account.world.respond config move) slot :=
  (exchange_respond h.sound.wellFormed move).stays_or_departs hslot fun hdead _ hkey =>
    h.dead_of_patron hdistinct hslot hdead hkey

end Account

/-- No value is lost, duplicated or dropped early, whatever the strategy. If the values handed in
are different, each of them is in one place at any time; a stored one leaves its slot only for a
good reason; and a rejected one is destroyed and changes nothing. -/
theorem values_accounted_for [DecidableEq H] [DecidableEq K] [DecidableEq V]
    (config : CacheConfig H K) (moves : List (Move K V))
    (hdistinct : (({} : Account H K V).run config moves).handed.Nodup) :
    let account := ({} : Account H K V).run config moves
    (∀ token, token ∈ account.handed ↔ account.InOnePlace token) ∧
      (∀ move, ∀ slot ∈ account.world.cache.slots,
        Stays account.world.alive (account.step config move).world.cache slot ∨
          Departs config account.world.fates (account.patrons slot.value) move
            (account.world.respond config move) slot) ∧
      ∀ key? value, key?.filter account.world.alive = none →
        account.world.respond config (.call (.putWeak key? value)) =
          { answer := .refused .reclaimed, cache := account.world.cache, refused := [value] } := by
  intro account
  have hkept : Account.Kept config account := Account.Kept.start.run moves
  refine ⟨hkept.mem_handed_iff hdistinct,
    fun move slot hslot => hkept.stays_or_departs hdistinct move hslot, fun key? value hkey => ?_⟩
  simp only [World.respond, Call.perform, putWeak]
  rw [show key?.filter account.world.alive = none from hkey]
  rfl

/-- Texts are matched by their beginnings, which is no equivalence. A value is replaced, another one
is not needed, one is rejected, one is removed, and one is swept after its key died. -/
def busyMoves : List (Move KeyObject Nat) :=
  [.key (.birth ⟨0, "ab"⟩), .key (.birth ⟨1, "a"⟩), .key (.birth ⟨2, "b"⟩),
    .call (.put ⟨0, "ab"⟩ 10), .call (.put ⟨1, "a"⟩ 11), .call (.get ⟨2, "b"⟩),
    .settle ⟨2, "b"⟩ 12, .settle ⟨1, "a"⟩ 13, .key (.death ⟨0, "ab"⟩),
    .key (.death ⟨2, "b"⟩), .call (.contains ⟨2, "b"⟩), .call (.putWeak (some ⟨0, "ab"⟩) 14),
    .call (.remove ⟨1, "a"⟩), .call (.putWeak (some ⟨1, "a"⟩) 15)]

theorem values_accounted_for_busy :
    let config : CacheConfig KeyDigest KeyObject :=
      { strategy := KeyMatching.startsWith.strategy, sweepFloor := 3 }
    let account := ({} : Account KeyDigest KeyObject Nat).run config busyMoves
    account.handed.Nodup ∧ account.stored = [15] ∧ account.returned = [10, 11] ∧
      account.destroyed = [13, 12, 14] ∧ ∀ token ∈ account.handed, account.InOnePlace token :=
  have hdistinct : (({} : Account KeyDigest KeyObject Nat).run
      { strategy := KeyMatching.startsWith.strategy, sweepFloor := 3 } busyMoves).handed.Nodup := by
    decide
  ⟨hdistinct, by decide, by decide, by decide,
    fun token => ((values_accounted_for _ busyMoves hdistinct).1 token).mp⟩

end PluginHost.Cache

/-!
# Checked steps on 64-bit numbers

A computation on natural numbers stands for one on words of 64 bits as long as no step leaves their
range. A checked step returns its result or the fault that it runs into, so a computation made of
checked steps that returns a result has left the range nowhere.
-/
namespace PluginHost.Checked

/-- What a step can run into. -/
inductive Fault where
  /-- The result needs more bits than there are. -/
  | overflow
  /-- More is taken away than there is. -/
  | underflow
  /-- A word is shifted by its width or more. -/
  | shiftTooFar
  /-- There is no item at this position. -/
  | outOfBounds
  | outOfMemory
deriving DecidableEq, Repr

/-- The width of a word. -/
def width : Nat := 64

def add (a b : Nat) : Except Fault Nat :=
  if a + b < UInt64.size then .ok (a + b) else .error .overflow

def sub (a b : Nat) : Except Fault Nat := if b ≤ a then .ok (a - b) else .error .underflow

/-- Bits that are shifted out are lost, which is no fault. -/
def shiftLeft (a places : Nat) : Except Fault Nat :=
  if places < width then .ok ((a <<< places) % UInt64.size) else .error .shiftTooFar

/-- The item at a position. -/
def item {α : Type} (items : List α) (position : Nat) : Except Fault α :=
  match items[position]? with
  | some found => .ok found
  | none => .error .outOfBounds

/-- A product that stays at the largest word where it would be larger. -/
def mulSaturating (a b : Nat) : Nat := min (a * b) (UInt64.size - 1)

/-- The number of bits above the highest one of a word. -/
def leadingZeros (n : Nat) : Nat := if n = 0 then width else width - 1 - n.log2

@[simp] theorem ok_bind {α β : Type} (result : α) (next : α → Except Fault β) :
    (Except.ok result >>= next) = next result := rfl

@[simp] theorem error_bind {α β : Type} (fault : Fault) (next : α → Except Fault β) :
    (Except.error fault >>= next) = .error fault := rfl

@[simp] theorem pure_eq_ok {α : Type} (result : α) : (pure result : Except Fault α) = .ok result :=
  rfl

theorem add_eq_ok {a b : Nat} (h : a + b < UInt64.size) : add a b = .ok (a + b) := if_pos h

theorem sub_eq_ok {a b : Nat} (h : b ≤ a) : sub a b = .ok (a - b) := if_pos h

theorem shiftLeft_one {places : Nat} (h : places < width) :
    shiftLeft 1 places = .ok (Nat.pow 2 places) := by
  have hlt : 1 <<< places < UInt64.size := by
    rw [Nat.one_shiftLeft]
    exact Nat.pow_lt_pow_right (by decide) h
  rw [shiftLeft, if_pos h, Nat.mod_eq_of_lt hlt, Nat.one_shiftLeft]
  rfl

theorem item_eq_ok {α : Type} {items : List α} {position : Nat} (h : position < items.length) :
    item items position = .ok items[position] := by
  rw [item, List.getElem?_eq_getElem h]

end PluginHost.Checked

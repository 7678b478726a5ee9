import PluginHost.Contract.Binding

/-!
# Catalogs of bindings

A catalog groups bindings by contract. Contracts stand in the order in which they first occurred,
and the candidates of a contract in the order in which they were added. Equal bindings are kept
apart.
-/
namespace PluginHost

/-- The candidates of one contract. -/
structure Candidates (α : Type) where
  contract : String
  /-- Its bindings, oldest first. -/
  bindings : List (Binding α)
deriving DecidableEq, Repr

/-- Bindings grouped by contract. -/
structure Catalog (α : Type) where
  /-- The groups, in the order in which their contracts first occurred. -/
  groups : List (Candidates α) := []
deriving DecidableEq, Repr

namespace Catalog

variable {α : Type}

def empty : Catalog α := ⟨[]⟩

/-- Adds a binding to the group of its contract, or as a new last group. -/
def insertInto (binding : Binding α) : List (Candidates α) → List (Candidates α)
  | [] => [⟨binding.contract, [binding]⟩]
  | group :: groups =>
    if group.contract = binding.contract then
      { group with bindings := group.bindings ++ [binding] } :: groups
    else
      group :: insertInto binding groups

def insert (catalog : Catalog α) (binding : Binding α) : Catalog α :=
  ⟨insertInto binding catalog.groups⟩

/-- The candidates of a contract; there are none if it never occurred. -/
def candidates (catalog : Catalog α) (contract : String) : List (Binding α) :=
  ((catalog.groups.find? (·.contract == contract)).map (·.bindings)).getD []

/-- The contracts, in the order in which they first occurred. -/
def contracts (catalog : Catalog α) : List String := catalog.groups.map (·.contract)

def size (catalog : Catalog α) : Nat := (catalog.groups.flatMap (·.bindings)).length

def isEmpty (catalog : Catalog α) : Bool := catalog.groups.isEmpty

end Catalog

end PluginHost

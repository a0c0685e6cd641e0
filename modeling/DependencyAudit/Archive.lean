import DependencyAudit.Failure
import DependencyAudit.Text.Decoding

/-!
The names of the entries of a zip archive, in the order of its directory. Nothing but the
directory is read. Numbers stand in bytes with the lowest first. Names are UTF-8 if the entry says
so and code page 437 otherwise, and end at a null character.

Of the format only that is checked which the archive reader in use checks. `maxVersion` is the
version that it knows, and an assumption here.
-/

namespace DependencyAudit.Archive

/-- The number whose bytes stand lowest first. -/
def number : List UInt8 → Nat
  | [] => 0
  | b :: bytes => b.toNat + 256 * number bytes

/-- The number in `width` bytes from `offset` on. -/
def numberAt (bytes : List UInt8) (offset width : Nat) : Nat :=
  number ((bytes.drop offset).take width)

/-! ## Extra fields

The extra field of an entry is made of parts, each with a tag and a size. The part with tag one
holds the numbers of the entry that do not fit into their own places. -/

/-- The value that stands for a number that is found in the extra field. -/
def elsewhere : Nat := 0xFFFFFFFF

/-- The same for the larger numbers. -/
def elsewhereLarge : Nat := 0xFFFFFFFFFFFFFFFF

/-- The numbers of an entry that may stand elsewhere. -/
structure Numbers where
  size : Nat
  packed : Nat
  offset : Nat

/-- A number, and what is left of the content that holds the numbers from elsewhere. -/
def large (field : String) (isElsewhere : Bool) (n : Nat) (content : List UInt8) :
    Except ArchiveFault (Nat × List UInt8) :=
  if !isElsewhere then .ok (n, content)
  else if content.length < 8 then .error (.extraWithout field)
  else .ok (numberAt content 0 8, content.drop 8)

/-- The numbers, with those that stand elsewhere taken from there. -/
def Numbers.enlarge (n : Numbers) (content : List UInt8) : Except ArchiveFault Numbers :=
  match large "File size" (n.size == elsewhere || n.size == elsewhereLarge) n.size content with
  | .error f => .error f
  | .ok (size, content) =>
    match large "Compress size" (n.packed == elsewhere) n.packed content with
    | .error f => .error f
    | .ok (packed, content) =>
      match large "Header offset" (n.offset == elsewhere) n.offset content with
      | .error f => .error f
      | .ok (offset, _) => .ok ⟨size, packed, offset⟩

/-- Checks the extra field of an entry: its parts have to fit, and the numbers that stand
elsewhere have to be there. Each step takes at least four bytes, so `fuel` need not exceed the
number of bytes. -/
def checkExtra : (fuel : Nat) → Numbers → (extra : List UInt8) → Except ArchiveFault Unit
  | 0, _, _ => .ok ()
  | fuel + 1, n, extra =>
    if extra.length < 4 then .ok ()
    else
      let tag := numberAt extra 0 2
      let width := numberAt extra 2 2
      let rest := extra.drop (width + 4)
      if extra.length < width + 4 then .error (.extraTooShort tag width)
      else if tag ≠ 1 then checkExtra fuel n rest
      else
        match n.enlarge ((extra.drop 4).take width) with
        | .error f => .error f
        | .ok m => checkExtra fuel m rest

/-! ## Where the directory lies

It is found through the end record: either the record with an empty comment that takes the last
bytes of the archive, or else the last one whose signature stands in the part of the archive that a
comment could take. The directory lies just before the end record, with bytes in front of the
archive allowed, so nothing depends on the offset that the record gives. The larger end record of
big archives, where its locator is found, overrules the size. -/

def endSignature : List UInt8 := [0x50, 0x4B, 0x05, 0x06]

def largeEndSignature : List UInt8 := [0x50, 0x4B, 0x06, 0x06]

def locatorSignature : List UInt8 := [0x50, 0x4B, 0x06, 0x07]

/-- The bytes of an end record without its comment. -/
def endSize : Nat := 22

def largeEndSize : Nat := 56

def locatorSize : Nat := 20

/-- The most bytes a comment takes, and one. -/
def commentRoom : Nat := 65536

/-- Where the directory is said to lie: the place of the end record, the size of the directory,
and the bytes between directory and end record. -/
structure Frame where
  recordAt : Nat
  size : Nat
  between : Nat
  deriving DecidableEq

/-- The last place at which a signature stands, counted on from `index`. -/
def lastIndexOf (signature : List UInt8) (index : Nat) (found : Option Nat) :
    List UInt8 → Option Nat
  | [] => found
  | b :: bytes =>
    lastIndexOf signature (index + 1)
      (if signature.isPrefixOf (b :: bytes) then some index else found) bytes

def endRecordAt? (bytes : List UInt8) : Option Nat :=
  let length := bytes.length
  if length < endSize then none
  else
    let tail := bytes.drop (length - endSize)
    if endSignature.isPrefixOf tail && numberAt tail 20 2 == 0 then some (length - endSize)
    else
      let start := length - (commentRoom + endSize)
      match lastIndexOf endSignature start none (bytes.drop start) with
      | none => none
      | some place => if length < place + endSize then none else some place

/-- The frame as the end record alone gives it. -/
def smallFrame (bytes : List UInt8) (place : Nat) : Frame :=
  let record := bytes.drop place
  ⟨place, numberAt record 12 4, 0⟩

/-- The frame, by the large end record if its locator is there. -/
def frameAt (bytes : List UInt8) (place : Nat) : Except ArchiveFault Frame :=
  if place < locatorSize then .ok (smallFrame bytes place)
  else
    let locator := bytes.drop (place - locatorSize)
    if !locatorSignature.isPrefixOf locator then .ok (smallFrame bytes place)
    else if numberAt locator 4 4 ≠ 0 ∨ 1 < numberAt locator 16 4 then .error .severalDisks
    else if place < locatorSize + largeEndSize then .error .noEndRecord
    else
      let record := bytes.drop (place - locatorSize - largeEndSize)
      if !largeEndSignature.isPrefixOf record then .ok (smallFrame bytes place)
      else
        .ok ⟨place, numberAt record 40 8, locatorSize + largeEndSize⟩

def directoryBytes (bytes : List UInt8) : Except ArchiveFault (Nat × List UInt8) :=
  match endRecordAt? bytes with
  | none => .error .noEndRecord
  | some place =>
    match frameAt bytes place with
    | .error f => .error f
    | .ok frame =>
      if frame.recordAt < frame.size + frame.between then .error .badOffset
      else
        .ok (frame.size,
          (bytes.drop (frame.recordAt - frame.between - frame.size)).take frame.size)

/-! ## Entries -/

def entrySignature : List UInt8 := [0x50, 0x4B, 0x01, 0x02]

/-- The bytes of a directory entry before its name. -/
def entrySize : Nat := 46

/-- The highest version of the format that is read, times ten. -/
def maxVersion : Nat := 63

def entryName (inUtf8 : Bool) (bytes : List UInt8) : Except ArchiveFault (List Char) :=
  let whole := if inUtf8 then Text.Utf8.decodeStrict bytes else some (Text.CodePage437.decode bytes)
  match whole with
  | none => .error .unreadableName
  | some name => .ok (name.takeWhile (· ≠ '\x00'))

/-- The names in the directory while `left` of its bytes are not accounted for. Each entry
accounts for the bytes that it claims, whether or not they are there. -/
def namesFrom : (fuel : Nat) → (left : Nat) → List UInt8 → Except ArchiveFault (List (List Char))
  | 0, _, _ => .ok []
  | fuel + 1, left, bytes =>
    if left = 0 then .ok []
    else if bytes.length < entrySize then .error .truncated
    else if !entrySignature.isPrefixOf bytes then .error .badSignature
    else
      let nameSize := numberAt bytes 28 2
      let extraSize := numberAt bytes 30 2
      let commentSize := numberAt bytes 32 2
      let rest := bytes.drop entrySize
      match entryName ((numberAt bytes 8 2).testBit 11) (rest.take nameSize) with
      | .error f => .error f
      | .ok name =>
        let version := numberAt bytes 6 1
        if maxVersion < version then .error (.newerVersion version)
        else
          let extra := (rest.drop nameSize).take extraSize
          let numbers := ⟨numberAt bytes 24 4, numberAt bytes 20 4, numberAt bytes 42 4⟩
          match checkExtra extra.length numbers extra with
          | .error f => .error f
          | .ok () =>
            match namesFrom fuel (left - (entrySize + nameSize + extraSize + commentSize))
                (rest.drop (nameSize + extraSize + commentSize)) with
            | .error f => .error f
            | .ok names => .ok (name :: names)

def names (bytes : List UInt8) : Except ArchiveFault (List String) :=
  match directoryBytes bytes with
  | .error f => .error f
  | .ok (size, directory) =>
    (namesFrom (directory.length + 1) size directory).map fun ns => ns.map String.ofList

end DependencyAudit.Archive

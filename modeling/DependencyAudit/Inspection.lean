import DependencyAudit.Disk
import DependencyAudit.Log
import DependencyAudit.Text.Split

/-!
Inspections: computations that ask about files, leave events in the log, and end in a value or
a failure. An inspection only says what it wants to know; who answers is decided by whoever
runs it, so the same inspection runs against a directory tree that is a value (`Inspection.run`)
and against the files of the machine.

Main statements: an inspection is a lawful monad, and running it commutes with sequencing
(`run_bind`) and with recovering from a failure (`run_recover`).

Text files are inspected in two ways. Both unify the line ends; they differ in what they do with
bytes that are not UTF-8, and in what a file that is not there comes to.
-/

namespace DependencyAudit

/-- A computation that may look at files. -/
inductive Inspection (α : Type) where
  | done (value : α)
  | fail (failure : Failure)
  | note (event : Event) (next : Inspection α)
  | kind (path : Path) (next : Except Obstacle Kind → Inspection α)
  | read (path : Path) (next : Except Obstacle (List UInt8) → Inspection α)
  | survey (path : Path) (next : List (List String × Kind) → Inspection α)
  | current (next : Path → Inspection α)

/-- What a run leaves: the events, and the value or failure at the end. -/
structure Trace (α : Type) where
  events : List Event
  outcome : Except Failure α

namespace Inspection

variable {α β γ : Type}

/-- Goes on with what `f` makes of the value. -/
def bind : Inspection α → (α → Inspection β) → Inspection β
  | done a, f => f a
  | fail e, _ => fail e
  | note e next, f => note e (next.bind f)
  | kind p next, f => kind p fun r => (next r).bind f
  | read p next, f => read p fun r => (next r).bind f
  | survey p next, f => survey p fun r => (next r).bind f
  | current next, f => current fun r => (next r).bind f

instance : Monad Inspection where
  pure := done
  bind := bind

/-- Goes on with what `f` makes of a failure. -/
def recover : Inspection α → (Failure → Inspection α) → Inspection α
  | done a, _ => done a
  | fail e, f => f e
  | note e next, f => note e (next.recover f)
  | kind p next, f => kind p fun r => (next r).recover f
  | read p next, f => read p fun r => (next r).recover f
  | survey p next, f => survey p fun r => (next r).recover f
  | current next, f => current fun r => (next r).recover f

/-- The value, or the failure, as an inspection that asks nothing. -/
def ofExcept : Except Failure α → Inspection α
  | .ok a => done a
  | .error e => fail e

def log (e : Event) : Inspection Unit := note e (done ())

/-- What a question about a path came to: an answer, or a failure at that path. -/
def ofAnswer (p : Path) : Except Obstacle α → Inspection α
  | .ok a => done a
  | .error o => fail (.path o p)

def bytes (p : Path) : Inspection (List UInt8) := read p (ofAnswer p)

/-- Whether something is there and satisfies the test. Obstacles that mean that nothing is
there count as an answer; others are failures. -/
def isKind (test : Kind → Bool) (p : Path) : Inspection Bool :=
  kind p fun
    | .ok k => done (test k)
    | .error o => if o.isAbsence then done false else fail (.path o p)

def doesExist (p : Path) : Inspection Bool := isKind (fun _ => true) p

def isDirectory (p : Path) : Inspection Bool := isKind (· = .directory) p

def isFile (p : Path) : Inspection Bool := isKind (· = .file) p

/-- Whether something below a directory is a directory whose path is too long to list it. -/
def isClosed (p : Path) (e : List String × Kind) : Bool :=
  e.2 = .directory && Disk.isTooLong (p.below e.1)

/-- What a search below a directory comes to, if it comes to no path that is too long. -/
def descendants (p : Path) : Inspection (List (List String × Kind)) :=
  survey p fun found =>
    match found.find? (isClosed p) with
    | none => done found
    | some e => fail (.path .nameTooLong (p.below e.1))

def currentDirectory : Inspection Path := current done

/-- Runs an inspection against a directory tree. -/
def run (disk : Disk) : Inspection α → Trace α
  | done a => ⟨[], .ok a⟩
  | fail e => ⟨[], .error e⟩
  | note e next =>
    let t := next.run disk
    ⟨e :: t.events, t.outcome⟩
  | kind p next => (next (disk.kind p)).run disk
  | read p next => (next (disk.read p)).run disk
  | survey p next => (next (disk.below p)).run disk
  | current next => (next ⟨.root, disk.current⟩).run disk

/-! ## Runs -/

variable {disk : Disk}

@[simp] theorem run_done (a : α) : (done a).run disk = ⟨[], .ok a⟩ := rfl

@[simp] theorem run_fail (e : Failure) : (fail e : Inspection α).run disk = ⟨[], .error e⟩ := rfl

@[simp] theorem run_note (e : Event) (next : Inspection α) :
    (note e next).run disk = ⟨e :: (next.run disk).events, (next.run disk).outcome⟩ := rfl

@[simp] theorem run_kind (p : Path) (next : Except Obstacle Kind → Inspection α) :
    (kind p next).run disk = (next (disk.kind p)).run disk := rfl

@[simp] theorem run_read (p : Path) (next : Except Obstacle (List UInt8) → Inspection α) :
    (read p next).run disk = (next (disk.read p)).run disk := rfl

@[simp] theorem run_survey (p : Path) (next : List (List String × Kind) → Inspection α) :
    (survey p next).run disk = (next (disk.below p)).run disk := rfl

@[simp] theorem run_current (next : Path → Inspection α) :
    (current next).run disk = (next ⟨.root, disk.current⟩).run disk := rfl

/-! ## Lemmas about sequencing -/

@[simp] theorem pure_eq (a : α) : (pure a : Inspection α) = done a := rfl

@[simp] theorem bind_eq (x : Inspection α) (f : α → Inspection β) : x >>= f = x.bind f := rfl

theorem bind_done (x : Inspection α) : x.bind done = x := by
  induction x with
  | done => rfl
  | fail => rfl
  | note e next ih => simp [bind, ih]
  | kind p next ih => simp [bind, ih]
  | read p next ih => simp [bind, ih]
  | survey p next ih => simp [bind, ih]
  | current next ih => simp [bind, ih]

theorem bind_assoc (x : Inspection α) (f : α → Inspection β) (g : β → Inspection γ) :
    (x.bind f).bind g = x.bind fun a => (f a).bind g := by
  induction x with
  | done => rfl
  | fail => rfl
  | note e next ih => simp [bind, ih]
  | kind p next ih => simp [bind, ih]
  | read p next ih => simp [bind, ih]
  | survey p next ih => simp [bind, ih]
  | current next ih => simp [bind, ih]

instance : LawfulMonad Inspection := LawfulMonad.mk' Inspection
  bind_done (fun _ _ => rfl) bind_assoc

/-- A run of two inspections in sequence: the second sees the value of the first, and its
events come behind. -/
theorem run_bind (disk : Disk) (x : Inspection α) (f : α → Inspection β) :
    (x.bind f).run disk =
      match x.run disk with
      | ⟨events, .ok a⟩ => ⟨events ++ ((f a).run disk).events, ((f a).run disk).outcome⟩
      | ⟨events, .error e⟩ => ⟨events, .error e⟩ := by
  induction x with
  | done => rfl
  | fail => rfl
  | note e next ih =>
    simp only [bind, run_note, ih]
    rcases next.run disk with ⟨events, _ | _⟩ <;> rfl
  | kind p next ih => simp only [bind, run_kind, ih]
  | read p next ih => simp only [bind, run_read, ih]
  | survey p next ih => simp only [bind, run_survey, ih]
  | current next ih => simp only [bind, run_current, ih]

/-- A run that recovers: what is made of the failure leaves its events behind those before. -/
theorem run_recover (disk : Disk) (x : Inspection α) (f : Failure → Inspection α) :
    (x.recover f).run disk =
      match x.run disk with
      | ⟨events, .ok a⟩ => ⟨events, .ok a⟩
      | ⟨events, .error e⟩ => ⟨events ++ ((f e).run disk).events, ((f e).run disk).outcome⟩ := by
  induction x with
  | done => rfl
  | fail => rfl
  | note e next ih =>
    simp only [recover, run_note, ih]
    rcases next.run disk with ⟨events, _ | _⟩ <;> rfl
  | kind p next ih => simp only [recover, run_kind, ih]
  | read p next ih => simp only [recover, run_read, ih]
  | survey p next ih => simp only [recover, run_survey, ih]
  | current next ih => simp only [recover, run_current, ih]

end Inspection

namespace TextFile

/-- The text of a file that has to be UTF-8. `absent` is the failure where there is no file. -/
def read (absent : Failure) (p : Path) : Inspection (List Char) :=
  .read p fun
    | .error .missing => .fail absent
    | .error obstacle => .fail (.path obstacle p)
    | .ok bytes =>
      match Text.Utf8.decodeStrict bytes with
      | none => .fail .notUtf8
      | some content => .done (Text.unifyNewlines content)

/-- The text of a file, with bytes that are not UTF-8 replaced. -/
def readLenient (p : Path) : Inspection (List Char) := do
  let bytes ← Inspection.bytes p
  return Text.unifyNewlines (Text.Utf8.decodeLenient bytes)

end TextFile

end DependencyAudit

import DependencyAudit.Inspection

/-!
Outcomes: what an inspection comes to on a disk, without the events it leaves. The outcome of a
sequence is found step by step (`outcome_bind`), and a sequence succeeds exactly if both of its
parts do (`outcome_bind_eq_ok`), so a successful computation can be taken apart from its end.
-/

namespace DependencyAudit

/-- Whether it can be told what lies at a path, be it nothing. -/
def Disk.canTell (disk : Disk) (p : Path) : Bool :=
  match disk.kind p with
  | .ok _ => true
  | .error o => o.isAbsence

namespace Inspection

variable {α β : Type} {disk : Disk}

/-- The value or failure that an inspection comes to on a disk. -/
def outcome (disk : Disk) (x : Inspection α) : Except Failure α := (x.run disk).outcome

@[simp] theorem outcome_done (a : α) : (done a).outcome disk = .ok a := rfl

@[simp] theorem outcome_fail (e : Failure) : (fail e : Inspection α).outcome disk = .error e := rfl

@[simp] theorem outcome_log (e : Event) : (log e).outcome disk = .ok () := rfl

@[simp] theorem outcome_ofExcept (x : Except Failure α) : (ofExcept x).outcome disk = x := by
  cases x <;> rfl

theorem outcome_descendants (p : Path) :
    (descendants p).outcome disk =
      match (disk.below p).find? (isClosed p) with
      | none => .ok (disk.below p)
      | some e => .error (.path .nameTooLong (p.below e.1)) := by
  simp only [descendants, outcome, run_survey]
  cases (disk.below p).find? (isClosed p) <;> rfl

/-- A search below a path succeeds exactly if it comes to no directory whose path is too long. -/
theorem outcome_descendants_eq_ok {p : Path} {found : List (List String × Kind)} :
    (descendants p).outcome disk = .ok found ↔
      (∀ e ∈ disk.below p, ¬ isClosed p e) ∧ found = disk.below p := by
  rw [outcome_descendants, ← List.find?_eq_none]
  cases (disk.below p).find? (isClosed p) with
  | none => simp [eq_comm]
  | some e => simp

theorem outcome_bind (x : Inspection α) (f : α → Inspection β) :
    (x.bind f).outcome disk =
      match x.outcome disk with
      | .ok a => (f a).outcome disk
      | .error e => .error e := by
  unfold outcome
  rw [run_bind]
  rcases x.run disk with ⟨events, _ | _⟩ <;> rfl

theorem outcome_bind_of_ok {x : Inspection α} {a : α} (h : x.outcome disk = .ok a)
    (f : α → Inspection β) : (x.bind f).outcome disk = (f a).outcome disk := by
  rw [outcome_bind, h]

theorem outcome_bind_of_error {x : Inspection α} {e : Failure} (h : x.outcome disk = .error e)
    (f : α → Inspection β) : (x.bind f).outcome disk = .error e := by
  rw [outcome_bind, h]

/-- A sequence succeeds exactly if its first part does and the second does on that value. -/
theorem outcome_bind_eq_ok {x : Inspection α} {f : α → Inspection β} {b : β} :
    (x.bind f).outcome disk = .ok b ↔
      ∃ a, x.outcome disk = .ok a ∧ (f a).outcome disk = .ok b := by
  refine ⟨?_, ?_⟩
  · intro h
    rw [outcome_bind] at h
    cases hx : x.outcome disk with
    | error e => rw [hx] at h; cases h
    | ok a => rw [hx] at h; exact ⟨a, rfl, h⟩
  · intro hparts
    obtain ⟨a, ha, hb⟩ := hparts
    rw [outcome_bind_of_ok ha, hb]

/-! ## Questions about one path -/

/-- A test of what lies at a path succeeds with the answer where there is something. -/
theorem outcome_isKind_of_ok {test : Kind → Bool} {p : Path} {k : Kind}
    (h : disk.kind p = .ok k) : (isKind test p).outcome disk = .ok (test k) := by
  simp only [isKind, outcome, run_kind, h, run_done]

/-- Where there is nothing, nothing passes a test. -/
theorem outcome_isKind_of_absence {test : Kind → Bool} {p : Path} {o : Obstacle}
    (h : disk.kind p = .error o) (ho : o.isAbsence = true) :
    (isKind test p).outcome disk = .ok false := by
  simp only [isKind, outcome, run_kind, h, ho, if_true, run_done]

/-- A test fails with an obstacle that does not mean that nothing is there. -/
theorem outcome_isKind_of_obstacle {test : Kind → Bool} {p : Path} {o : Obstacle}
    (h : disk.kind p = .error o) (ho : o.isAbsence = false) :
    (isKind test p).outcome disk = .error (.path o p) := by
  simp only [isKind, outcome, run_kind, h, ho, Bool.false_eq_true, if_false, run_fail]

/-- Nothing passes a test where nothing can be looked up. -/
theorem not_isKind_of_error {test : Kind → Bool} {p : Path} {o : Obstacle}
    (h : disk.kind p = .error o) : (isKind test p).outcome disk ≠ .ok true := by
  cases ho : o.isAbsence with
  | true =>
    rw [outcome_isKind_of_absence h ho]
    exact nofun
  | false =>
    rw [outcome_isKind_of_obstacle h ho]
    exact nofun

/-- What a test says depends on nothing but the path's kind. -/
theorem outcome_isKind_congr {disk' : Disk} {test : Kind → Bool} {p : Path}
    (h : disk.kind p = disk'.kind p) :
    (isKind test p).outcome disk = (isKind test p).outcome disk' := by
  simp only [isKind, outcome, run_kind, h]
  cases disk'.kind p with
  | ok k => rfl
  | error o => cases o <;> rfl

theorem outcome_bytes (p : Path) :
    (bytes p).outcome disk =
      match disk.read p with
      | .ok content => .ok content
      | .error o => .error (.path o p) := by
  simp only [bytes, outcome, run_read]
  cases disk.read p <;> rfl

/-- What can be read is there. -/
theorem kind_of_bytes {p : Path} {content : List UInt8}
    (h : (bytes p).outcome disk = .ok content) : ∃ k, disk.kind p = .ok k := by
  rw [outcome_bytes, Disk.read] at h
  cases hfind : disk.find p with
  | error o => rw [hfind] at h; cases h
  | ok n => exact ⟨n.kind, by rw [Disk.kind, hfind]; rfl⟩

end Inspection

end DependencyAudit

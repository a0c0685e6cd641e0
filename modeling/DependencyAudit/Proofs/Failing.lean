import DependencyAudit.Audit
import DependencyAudit.CommandLine.Configuration
import DependencyAudit.Proofs.Acceptance
import DependencyAudit.Proofs.Outcome

/-!
What each stage of a command can fail with. An inspection fails only within a set of failures if
every failure it comes to, on any disk, is in that set. A sequence fails only within it if both
its parts do (`FailsOnly.bind`), so a stage is followed along the functions it calls.

There are four stages: the configuration, the report, the classes of the artifacts, and the
references. Each has failures of its own; obstacles at paths can occur in all of them.
-/

namespace DependencyAudit

open Inspection

/-- What a command reads, one after the other. -/
inductive Stage where
  | configuration
  | report
  | classes
  | references
  deriving DecidableEq

/-- The failures that a stage can come to. -/
inductive Stage.Fails : Stage → Failure → Prop where
  | path (stage : Stage) (o : Obstacle) (p : Path) : Fails stage (.path o p)
  | config (fault : ConfigFault) : Fails .configuration (.config fault)
  | configNotUtf8 : Fails .configuration .notUtf8
  | tooManyDigits (count : Nat) : Fails .configuration (.tooManyDigits count)
  | tooDeep : Fails .configuration .tooDeep
  | report (fault : ReportFault) : Fails .report (.report fault)
  | reportNotUtf8 : Fails .report .notUtf8
  | namelessEntry : Fails .report .namelessEntry
  | archive (fault : ArchiveFault) : Fails .classes (.archive fault)
  | noExtractor (location : Path) : Fails .references (.noExtractor location)

namespace Inspection

variable {α β : Type} {P Q : Failure → Prop} {x : Inspection α}

/-- On every disk the inspection succeeds, or fails with one of the given failures. -/
def FailsOnly (P : Failure → Prop) (x : Inspection α) : Prop :=
  ∀ disk f, x.outcome disk = .error f → P f

namespace FailsOnly

theorem done (a : α) : FailsOnly P (done a) := fun _ _ h => nomatch h

theorem fail {f : Failure} (h : P f) : FailsOnly P (fail f : Inspection α) := by
  intro disk g hg
  obtain rfl := Except.error.inj hg
  exact h

theorem log (e : Event) : FailsOnly P (log e) := fun _ _ h => nomatch h

theorem ofExcept {x : Except Failure α} (h : ∀ f, x = .error f → P f) :
    FailsOnly P (ofExcept x) := by
  intro disk f hf
  rw [outcome_ofExcept] at hf
  exact h f hf

theorem bind {f : α → Inspection β} (hx : FailsOnly P x) (hf : ∀ a, FailsOnly P (f a)) :
    FailsOnly P (x.bind f) := by
  intro disk e he
  cases hxe : x.outcome disk with
  | error e' =>
    rw [outcome_bind_of_error hxe] at he
    obtain rfl := Except.error.inj he
    exact hx disk _ hxe
  | ok a =>
    rw [outcome_bind_of_ok hxe] at he
    exact hf a disk e he

theorem mono (hx : FailsOnly P x) (h : ∀ f, P f → Q f) : FailsOnly Q x :=
  fun disk f hf => h f (hx disk f hf)

/-! ## Questions about paths -/

theorem isKind (hpath : ∀ o p, P (.path o p)) (test : Kind → Bool) (p : Path) :
    FailsOnly P (isKind test p) := by
  intro disk f hf
  simp only [Inspection.isKind, outcome, run_kind] at hf
  cases hkind : disk.kind p with
  | ok k => rw [hkind] at hf; cases hf
  | error o =>
    rw [hkind] at hf
    cases ho : o.isAbsence with
    | true => simp [ho] at hf
    | false =>
      simp only [ho, Bool.false_eq_true, if_false, run_fail] at hf
      obtain rfl := Except.error.inj hf
      exact hpath _ _

theorem bytes (hpath : ∀ o p, P (.path o p)) (p : Path) : FailsOnly P (bytes p) := by
  intro disk f hf
  rw [outcome_bytes] at hf
  cases hread : disk.read p with
  | ok content => rw [hread] at hf; cases hf
  | error o =>
    rw [hread] at hf
    obtain rfl := Except.error.inj hf
    exact hpath _ _

theorem descendants (hpath : ∀ o p, P (.path o p)) (p : Path) :
    FailsOnly P (descendants p) := by
  intro disk f hf
  rw [outcome_descendants] at hf
  cases hclosed : (disk.below p).find? (isClosed p) with
  | none => rw [hclosed] at hf; cases hf
  | some e =>
    rw [hclosed] at hf
    obtain rfl := Except.error.inj hf
    exact hpath _ _

theorem currentDirectory : FailsOnly P currentDirectory := fun _ _ h => nomatch h

theorem readText (hpath : ∀ o p, P (.path o p)) (hutf8 : P .notUtf8) {absent : Failure}
    (habsent : P absent) (p : Path) : FailsOnly P (TextFile.read absent p) := by
  intro disk f hf
  simp only [TextFile.read, outcome, run_read] at hf
  split at hf
  · exact FailsOnly.fail habsent disk f hf
  · exact FailsOnly.fail (hpath _ _) disk f hf
  · split at hf
    · exact FailsOnly.fail hutf8 disk f hf
    · cases hf

end FailsOnly

end Inspection

open Stage

/-! ## The configuration -/

namespace Config

theorem fails_of_parse {d : Data} {base : Path} {f : Failure} (h : parse d base = .error f) :
    Stage.configuration.Fails f := by
  unfold parse at h
  split at h
  · split at h
    · obtain rfl := Except.error.inj h
      exact .config _
    · cases h
  · obtain rfl := Except.error.inj h
    exact .config _

theorem fails_of_override {c : Config} {o : Overrides} {f : Failure}
    (h : c.override o = .error f) : Stage.configuration.Fails f := by
  unfold override at h
  split at h
  · cases h
  · split at h
    · obtain rfl := Except.error.inj h
      exact .config _
    · cases h

theorem failsOnly_load (p : Path) : FailsOnly Stage.configuration.Fails (load p) := by
  refine .bind (.readText (.path _) .configNotUtf8 (.config _) p) ?_
  intro content
  -- a document that cannot be read, and one that is no configuration
  cases Toml.read content with
  | error trouble =>
    apply FailsOnly.fail
    cases trouble with
    | malformed => exact .config _
    | tooManyDigits count => exact .tooManyDigits count
    | tooDeep => exact .tooDeep
  | ok fields => exact .ofExcept fun _ => fails_of_parse

end Config

namespace CommandLine

theorem failsOnly_absolute (written : String) :
    FailsOnly Stage.configuration.Fails (absolute written) := by
  unfold absolute
  split
  · exact .fail (.path _ _ _)
  · exact .bind .currentDirectory fun _ => .done _

theorem failsOnly_absoluteAll : ∀ written : List String,
    FailsOnly Stage.configuration.Fails (absoluteAll written)
  | [] => .done _
  | written :: rest =>
    .bind (failsOnly_absolute written) fun _ => .bind (failsOnly_absoluteAll rest) fun _ => .done _

theorem failsOnly_configFile? (a : Arguments) :
    FailsOnly Stage.configuration.Fails (configFile? a) := by
  unfold configFile?
  split
  · exact .done _
  · refine .bind (.isKind (.path _) _ _) ?_
    intro isThere
    split
    · exact .done _
    · exact .done _

theorem failsOnly_namedReport? (a : Arguments) :
    FailsOnly Stage.configuration.Fails (namedReport? a) := by
  unfold namedReport?
  split
  · exact .done _
  · exact .bind (failsOnly_absolute _) fun _ => .done _

theorem failsOnly_configure? (a : Arguments) :
    FailsOnly Stage.configuration.Fails (configure? a) := by
  refine .bind (failsOnly_absoluteAll _) ?_
  intro outputs
  refine .bind (failsOnly_configFile? a) ?_
  intro file
  -- with a file the switches override it, without one they stand alone
  cases file with
  | some p =>
    refine .bind (Config.failsOnly_load p) fun c => .bind (failsOnly_namedReport? a) ?_
    intro report
    exact .bind (.ofExcept fun _ => Config.fails_of_override) fun _ => .done _
  | none =>
    refine .bind (failsOnly_namedReport? a) ?_
    intro report
    cases report with
    | none => exact .done _
    | some p => exact .bind (.ofExcept fun _ => Config.fails_of_override) fun _ => .done _

theorem fails_of_ignoring {c : Config} {more : List String} {f : Failure}
    (h : ignoring c more = .error f) : Stage.configuration.Fails f := by
  unfold ignoring at h
  split at h
  · cases h
  · exact Config.fails_of_override h

end CommandLine

theorem Audit.fails_of_setting {c : Config} {r : Resolution} {f : Failure}
    (h : setting c r = .error f) : Stage.configuration.Fails f := by
  unfold setting at h
  split at h
  · obtain rfl := Except.error.inj h
    exact .config _
  · cases h

/-! ## The report -/

namespace Resolution

theorem fails_of_parse {content : List Char} {base : Path} {f : Failure}
    (h : parse content base = .error f) : Stage.report.Fails f := by
  rcases parse_eq_error h with ⟨fault, rfl⟩ | ⟨rfl, _⟩
  · exact .report fault
  · exact .namelessEntry

theorem failsOnly_load (p : Path) : FailsOnly Stage.report.Fails (load p) := by
  refine .bind (.readText (.path _) .reportNotUtf8 (.report _) p) fun _ => ?_
  refine .bind (.ofExcept fun _ => fails_of_parse) fun _ => ?_
  exact .bind (.log _) fun _ => .done _

theorem fails_of_firstLevel {r : Resolution} {buckets : Option (List String)} {f : Failure}
    (h : r.firstLevel buckets = .error f) : Stage.report.Fails f := by
  simp only [firstLevel] at h
  split at h
  · cases h
  · obtain rfl := Except.error.inj h
    exact .report _

end Resolution

/-! ## The classes of the artifacts -/

theorem failsOnly_listClasses (p : Path) : FailsOnly Stage.classes.Fails (listClasses p) := by
  refine .bind (.isKind (.path _) _ p) ?_
  intro isDir
  split
  · exact .bind (.descendants (.path _) p) fun _ => .done _
  · refine .bind (.bytes (.path _) p) ?_
    intro content
    cases Archive.names content with
    | error fault => exact .fail (.archive fault)
    | ok names => exact .done _

theorem Source.failsOnly_supply (s : Source) : FailsOnly Stage.classes.Fails s.supply := by
  unfold supply
  split
  · exact .done _
  · refine .bind (.isKind (.path _) _ _) ?_
    intro isThere
    split
    · exact .bind (failsOnly_listClasses _) fun _ => .done _
    · -- a file that is not there is noted, and no failure
      exact .bind (.log _) fun _ => .done _

namespace ClassIndex

theorem failsOnly_addSources : ∀ (index : ClassIndex) (sources : List Source),
    FailsOnly Stage.classes.Fails (index.addSources sources)
  | _, [] => .done _
  | _, s :: sources =>
    .bind (.bind s.failsOnly_supply fun _ => .done _) fun next => failsOnly_addSources next sources

theorem failsOnly_build (roots : List Dependency) :
    FailsOnly Stage.classes.Fails (build roots) :=
  .bind (failsOnly_addSources _ _) fun _ => .bind (.log _) fun _ => .done _

end ClassIndex

/-! ## The references -/

namespace Reference

theorem failsOnly_ofFile (f : Format) (p : Path) : FailsOnly Stage.references.Fails (ofFile f p) :=
  .bind (.bind (.bytes (.path _) p) fun _ => .done _) fun _ => .bind (.log _) fun _ => .done _

theorem failsOnly_ofFiles : ∀ listings : List (Format × Path),
    FailsOnly Stage.references.Fails (ofFiles listings)
  | [] => .done _
  | (f, p) :: rest =>
    .bind (failsOnly_ofFile f p) fun _ => .bind (failsOnly_ofFiles rest) fun _ => .done _

theorem failsOnly_filesAmong : ∀ named : List (Format × Path),
    FailsOnly Stage.references.Fails (filesAmong named)
  | [] => .done _
  | (_, p) :: rest =>
    .bind (.isKind (.path _) _ p) fun _ => .bind (failsOnly_filesAmong rest) fun _ => .done _

theorem failsOnly_discover (root : Path) : FailsOnly Stage.references.Fails (discover root) := by
  refine .bind (.isKind (.path _) _ root) ?_
  intro isDir
  split
  · exact .bind (.descendants (.path _) root) fun _ => failsOnly_filesAmong _
  · exact .done _

theorem failsOnly_listingsAt (location : Path) :
    FailsOnly Stage.references.Fails (listingsAt location) := by
  refine .bind (.isKind (.path _) _ location) ?_
  intro isDir
  split
  · refine .bind (failsOnly_discover location) ?_
    intro found
    dsimp only
    split
    · exact .bind (.log _) fun _ => .done _
    · exact .done _
  · split
    · exact .fail (.noExtractor location)
    · exact .done _

theorem failsOnly_ofLocations : ∀ locations : List Path,
    FailsOnly Stage.references.Fails (ofLocations locations)
  | [] => .done _
  | location :: rest =>
    .bind (.bind (failsOnly_listingsAt location) fun listings => failsOnly_ofFiles listings)
      fun _ => .bind (failsOnly_ofLocations rest) fun _ => .done _

theorem failsOnly_classes (locations : List Path) :
    FailsOnly Stage.references.Fails (classes locations) :=
  .bind (failsOnly_ofLocations locations) fun _ => .done _

end Reference

end DependencyAudit

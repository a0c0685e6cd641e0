import DependencyAudit.CommandLine.Session
import DependencyAudit.Proofs.Audit
import DependencyAudit.Proofs.Failing

/-!
What the exit code of a command says. A command line that is accepted comes to the ending of its
command (`Accepts.outcome_runOn`), and that ending is decided by what the command computes
(`outcome_withConfig`): a failure is reported with exit code 2, or escapes, and then the program
stops with the exit code of a violation.

Main statement: `exit_codes_kept_iff`. The exit code of an audit means what it is said to mean
exactly if no failure escapes, and the same goes for the other commands. Which failures can escape
a command follows from the stages it goes through (`escapes_of_fails`). Some do: a configuration
that is not UTF-8 makes an audit end like a violation (`undecodable_config_exits_like_violation`).
-/

namespace DependencyAudit.CommandLine

open Inspection Written

deriving instance DecidableEq for Arguments

variable {environment : List (String × String)} {arguments : List String} {disk : Disk}
  {c : Command} {a : Arguments} {α : Type}

/-! ## Command lines that are accepted -/

/-- The command line is that of a command with the given arguments, none of which asks for help.
The outputs it names are there and may be read, and the environment names a level for the log. -/
structure Accepts (environment : List (String × String)) (arguments : List String) (disk : Disk)
    (c : Command) (a : Arguments) : Prop where
  parsed : ∃ leading written rest, Arguments.read leadingSwitches false arguments = .ok leading ∧
    leading.has .help = false ∧ leading.others = written :: rest ∧
    Command.ofName? written = some c ∧ Arguments.read c.switches true rest = .ok a ∧
    ∃ settings, LogSettings.ofEnvironment? environment
      (if leading.has .verbose then "DEBUG" else LogSettings.standardLevel) = some settings
  noHelp : a.has .help = false
  outputs : (outputMisuse? (a.values .output)).outcome disk = .ok none
  others : c.argumentMisuse? a.others = none

theorem Session.start_of_others {leading : Arguments} {written : String} {rest : List String}
    (hread : Arguments.read leadingSwitches false arguments = .ok leading)
    (hhelp : leading.has .help = false) (hothers : leading.others = written :: rest)
    (hname : Command.ofName? written = some c) :
    Session.start environment arguments = Session.ofCommand environment leading c rest := by
  have hne : arguments ≠ [] := by
    rintro rfl
    obtain rfl := Except.ok.inj hread
    cases hothers
  simp only [Session.start, if_neg hne, hread, hhelp, hothers, hname, Bool.false_eq_true,
    if_false]

theorem Command.outcome_run {rest : List String}
    (hread : Arguments.read c.switches true rest = .ok a) (hhelp : a.has .help = false)
    (houtputs : (outputMisuse? (a.values .output)).outcome disk = .ok none)
    (hothers : c.argumentMisuse? a.others = none) :
    (c.run rest).outcome disk = (c.perform a).outcome disk := by
  unfold Command.run
  simp only [hread, hhelp, Bool.false_eq_true, if_false]
  refine (outcome_bind_of_ok houtputs _).trans ?_
  simp only [hothers]

/-- What a session leaves of a command that writes no file is what the command comes to. -/
theorem Accepts.outcome_runOn (h : Accepts environment arguments disk c a)
    {ending : Inspection Ending}
    (hperform : c.perform a = ending.bind fun e => .done { ending := e }) :
    ((Session.start environment arguments).runOn disk).outcome = ending.outcome disk := by
  obtain ⟨leading, written, rest, hleading, hhelp, hothers, hname, hread, settings, hset⟩ :=
    h.parsed
  -- up to the command itself nothing but the command line has a say
  rw [Session.start_of_others hleading hhelp hothers hname]
  have hrun : ((c.run rest).run disk).outcome = (c.perform a).outcome disk :=
    Command.outcome_run hread h.noHelp h.outputs h.others
  rw [hperform, outcome_bind] at hrun
  simp only [Session.ofCommand, hset, Session.runOn, hrun]
  cases ending.outcome disk <;> rfl

/-! ## From what a command computes to its ending -/

/-- What comes of the configuration that is meant, if one is. -/
def configured (a : Arguments) (work : Config → Inspection α) : Inspection (Option α) := do
  match ← configure? a with
  | none => return none
  | some c => do
    let r ← work c
    return some r

/-- How a command ends that needs a configuration. -/
def endingOf (c : Command) (finish : α → Ending) : Except Failure (Option α) → Except Failure Ending
  | .ok none => .ok (.misuse (some c) .configMissing)
  | .ok (some r) => .ok (finish r)
  | .error f => if f.isReported then .ok (.failure f) else .error f

theorem outcome_reporting (x : Inspection Ending) :
    (reporting x).outcome disk =
      match x.outcome disk with
      | .ok e => .ok e
      | .error f => if f.isReported then .ok (.failure f) else .error f := by
  unfold reporting outcome
  rw [run_recover]
  rcases x.run disk with ⟨events, f | e⟩
  · by_cases h : f.isReported <;> simp [h]
  · rfl

theorem outcome_withConfig (c : Command) (a : Arguments) (work : Config → Inspection α)
    (finish : α → Ending) (disk : Disk) :
    (withConfig c a fun config => (work config).bind fun r => .done (finish r)).outcome disk =
      endingOf c finish ((configured a work).outcome disk) := by
  unfold withConfig configured
  rw [outcome_reporting, bind_eq, bind_eq, outcome_bind, outcome_bind]
  cases (configure? a).outcome disk with
  | error f => rfl
  | ok found =>
    cases found with
    | none => rfl
    | some config =>
      simp only [bind_eq, outcome_bind]
      cases (work config).outcome disk <;> rfl

/-- The audit of the configuration that is meant. -/
def auditing (a : Arguments) : Inspection (Option Verdict) :=
  configured a fun c => do
    let c ← Inspection.ofExcept (ignoring c (a.values .ignore))
    Audit.run c

/-- What the configuration that is meant refers to. -/
def gathering (a : Arguments) : Inspection (Option Material) := configured a Material.load

/-- The references of the configuration that is meant. -/
def collecting (a : Arguments) : Inspection (Option (List String)) :=
  configured a fun c => Reference.classes c.outputs

def verdictEnding : Verdict → Ending
  | .violated violation => .violation violation
  | .passed _ => .lines []

theorem outcome_check (a : Arguments) (disk : Disk) :
    (check a).outcome disk = endingOf .check verdictEnding ((auditing a).outcome disk) := by
  rw [auditing, ← outcome_withConfig]
  unfold check
  congr 2
  funext config
  simp only [bind_eq, bind_assoc]
  congr 1
  funext ignoring
  congr 1
  funext verdict
  cases verdict <;> rfl

theorem outcome_providers (a : Arguments) (name : String) (disk : Disk) :
    (providers a name).outcome disk =
      endingOf .providers (fun m => .lines (providerLines m name)) ((gathering a).outcome disk) :=
  outcome_withConfig .providers a Material.load _ disk

theorem outcome_references (a : Arguments) (disk : Disk) :
    (references a).outcome disk =
      endingOf .references Ending.lines ((collecting a).outcome disk) :=
  outcome_withConfig .references a (fun c => Reference.classes c.outputs) _ disk

/-! ## Failures that escape -/

/-- The stages of a command that needs a configuration. -/
def stages : Command → List Stage
  | .createConfig => []
  | .check => [.configuration, .report, .classes, .references]
  | .providers => [.configuration, .report, .classes]
  | .references => [.configuration, .references]

/-- The failures that stop a command without being reported. -/
inductive Escapes : Command → Failure → Prop where
  | notUtf8 (c : Command) : Escapes c .notUtf8
  | tooManyDigits (c : Command) (count : Nat) : Escapes c (.tooManyDigits count)
  | tooDeep (c : Command) : Escapes c .tooDeep
  | nullCharacter (c : Command) (p : Path) : Escapes c (.path .nullCharacter p)
  | namelessEntry {c : Command} : Stage.report ∈ stages c → Escapes c .namelessEntry
  | newerVersion {c : Command} (version : Nat) :
      Stage.classes ∈ stages c → Escapes c (.archive (.newerVersion version))
  | unreadableName {c : Command} :
      Stage.classes ∈ stages c → Escapes c (.archive .unreadableName)

theorem not_isReported_of_escapes {f : Failure} (h : Escapes c f) : f.isReported = false := by
  cases h <;> rfl

/-- Of what a stage can fail with, all is reported but what escapes. -/
theorem escapes_of_fails {stage : Stage} {f : Failure} (hstage : stage ∈ stages c)
    (h : stage.Fails f) (hf : f.isReported = false) : Escapes c f := by
  cases h with
  | path _ o p =>
    cases o with
    | nullCharacter => exact .nullCharacter c p
    | _ => cases hf
  | configNotUtf8 => exact .notUtf8 c
  | reportNotUtf8 => exact .notUtf8 c
  | tooManyDigits count => exact .tooManyDigits c count
  | tooDeep => exact .tooDeep c
  | namelessEntry => exact .namelessEntry hstage
  | archive fault =>
    cases fault with
    | newerVersion version => exact .newerVersion version hstage
    | unreadableName => exact .unreadableName hstage
    | _ => cases hf
  | _ => cases hf

/-- Some stage of the command can fail so. -/
def StageFails (c : Command) (f : Failure) : Prop := ∃ stage ∈ stages c, stage.Fails f

theorem failsOnly_configured {work : Config → Inspection α}
    (hconfig : Stage.configuration ∈ stages c)
    (hwork : ∀ config, FailsOnly (StageFails c) (work config)) :
    FailsOnly (StageFails c) (configured a work) := by
  have hconfigure : FailsOnly (StageFails c) (configure? a) :=
    (failsOnly_configure? a).mono fun _ hf => ⟨_, hconfig, hf⟩
  refine .bind hconfigure ?_
  intro found
  cases found with
  | none => exact .done _
  | some config => exact .bind (hwork config) fun _ => .done _

theorem failsOnly_load (hreport : Stage.report ∈ stages c) (hclasses : Stage.classes ∈ stages c)
    (config : Config) : FailsOnly (StageFails c) (Material.load config) := by
  have hload := (Resolution.failsOnly_load config.resolution).mono
    fun _ hf => (⟨_, hreport, hf⟩ : StageFails c _)
  refine .bind hload fun r => .bind (.ofExcept ?_) fun kept => .bind ?_ fun _ => .done _
  · exact fun _ hf => ⟨_, hreport, Resolution.fails_of_firstLevel hf⟩
  · exact (ClassIndex.failsOnly_build kept).mono fun _ hf => ⟨_, hclasses, hf⟩

theorem failsOnly_auditing (a : Arguments) : FailsOnly (StageFails .check) (auditing a) := by
  have hconfig : Stage.configuration ∈ stages .check := by decide
  have hreport : Stage.report ∈ stages .check := by decide
  have hclasses : Stage.classes ∈ stages .check := by decide
  have hreferences : Stage.references ∈ stages .check := by decide
  apply failsOnly_configured hconfig
  intro config
  refine .bind (.ofExcept fun _ hf => ⟨_, hconfig, fails_of_ignoring hf⟩) fun config => ?_
  refine .bind (failsOnly_load hreport hclasses config) fun m => ?_
  refine .bind (.ofExcept fun _ hf => ⟨_, hconfig, Audit.fails_of_setting hf⟩) fun s => ?_
  refine .bind ((Reference.failsOnly_classes _).mono fun _ hf => ⟨_, hreferences, hf⟩) ?_
  -- with everything gathered the audit comes to a verdict
  intro referenced disk f hf
  rw [Audit.outcome_conclude] at hf
  cases hf

theorem failsOnly_gathering (a : Arguments) : FailsOnly (StageFails .providers) (gathering a) :=
  failsOnly_configured (by decide) (failsOnly_load (by decide) (by decide))

theorem failsOnly_collecting (a : Arguments) :
    FailsOnly (StageFails .references) (collecting a) :=
  failsOnly_configured (by decide) fun _ =>
    (Reference.failsOnly_classes _).mono fun _ hf => ⟨_, by decide, hf⟩

/-- Every failure is reported exactly if none escapes. -/
theorem reported_iff_not_escapes {x : Inspection α} (h : FailsOnly (StageFails c) x) :
    (∀ f, x.outcome disk = .error f → f.isReported = true) ↔
      ∀ f, x.outcome disk = .error f → ¬ Escapes c f := by
  refine ⟨?_, ?_⟩
  · intro hreported f hf hescapes
    have hnot := not_isReported_of_escapes hescapes
    rw [hreported f hf] at hnot
    cases hnot
  · intro hnone f hf
    cases hr : f.isReported with
    | true => rfl
    | false =>
      obtain ⟨stage, hstage, hfails⟩ := h disk f hf
      exact absurd (escapes_of_fails hstage hfails hr) (hnone f hf)

/-! ## What exit codes mean -/

/-- A line that starts with the word for an error is at the end of the text. -/
def HasErrorLine (s : String) : Prop :=
  ∃ before message, s = before ++ "Error: " ++ message ++ "\n" ∧
    (before = "" ∨ ∃ lines, before = lines ++ "\n")

/-- What the exit code of an audit is said to mean, and what is printed along with it. -/
structure Kept (after : Aftermath) (audited : Except Failure (Option Verdict)) : Prop where
  violated : after.exitCode = 1 ↔ ∃ w, audited = .ok (some (.violated w))
  report : ∀ w, audited = .ok (some (.violated w)) →
    ∃ e, after.outcome = .ok e ∧ e.errors = w.message ++ "\n"
  passed : (after.exitCode = 0 ∧ ∃ e, after.outcome = .ok e ∧ e.output = "") ↔
    ∃ sum, audited = .ok (some (.passed sum))
  failed : (audited = .ok none ∨ ∃ f, audited = .error f) →
    after.exitCode = 2 ∧ ∃ e, after.outcome = .ok e ∧ HasErrorLine e.errors

theorem hasErrorLine_failure (f : Failure) : HasErrorLine (Ending.failure f).errors := by
  refine ⟨"", f.fullMessage, ?_, Or.inl rfl⟩
  simp [Ending.errors]

theorem hasErrorLine_configMissing (c : Option Command) :
    HasErrorLine (Ending.misuse c .configMissing).errors :=
  ⟨usage c ++ "\n", Misuse.configMissing.message, rfl, Or.inr ⟨_, rfl⟩⟩

theorem exitCode_of_outcome {after : Aftermath} {e : Ending} (h : after.outcome = .ok e) :
    after.exitCode = e.exitCode := by
  rw [Aftermath.exitCode, h]

theorem kept_iff {after : Aftermath} {audited : Except Failure (Option Verdict)}
    (h : after.outcome = endingOf .check verdictEnding audited) :
    Kept after audited ↔ ∀ f, audited = .error f → f.isReported = true := by
  refine ⟨?_, ?_⟩
  · rintro hkept f rfl
    cases hr : f.isReported with
    | true => rfl
    | false =>
      -- an escaping failure leaves no ending at all
      obtain ⟨_, e, he, _⟩ := hkept.failed (Or.inr ⟨f, rfl⟩)
      rw [h, endingOf, hr] at he
      cases he
  · intro hreported
    cases audited with
    | ok found =>
      cases found with
      | none =>
        have hcode := exitCode_of_outcome h
        exact {
          violated := by simp [hcode, Ending.exitCode]
          report := by simp
          passed := by simp [hcode, Ending.exitCode]
          failed := fun _ => ⟨hcode, _, h, hasErrorLine_configMissing _⟩ }
      | some verdict =>
        cases verdict with
        | violated w =>
          have hcode := exitCode_of_outcome h
          exact {
            violated := by simp [hcode, verdictEnding, Ending.exitCode]
            report := fun w' hw' => ⟨_, h, by
              obtain rfl : w = w' := by simpa using hw'
              rfl⟩
            passed := by simp [hcode, verdictEnding, Ending.exitCode]
            failed := by simp }
        | passed sum =>
          have hcode := exitCode_of_outcome h
          exact {
            violated := by simp [hcode, verdictEnding, Ending.exitCode]
            report := by simp
            passed := ⟨fun _ => ⟨sum, rfl⟩, fun _ => ⟨hcode, _, h, rfl⟩⟩
            failed := by simp }
    | error f =>
      rw [endingOf, if_pos (hreported f rfl)] at h
      have hcode := exitCode_of_outcome h
      exact {
        violated := by simp [hcode, Ending.exitCode]
        report := by simp
        passed := by simp [hcode, Ending.exitCode]
        failed := fun _ => ⟨hcode, _, h, hasErrorLine_failure f⟩ }

/-- A command that finds no violations exits with 1 exactly if a failure is not reported. -/
theorem exitCode_ne_one_iff {after : Aftermath} {finish : α → Ending}
    {x : Except Failure (Option α)} (h : after.outcome = endingOf c finish x)
    (hfinish : ∀ r, (finish r).exitCode = 0) :
    after.exitCode ≠ 1 ↔ ∀ f, x = .error f → f.isReported = true := by
  cases x with
  | ok found =>
    have hcode : after.exitCode ≠ 1 := by
      cases found with
      | none => simp [exitCode_of_outcome h, Ending.exitCode]
      | some r => simp [exitCode_of_outcome h, hfinish]
    exact ⟨fun _ f hf => (nomatch hf), fun _ => hcode⟩
  | error f =>
    cases hr : f.isReported with
    | true =>
      rw [endingOf, if_pos hr] at h
      have hcode : after.exitCode ≠ 1 := by simp [exitCode_of_outcome h, Ending.exitCode]
      exact ⟨fun _ g hg => by rw [← Except.error.inj hg, hr], fun _ => hcode⟩
    | false =>
      rw [endingOf, hr] at h
      have hcode : after.exitCode = 1 := by
        rw [Aftermath.exitCode, h]
        rfl
      refine ⟨fun hne => absurd hcode hne, fun hreported => ?_⟩
      rw [hreported f rfl] at hr
      cases hr

theorem exit_codes_kept_iff (h : Accepts environment arguments disk c a) :
    let after := (Session.start environment arguments).runOn disk
    (c = .check → (Kept after ((auditing a).outcome disk) ↔
      ∀ f, (auditing a).outcome disk = .error f → ¬ Escapes .check f)) ∧
    (c = .providers → (after.exitCode ≠ 1 ↔
      ∀ f, (gathering a).outcome disk = .error f → ¬ Escapes .providers f)) ∧
    (c = .references → (after.exitCode ≠ 1 ↔
      ∀ f, (collecting a).outcome disk = .error f → ¬ Escapes .references f)) := by
  intro after
  refine ⟨?_, ?_, ?_⟩
  · rintro rfl
    rw [← reported_iff_not_escapes (failsOnly_auditing a)]
    exact kept_iff ((h.outcome_runOn rfl).trans (outcome_check a disk))
  · rintro rfl
    rw [← reported_iff_not_escapes (failsOnly_gathering a)]
    exact exitCode_ne_one_iff ((h.outcome_runOn rfl).trans (outcome_providers a _ disk))
      fun _ => rfl
  · rintro rfl
    rw [← reported_iff_not_escapes (failsOnly_collecting a)]
    exact exitCode_ne_one_iff ((h.outcome_runOn rfl).trans (outcome_references a disk))
      fun _ => rfl

/-! ## An audit that ends in a violation

The project of `transitiveReport` is audited with switches alone. -/

def transitiveArguments : Arguments where
  given := [(.resolution, "report.json"), (.output, "used.refs"), (.ignore, "g:b")]

theorem transitive_accepts :
    Accepts [] ["-v", "check", "--resolution", "report.json", "--output=used.refs",
      "--ignore", "g:b"] Audit.transitiveDisk .check transitiveArguments where
  parsed := ⟨⟨[(.verbose, "")], ["check", "--resolution", "report.json", "--output=used.refs",
      "--ignore", "g:b"]⟩, "check", _, by decide, by decide, rfl,
    by decide, by decide, ⟨.debug, .console⟩, by decide⟩
  noHelp := by decide
  outputs := by decide
  others := by decide

/-- The exit code is that of a violation, and there is one. -/
theorem transitive_use_exits_with_one :
    ((Session.start [] ["-v", "check", "--resolution", "report.json", "--output=used.refs",
        "--ignore", "g:b"]).runOn Audit.transitiveDisk).exitCode = 1 ∧
      ∃ w, (auditing transitiveArguments).outcome Audit.transitiveDisk =
        .ok (some (.violated w)) := by
  have hrun : (auditing transitiveArguments).outcome Audit.transitiveDisk =
      .ok (some (.violated
        { artifacts := [.external ⟨"g", "c", "1"⟩ none]
          buildFile := "build.gradle"
          suggestion := "    dependencies \x7b\n    implementation 'g:c'\n    \x7d" })) := by
    decide +kernel
  have hnone : ∀ f, (auditing transitiveArguments).outcome Audit.transitiveDisk = .error f →
      ¬ Escapes .check f := fun f hf => by
    rw [hrun] at hf
    cases hf
  have hkept := ((exit_codes_kept_iff transitive_accepts).1 rfl).mpr hnone
  exact ⟨hkept.violated.mpr ⟨_, hrun⟩, _, hrun⟩

/-! ## A configuration that is not UTF-8 -/

/-- A disk whose configuration is a single byte that starts no character. -/
def undecodableDisk : Disk where
  root := .directory [(Config.standardName, .file [0xff])]

theorem undecodable_accepts : Accepts [] ["check"] undecodableDisk .check {} where
  parsed := ⟨⟨[], ["check"]⟩, "check", [], by decide, rfl, rfl, by decide, rfl,
    ⟨.warning, .console⟩, by decide⟩
  noHelp := rfl
  outputs := rfl
  others := rfl

theorem undecodable_config_exits_like_violation :
    ¬ ∀ environment arguments disk a, Accepts environment arguments disk .check a →
      Kept ((Session.start environment arguments).runOn disk) ((auditing a).outcome disk) := by
  intro hkept
  have hrun : (auditing {}).outcome undecodableDisk = .error .notUtf8 := by decide +kernel
  have hcode : ((Session.start [] ["check"]).runOn undecodableDisk).exitCode = 1 := by
    decide +kernel
  obtain ⟨w, hw⟩ := (hkept _ _ _ _ undecodable_accepts).violated.mp hcode
  rw [hrun] at hw
  cases hw

end DependencyAudit.CommandLine

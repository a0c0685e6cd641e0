import DependencyAudit.Proofs.Entries
import DependencyAudit.Proofs.Written

/-!
What the check of a report vouches for, and what it lets through. Checks succeed exactly if their
parts do. So an accepted report has only entries that name a module or a project, at any depth of
any bucket (`named_of_check`).

The rule is about fields that are absent, though, and reading takes an empty module name for an
absent one. An entry with an empty module name and no project passes the check and has no
coordinate.

Main statement: `parse_contained_iff`. Reading a document gives a resolution or a fault of the
report, unless the first entry without a coordinate is of that kind
(`nameless_entry_is_no_fault`).
-/

namespace DependencyAudit

/-! ## Checks that succeed -/

namespace Schema

variable {α β : Type}

theorem both_eq_ok_iff {a : Checked α} {b : Checked β} {r : α × β} :
    both a b = .ok r ↔ a = .ok r.1 ∧ b = .ok r.2 := by
  obtain ⟨x, y⟩ := r
  cases a <;> cases b <;> simp [both]

theorem map_eq_ok_iff {c : Checked α} {f : α → β} {b : β} :
    c.map f = .ok b ↔ ∃ a, c = .ok a ∧ f a = b := by
  cases c <;> simp [Except.map]

theorem within_eq_ok_iff {step : Step} {c : Checked α} {a : α} :
    within step c = .ok a ↔ c = .ok a := by
  cases c <;> simp [within]

theorem alsoReporting_eq_ok_iff {more : List Issue} {c : Checked α} {a : α} :
    alsoReporting more c = .ok a ↔ c = .ok a ∧ more = [] := by
  cases c <;> cases more <;> simp [alsoReporting]

theorem ensuring_eq_ok_iff {rule : α → Option Rule} {c : Checked α} {a : α} :
    ensuring rule c = .ok a ↔ c = .ok a ∧ rule a = none := by
  cases c with
  | error found => simp [ensuring]
  | ok b =>
    cases hb : rule b with
    | none =>
      simp only [ensuring, hb, Except.ok.injEq]
      exact ⟨fun h => ⟨h, h ▸ hb⟩, fun h => h.1⟩
    | some r =>
      simp only [ensuring, hb, failing, reduceCtorEq, Except.ok.injEq, false_iff, not_and]
      intro h
      subst h
      simp [hb]

end Schema

open Schema

/-! ## Accepted entries -/

namespace Entry

/-- The entry names a module or a project, though perhaps by an empty text. -/
def Named (e : Entry) : Prop := e.moduleName ≠ none ∨ e.project ≠ none

theorem nameRule_eq_none_iff {e : Entry} : nameRule e = none ↔ e.Named := by
  unfold nameRule Named
  cases e.moduleName <;> cases e.project <;> simp

theorem ofFields_eq_ok {fields : List (String × Data)} {below : Checked (List Entry)} {e : Entry}
    (h : ofFields fields below = .ok e) : e.Named ∧ below = .ok e.dependencies := by
  obtain ⟨h, hrule⟩ := ensuring_eq_ok_iff.mp h
  obtain ⟨h, _⟩ := alsoReporting_eq_ok_iff.mp h
  obtain ⟨r, hr, rfl⟩ := map_eq_ok_iff.mp h
  have hfields := both_eq_ok_iff.mp (both_eq_ok_iff.mp (both_eq_ok_iff.mp hr).2).2
  exact ⟨nameRule_eq_none_iff.mp hrule, within_eq_ok_iff.mp hfields.2⟩

mutual

theorem named_of_check : ∀ (d : Data) {e : Entry}, check d = .ok e → ∀ x ∈ nodes e, x.Named
  | .table fields, e, h, x, hx => by
    rw [check] at h
    obtain ⟨hnamed, hbelow⟩ := ofFields_eq_ok h
    rw [nodes_eq] at hx
    rcases List.mem_cons.mp hx with rfl | hx
    · exact hnamed
    · cases hfield : checkDependencies fields with
      | none =>
        -- without the field there is nothing below
        rw [hfield] at hbelow
        obtain hnil : [] = e.dependencies := Except.ok.inj hbelow
        rw [← hnil] at hx
        exact absurd hx List.not_mem_nil
      | some checked =>
        rw [hfield] at hbelow
        exact named_of_checkDependencies fields (hfield.trans (congrArg some hbelow)) x hx
  | .null, _, h, _, _ => by simp [check, failing] at h
  | .flag _, _, h, _, _ => by simp [check, failing] at h
  | .number _, _, h, _, _ => by simp [check, failing] at h
  | .moment _, _, h, _, _ => by simp [check, failing] at h
  | .text _, _, h, _, _ => by simp [check, failing] at h
  | .list _, _, h, _, _ => by simp [check, failing] at h

theorem named_of_checkList : ∀ (d : Data) {es : List Entry}, checkList d = .ok es →
    ∀ x ∈ nodesAll es, x.Named
  | .list items, _, h, x, hx => by
    rw [checkList] at h
    exact named_of_checkEach 0 items h x hx
  | .null, _, h, _, _ => by simp [checkList, failing] at h
  | .flag _, _, h, _, _ => by simp [checkList, failing] at h
  | .number _, _, h, _, _ => by simp [checkList, failing] at h
  | .moment _, _, h, _, _ => by simp [checkList, failing] at h
  | .text _, _, h, _, _ => by simp [checkList, failing] at h
  | .table _, _, h, _, _ => by simp [checkList, failing] at h

theorem named_of_checkEach (index : Nat) : ∀ (items : List Data) {es : List Entry},
    checkEach index items = .ok es → ∀ x ∈ nodesAll es, x.Named
  | [], es, h, x, hx => by
    rw [checkEach] at h
    obtain rfl := Except.ok.inj h
    exact absurd hx List.not_mem_nil
  | d :: items, es, h, x, hx => by
    rw [checkEach] at h
    obtain ⟨r, hr, rfl⟩ := map_eq_ok_iff.mp h
    obtain ⟨hfirst, hrest⟩ := both_eq_ok_iff.mp hr
    rw [nodesAll] at hx
    rcases List.mem_append.mp hx with hx | hx
    · exact named_of_check d (within_eq_ok_iff.mp hfirst) x hx
    · exact named_of_checkEach (index + 1) items hrest x hx

theorem named_of_checkDependencies : ∀ (fields : List (String × Data)) {es : List Entry},
    checkDependencies fields = some (.ok es) → ∀ x ∈ nodesAll es, x.Named
  | [], _, h, _, _ => by simp [checkDependencies] at h
  | (name, value) :: rest, es, h, x, hx => by
    rw [checkDependencies] at h
    split at h
    · rename_i c hrest
      exact named_of_checkDependencies rest (hrest.trans h) x hx
    · split at h
      · exact named_of_checkList value (Option.some.inj h) x hx
      · cases h

end

end Entry

/-! ## Accepted reports -/

namespace Report

theorem mem_put {name : String} {entries : List Entry} {buckets : List (String × List Entry)}
    {b : String × List Entry} (h : b ∈ put name entries buckets) :
    b = (name, entries) ∨ b ∈ buckets := by
  induction buckets with
  | nil => exact Or.inl (List.mem_singleton.mp h)
  | cons old rest ih =>
    obtain ⟨other, oldEntries⟩ := old
    rw [put] at h
    split at h
    · exact (List.mem_cons.mp h).imp_right (List.mem_cons_of_mem _)
    · rcases List.mem_cons.mp h with rfl | h
      · exact Or.inr List.mem_cons_self
      · exact (ih h).imp_right (List.mem_cons_of_mem _)

/-- Buckets of one name replace each other, so what is kept was given. -/
theorem mem_foldl_put : ∀ {all kept : List (String × List Entry)} {b : String × List Entry},
    b ∈ all.foldl (fun bs b => put b.1 b.2 bs) kept → b ∈ all ∨ b ∈ kept
  | [], _, _, h => Or.inr h
  | a :: all, kept, b, h => by
    rw [List.foldl_cons] at h
    rcases mem_foldl_put h with hb | hb
    · exact Or.inl (List.mem_cons_of_mem a hb)
    · rcases mem_put hb with rfl | hb
      · exact Or.inl List.mem_cons_self
      · exact Or.inr hb

theorem named_of_checkBuckets : ∀ {fields : List (String × Data)}
    {all : List (String × List Entry)}, checkBuckets fields = .ok all →
    ∀ b ∈ all, ∀ x ∈ Entry.nodesAll b.2, x.Named
  | [], all, h, b, hb, _, _ => by
    rw [checkBuckets] at h
    obtain rfl := Except.ok.inj h
    exact absurd hb List.not_mem_nil
  | (name, value) :: fields, all, h, b, hb, x, hx => by
    rw [checkBuckets] at h
    obtain ⟨r, hr, rfl⟩ := map_eq_ok_iff.mp h
    obtain ⟨hfirst, hrest⟩ := both_eq_ok_iff.mp hr
    rcases List.mem_cons.mp hb with rfl | hb
    · exact Entry.named_of_checkList value (within_eq_ok_iff.mp hfirst) x hx
    · exact named_of_checkBuckets hrest b hb x hx

theorem named_of_checkConfigurations {d : Data} {buckets : List (String × List Entry)}
    (h : checkConfigurations d = .ok buckets) :
    ∀ b ∈ buckets, ∀ x ∈ Entry.nodesAll b.2, x.Named := by
  cases d with
  | table fields =>
    obtain ⟨all, hall, rfl⟩ := map_eq_ok_iff.mp h
    intro b hb
    have hgiven := (mem_foldl_put hb).resolve_right List.not_mem_nil
    exact named_of_checkBuckets hall b hgiven
  | _ => simp [checkConfigurations, failing] at h

theorem named_of_parse {content : List Char} {report : Report} (h : parse content = .ok report) :
    ∀ x ∈ report.entries, x.Named := by
  unfold parse at h
  split at h
  · simp [failing] at h
  · rename_i d hd
    cases d with
    | table fields =>
      obtain ⟨r, hr, rfl⟩ := map_eq_ok_iff.mp h
      have hbuckets := within_eq_ok_iff.mp (both_eq_ok_iff.mp (both_eq_ok_iff.mp hr).2).2
      intro x hx
      obtain ⟨b, hb, hx⟩ := List.mem_flatMap.mp hx
      split at hbuckets
      · -- without the field there are no buckets
        obtain hnil : [] = r.2.2 := Except.ok.inj hbuckets
        rw [← hnil] at hb
        exact absurd hb List.not_mem_nil
      · exact named_of_checkConfigurations hbuckets b hb x hx
    | _ => simp [check, failing] at h

end Report

/-! ## What stops the reading of a report -/

namespace Entry

/-- The entry has an empty module name and no project. -/
def Nameless (e : Entry) : Prop := e.moduleName = some "" ∧ e.project = none

theorem coordinate_of_nameless {e : Entry} (h : e.Nameless) :
    e.coordinate = .error .namelessEntry := by
  simp [coordinate, h.1, h.2]

theorem coordinate_eq_error {e : Entry} {f : Failure} (h : e.coordinate = .error f)
    (hnamed : e.Named) : (∃ fault, f = .report fault) ∨ f = .namelessEntry ∧ e.Nameless := by
  unfold coordinate at h
  split at h
  · -- neither a module nor a project: such an entry is not accepted
    rename_i hmodule hproject
    exact absurd hnamed (by simp [Named, hmodule, hproject])
  · cases h
  · rename_i written project hmodule
    split at h
    · rename_i hempty
      split at h
      · rename_i hproject
        exact Or.inr ⟨(Except.error.inj h).symm, hempty ▸ hmodule, hproject⟩
      · cases h
    · split at h
      · exact Or.inl ⟨_, (Except.error.inj h).symm⟩
      · cases h

end Entry

/-- The first entry without a coordinate, in the order of reading, is nameless. -/
def Report.NamelessFirst (r : Report) : Prop :=
  ∃ before e after, r.entries = before ++ e :: after ∧
    (∀ x ∈ before, ∃ c, x.coordinate = .ok c) ∧ e.Nameless

namespace Resolution

variable {content : List Char} {base : Path} {report : Report} {f : Failure}

/-- The failure of an accepted report is that of the first entry without a coordinate. -/
theorem ofReport_eq_error_iff :
    ofReport base report = .error f ↔
      ∃ before e after, report.entries = before ++ e :: after ∧
        (∀ x ∈ before, ∃ c, x.coordinate = .ok c) ∧ e.coordinate = .error f := by
  rw [← failure?_eq_some, failure?_ofReport, List.findSome?_eq_some_iff]
  simp only [failure?_eq_some, failure?_eq_none]
  refine ⟨?_, ?_⟩
  · intro hparts
    obtain ⟨before, e, after, hentries, hf, hbefore⟩ := hparts
    exact ⟨before, e, after, hentries, hbefore, hf⟩
  · intro hparts
    obtain ⟨before, e, after, hentries, hbefore, hf⟩ := hparts
    exact ⟨before, e, after, hentries, hf, hbefore⟩

theorem ofReport_eq_error (hnamed : ∀ x ∈ report.entries, x.Named)
    (h : ofReport base report = .error f) :
    (∃ fault, f = .report fault) ∨ f = .namelessEntry ∧ report.NamelessFirst := by
  obtain ⟨before, e, after, hentries, hbefore, hf⟩ := ofReport_eq_error_iff.mp h
  have hmem : e ∈ report.entries := by
    rw [hentries]
    exact List.mem_append_right before List.mem_cons_self
  rcases Entry.coordinate_eq_error hf (hnamed e hmem) with hfault | ⟨hnameless, he⟩
  · exact Or.inl hfault
  · exact Or.inr ⟨hnameless, before, e, after, hentries, hbefore, he⟩

theorem ofReport_of_namelessFirst (h : report.NamelessFirst) :
    ofReport base report = .error .namelessEntry := by
  obtain ⟨before, e, after, hentries, hbefore, he⟩ := h
  exact ofReport_eq_error_iff.mpr
    ⟨before, e, after, hentries, hbefore, Entry.coordinate_of_nameless he⟩

/-- Reading a document fails with a fault of the report, or at a nameless entry. -/
theorem parse_eq_error (h : parse content base = .error f) :
    (∃ fault, f = .report fault) ∨
      f = .namelessEntry ∧ ∃ report, Report.parse content = .ok report ∧ report.NamelessFirst := by
  unfold parse at h
  split at h
  · exact Or.inl ⟨_, (Except.error.inj h).symm⟩
  · rename_i report hreport
    rcases ofReport_eq_error (Report.named_of_parse hreport) h with hfault | ⟨hnameless, hfirst⟩
    · exact Or.inl hfault
    · exact Or.inr ⟨hnameless, report, hreport, hfirst⟩

theorem parse_contained_iff (content : List Char) (base : Path) :
    ((∃ r, parse content base = .ok r) ∨ ∃ fault, parse content base = .error (.report fault)) ↔
      ∀ report, Report.parse content = .ok report → ¬ report.NamelessFirst := by
  refine ⟨?_, ?_⟩
  · intro hcontained report hreport hfirst
    have hstop : parse content base = .error .namelessEntry := by
      rw [parse, hreport]
      exact ofReport_of_namelessFirst hfirst
    rcases hcontained with ⟨r, hr⟩ | ⟨fault, hfault⟩
    · rw [hstop] at hr
      cases hr
    · rw [hstop] at hfault
      cases hfault
  · intro hnone
    cases h : parse content base with
    | ok r => exact Or.inl ⟨r, rfl⟩
    | error f =>
      rcases parse_eq_error h with ⟨fault, rfl⟩ | ⟨_, report, hreport, hfirst⟩
      · exact Or.inr ⟨fault, rfl⟩
      · exact absurd hfirst (hnone report hreport)

/-! ## A report that passes its check and cannot be read -/

/-- The report of a bucket whose only entry has an empty module name. -/
def namelessReport : Report where
  buckets := [("api", [Written.moduleEntry "" [] []])]

theorem nameless_entry_is_no_fault :
    ¬ ∀ content base, (∃ r, parse content base = .ok r) ∨
      ∃ fault, parse content base = .error (.report fault) := by
  intro hcontained
  have hstop : failure? (parse namelessReport.written ⟨.here, []⟩) = some .namelessEntry := by
    decide +kernel
  rw [failure?_eq_some] at hstop
  rcases hcontained namelessReport.written ⟨.here, []⟩ with ⟨r, hr⟩ | ⟨fault, hfault⟩
  · rw [hstop] at hr
    cases hr
  · rw [hstop] at hfault
    cases hfault

end Resolution

end DependencyAudit

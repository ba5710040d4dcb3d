import SiteRouter.CommandLine.Run
import SiteRouter.Proofs.Invocations

/-!
# Reports, plans and compilations agree

A report goes on after what it finds and a compilation stops there, so that a site is looked at in
two ways. They agree (`Report.Agrees`): a report is free of errors exactly when a compilation gets
as far as the script, it begins with the reason for which a compilation stops before that, and the
plan that is compiled is the one that is shown.

Every issue beside the errors of `Site.errorIssues` is a warning and comes after them
(`Site.exists_issues_eq`); the rest follows from the outcomes of `compile`, one lemma for each step
that can fail.
-/

namespace SiteRouter

/-! ## What agreement is -/

/-- A finding as it is reported. -/
def Finding.issue (f : Finding) : Issue := ⟨.error, f.code, f.message⟩

/-- A failure of planning as it is reported. -/
def PlanError.issue (e : PlanError) : Issue := ⟨.error, e.code, e.message⟩

/-- The issues that are errors, in order. -/
def Report.errorIssues (r : Report) : List Issue := r.issues.filter (·.severity == .error)

/-- The run has succeeded and has printed the plan, as text or as a document, with a line end behind
it, and nothing else. -/
structure CommandLine.Outcome.Shows (o : Outcome) (p : Plan) (form : OutputForm) (color : Bool) :
    Prop where
  exitCode : o.exitCode = 0
  text : form = .text → o.stdout = p.render color ++ "\n"
  json : form = .json → o.stdout = Document.Json.render p.toValue ++ "\n"
  closing : o.closing = []

open CommandLine in
/-- Where the files hold the site and the profile, a run of the program that is asked for the plan
of the site shows this one, in whatever form it is asked to. -/
structure Plan.IsShown (p : Plan) (s : Site) (profile : Profile) (overflow : Overflow) : Prop where
  /-- There is a command line for every site, profile, form and policy. -/
  asked : ∀ r : PlanRequest, r.site ≠ "" → r.profile ≠ some "" →
    ∃ arguments i, Invocation.ofArguments arguments = .ok i ∧ i.request = .plan r
  shown : ∀ {World : Type} (files : FileAccess (StateM World)) (now : StateM World Timestamp)
    (w w' w'' : World) (color : Bool) (arguments : List String) (i : Invocation) (r : PlanRequest)
    (source : String),
    Invocation.ofArguments arguments = .ok i → i.request = .plan r →
    (loadSite files r.site).run w = (.ok s, w') →
    (loadProfile files r.profile).run w' = (.ok (profile, source), w'') →
    overflowOf r.truncate = overflow →
    ∃ o, (run files now color arguments).run w = (o, w'') ∧ o.Shows p r.form color ∧
      o.notes = shownFrom i.level (siteNote r.site :: Plan.notes s profile overflow)

/-- The report says what a compilation of the site comes to. -/
structure Report.Agrees (r : Report) (s : Site) (profile : Profile) (options : CompileOptions) :
    Prop where
  accepted_iff : r.errors = 0 ↔ (∃ out, compile s profile options = .ok out) ∨
    ∃ line, compile s profile options = .error (.script line)
  compiled : ∀ out, compile s profile options = .ok out →
    Plan.build s profile options.overflow = .ok out.plan ∧
      out.plan.IsShown s profile options.overflow
  /-- All findings are reported, the one that stops the compilation before the others, and nothing
  is said about a plan. -/
  refused : ∀ f, compile s profile options = .error (.site f) →
    r.issues.head? = some f.issue ∧
      r.errorIssues = (s.findings profile options.strict).map Finding.issue
  unplanned : ∀ e, compile s profile options = .error (.plan e) → r.errorIssues = [e.issue]

/-! ## Errors of a report -/

namespace Site

variable {s : Site} {profile : Profile} {source : String} {strict : Bool} {overflow : Overflow}

/-- The errors that there are to report: all findings or, where there are none, the failure of
planning. -/
def errorIssues (s : Site) (profile : Profile) (strict : Bool) (overflow : Overflow) :
    List Issue :=
  match s.findings profile strict with
  | [] =>
    match Plan.build s profile overflow with
    | .ok _ => []
    | .error e => [e.issue]
  | findings => findings.map Finding.issue

theorem severity_of_mem_errorIssues {i : Issue}
    (hi : i ∈ s.errorIssues profile strict overflow) : i.severity = .error := by
  unfold errorIssues at hi
  split at hi
  next =>
    split at hi
    next => exact absurd hi List.not_mem_nil
    next =>
      obtain rfl := List.mem_singleton.mp hi
      rfl
  next =>
    obtain ⟨f, -, rfl⟩ := List.mem_map.mp hi
    rfl

theorem errorIssues_eq_nil_iff : s.errorIssues profile strict overflow = [] ↔
    s.findings profile strict = [] ∧ ∃ p, Plan.build s profile overflow = .ok p := by
  unfold errorIssues
  split
  next h =>
    rw [and_iff_right h]
    split
    next p hp => exact iff_of_true rfl ⟨p, hp⟩
    next e he => simp [he]
  next h => exact iff_of_false (fun hnil => h (List.map_eq_nil_iff.mp hnil)) fun hok => h hok.1

theorem severity_of_mem_map {α : Type} {f : α → Issue} {xs : List α} {severity : Severity}
    (h : ∀ x, (f x).severity = severity) : ∀ i ∈ xs.map f, i.severity = severity := by
  intro i hi
  obtain ⟨x, -, rfl⟩ := List.mem_map.mp hi
  exact h x

/-- What a plan leaves out is a warning. -/
theorem severity_of_mem_planIssues {plan : Plan} :
    ∀ i ∈ s.planIssues plan, i.severity = .warning := by
  rw [planIssues, List.forall_mem_append]
  refine ⟨severity_of_mem_map fun _ => rfl, ?_⟩
  split <;> simp

/-- What is said about the parts of a site is a warning. -/
theorem severity_of_mem_partIssues : ∀ i ∈ s.uplinkIssues ++ (s.portIssues ++ (s.networkIssues ++
    s.passwordIssues profile)), i.severity = .warning := by
  simp only [List.forall_mem_append]
  refine ⟨?_, ?_, severity_of_mem_map fun _ => rfl, ?_⟩
  · unfold uplinkIssues
    split <;> simp
  · rw [portIssues, List.forall_mem_append]
    exact ⟨severity_of_mem_map fun _ => rfl, severity_of_mem_map fun _ => rfl⟩
  · unfold passwordIssues
    split <;> simp

theorem exists_structureIssues_eq (s : Site) (profile : Profile) (strict : Bool)
    (overflow : Overflow) : ∃ warnings, (∀ i ∈ warnings, i.severity = .warning) ∧
      s.structureIssues profile strict overflow =
      s.errorIssues profile strict overflow ++ warnings := by
  unfold structureIssues errorIssues
  cases s.findings profile strict with
  | nil =>
    cases Plan.build s profile overflow with
    | ok plan => exact ⟨s.planIssues plan, severity_of_mem_planIssues, rfl⟩
    | error e => exact ⟨[], by simp, rfl⟩
  | cons f rest =>
    refine ⟨[], by simp, ?_⟩
    rw [List.append_nil]
    rfl

/-- A report is its errors and then warnings. -/
theorem exists_issues_eq (s : Site) (profile : Profile) (source : String) (strict : Bool)
    (overflow : Overflow) : ∃ warnings, (∀ i ∈ warnings, i.severity = .warning) ∧
      (s.report profile source strict overflow).issues =
      s.errorIssues profile strict overflow ++ warnings := by
  obtain ⟨warnings, hwarnings, hissues⟩ := s.exists_structureIssues_eq profile strict overflow
  refine ⟨warnings ++ (s.uplinkIssues ++ (s.portIssues ++ (s.networkIssues ++
    s.passwordIssues profile))), ?_, ?_⟩
  · exact List.forall_mem_append.mpr ⟨hwarnings, severity_of_mem_partIssues⟩
  · simp only [report, hissues, List.append_assoc]

theorem errorIssues_report : (s.report profile source strict overflow).errorIssues =
    s.errorIssues profile strict overflow := by
  obtain ⟨warnings, hwarnings, hissues⟩ := s.exists_issues_eq profile source strict overflow
  have herrors : (s.errorIssues profile strict overflow).filter (·.severity == .error) =
      s.errorIssues profile strict overflow :=
    List.filter_eq_self.mpr fun i hi => beq_iff_eq.mpr (severity_of_mem_errorIssues hi)
  have hnone : warnings.filter (·.severity == .error) = [] := by
    refine List.filter_eq_nil_iff.mpr fun i hi => ?_
    rw [hwarnings i hi]
    decide
  rw [Report.errorIssues, hissues, List.filter_append, herrors, hnone, List.append_nil]

/-- No warning comes before an error. -/
theorem issues_ordered : (s.report profile source strict overflow).issues.Pairwise
    fun i j => ¬(i.severity = .warning ∧ j.severity = .error) := by
  obtain ⟨warnings, hwarnings, hissues⟩ := s.exists_issues_eq profile source strict overflow
  rw [hissues, List.pairwise_append]
  refine ⟨List.pairwise_of_forall_mem_list ?_, List.pairwise_of_forall_mem_list ?_, ?_⟩
  · rintro i hi j - ⟨hwarning, -⟩
    rw [severity_of_mem_errorIssues hi] at hwarning
    exact nomatch hwarning
  · rintro i - j hj ⟨-, herror⟩
    rw [hwarnings j hj] at herror
    exact nomatch herror
  · rintro i hi j - ⟨hwarning, -⟩
    rw [severity_of_mem_errorIssues hi] at hwarning
    exact nomatch hwarning

end Site

namespace Report

variable {r : Report}

theorem errors_eq_length : r.errors = r.errorIssues.length := by
  rw [errors, count, errorIssues, List.countP_eq_length_filter]

/-- Every issue is an error or a warning. -/
theorem errors_add_warnings : r.errors + r.warnings = r.issues.length := by
  rw [errors, warnings, count, count, List.length_eq_countP_add_countP (·.severity == .error)]
  congr 1
  refine List.countP_congr fun i _ => ?_
  cases i.severity <;> simp

end Report

/-! ## Outcomes of a compilation -/

section Compilation

variable {s : Site} {profile : Profile} {options : CompileOptions}

/-- A compilation stops at the first finding, or else at the failure of planning, or else it gets to
the script of the plan. -/
theorem compile_cases (s : Site) (profile : Profile) (options : CompileOptions) :
    (∃ f rest, s.findings profile options.strict = f :: rest ∧
      compile s profile options = .error (.site f)) ∨
    (∃ e, s.findings profile options.strict = [] ∧
      Plan.build s profile options.overflow = .error e ∧
      compile s profile options = .error (.plan e)) ∨
    ∃ p, s.findings profile options.strict = [] ∧ Plan.build s profile options.overflow = .ok p ∧
      ((∃ line, compile s profile options = .error (.script line)) ∨
        ∃ out, compile s profile options = .ok out) := by
  unfold compile Site.check
  cases s.findings profile options.strict with
  | cons f rest => exact Or.inl ⟨f, rest, rfl, rfl⟩
  | nil =>
    cases Plan.build s profile options.overflow with
    | error e => exact Or.inr (Or.inl ⟨e, rfl, rfl, rfl⟩)
    | ok p =>
      refine Or.inr (Or.inr ⟨p, rfl, rfl, ?_⟩)
      cases hwrite : (Blueprint.mk s profile p options.generatedAt).script.write with
      | error line =>
        refine Or.inl ⟨line, ?_⟩
        show (Except.mapError CompileError.script _ >>= _) = _
        rw [hwrite]
        rfl
      | ok text =>
        refine Or.inr ⟨⟨p, (Blueprint.mk s profile p options.generatedAt).script, text⟩, ?_⟩
        show (Except.mapError CompileError.script _ >>= _) = _
        rw [hwrite]
        rfl

open CommandLine in
/-- The plan of a site that is accepted is shown. -/
theorem Plan.isShown_of_build_eq_ok {p : Plan} {overflow : Overflow}
    (hcheck : s.check profile false = .ok ()) (hplan : Plan.build s profile overflow = .ok p) :
    p.IsShown s profile overflow := by
  constructor
  case asked =>
    intro r hsite hpath
    obtain ⟨arguments, harguments⟩ := r.exists_arguments_plan false false false hsite hpath
    exact ⟨arguments, _, harguments, rfl⟩
  case shown =>
    intro World files now w w' w'' color arguments i r source harguments hrequest hsite hprofile
    rintro rfl
    have hrun : (CommandLine.run files now color arguments).run w =
        (success i.level (siteNote r.site :: Plan.notes s profile (overflowOf r.truncate))
          (printed r.form (p.render color) p.toValue) [], w'') := by
      rw [CommandLine.run, harguments]
      simp only [hrequest]
      rw [CommandLine.runPlan, CommandLine.withSources, run_bind_of_run_eq hsite]
      dsimp only
      rw [run_bind_of_run_eq hprofile]
      simp only [hcheck, hplan]
      rfl
    refine ⟨_, hrun, ⟨rfl, fun hform => ?_, fun hform => ?_, rfl⟩, rfl⟩
    · rw [hform]
      rfl
    · rw [hform]
      rfl

end Compilation

/-! ## Agreement -/

namespace Site

variable {s : Site} {profile : Profile} {source : String} {strict : Bool} {overflow : Overflow}

theorem errors_eq_zero_iff : (s.report profile source strict overflow).errors = 0 ↔
    s.findings profile strict = [] ∧ ∃ p, Plan.build s profile overflow = .ok p := by
  rw [Report.errors_eq_length, errorIssues_report, List.length_eq_zero_iff, errorIssues_eq_nil_iff]

/-- The check that looks for fewer mappings accepts no fewer sites. -/
theorem check_lenient (h : s.findings profile strict = []) : s.check profile false = .ok () := by
  rw [check_eq_ok_iff, findings_eq_nil_iff]
  rw [findings_eq_nil_iff] at h
  exact { h with strict_mapping := nofun }

theorem agrees_of_finding {generatedAt : Timestamp} {f : Finding} {rest : List Finding}
    (hfindings : s.findings profile strict = f :: rest)
    (hcompile : compile s profile ⟨generatedAt, overflow, strict⟩ = .error (.site f)) :
    (s.report profile source strict overflow).Agrees s profile ⟨generatedAt, overflow, strict⟩ := by
  have herrors : s.errorIssues profile strict overflow =
      (s.findings profile strict).map Finding.issue := by
    rw [errorIssues, hfindings]
  refine ⟨?_, ?_, ?_, ?_⟩
  · rw [errors_eq_zero_iff, hfindings, hcompile]
    simp
  · intro out hout
    exact nomatch hcompile.symm.trans hout
  · intro f' hf'
    obtain ⟨⟩ := hcompile.symm.trans hf'
    obtain ⟨warnings, -, hissues⟩ := s.exists_issues_eq profile source strict overflow
    rw [hissues, errorIssues_report, herrors, hfindings]
    exact ⟨rfl, rfl⟩
  · intro e he
    exact nomatch hcompile.symm.trans he

theorem agrees_of_planError {generatedAt : Timestamp} {e : PlanError}
    (hfindings : s.findings profile strict = []) (hplan : Plan.build s profile overflow = .error e)
    (hcompile : compile s profile ⟨generatedAt, overflow, strict⟩ = .error (.plan e)) :
    (s.report profile source strict overflow).Agrees s profile ⟨generatedAt, overflow, strict⟩ := by
  refine ⟨?_, ?_, ?_, ?_⟩
  · rw [errors_eq_zero_iff, hplan, hcompile]
    simp
  · intro out hout
    exact nomatch hcompile.symm.trans hout
  · intro f hf
    exact nomatch hcompile.symm.trans hf
  · intro e' he'
    obtain ⟨⟩ := hcompile.symm.trans he'
    rw [errorIssues_report, errorIssues, hfindings, hplan]

theorem agrees_of_plan {generatedAt : Timestamp} {p : Plan}
    (hfindings : s.findings profile strict = []) (hplan : Plan.build s profile overflow = .ok p)
    (hcompile :
      (∃ line, compile s profile ⟨generatedAt, overflow, strict⟩ = .error (.script line)) ∨
      ∃ out, compile s profile ⟨generatedAt, overflow, strict⟩ = .ok out) :
    (s.report profile source strict overflow).Agrees s profile ⟨generatedAt, overflow, strict⟩ := by
  refine ⟨?_, ?_, ?_, ?_⟩
  · refine iff_of_true (errors_eq_zero_iff.mpr ⟨hfindings, p, hplan⟩) ?_
    exact hcompile.symm
  · intro out hout
    obtain ⟨-, hplan', -, -⟩ := of_compile_eq_ok hout
    exact ⟨hplan', Plan.isShown_of_build_eq_ok (check_lenient hfindings) hplan'⟩
  · intro f hf
    rcases hcompile with ⟨line, hline⟩ | ⟨out, hout⟩
    · exact nomatch hline.symm.trans hf
    · exact nomatch hout.symm.trans hf
  · intro e he
    rcases hcompile with ⟨line, hline⟩ | ⟨out, hout⟩
    · exact nomatch hline.symm.trans he
    · exact nomatch hout.symm.trans he

/-- **Reports, plans and compilations agree.** A report is free of errors exactly when the site is
accepted and has a plan, it agrees with the compilations that have its options, and in it the errors
come first and there is nothing besides errors and warnings. -/
theorem report_agrees (s : Site) (profile : Profile) (source : String) (strict : Bool)
    (overflow : Overflow) :
    let r := s.report profile source strict overflow
    (r.errors = 0 ↔ s.check profile strict = .ok () ∧ ∃ p, Plan.build s profile overflow = .ok p) ∧
      (∀ generatedAt, r.Agrees s profile ⟨generatedAt, overflow, strict⟩) ∧
      r.errors + r.warnings = r.issues.length ∧
      r.issues.Pairwise fun i j => ¬(i.severity = .warning ∧ j.severity = .error) := by
  intro r
  refine ⟨by rw [check_eq_ok_iff, errors_eq_zero_iff], fun generatedAt => ?_,
    Report.errors_add_warnings, s.issues_ordered⟩
  rcases compile_cases s profile ⟨generatedAt, overflow, strict⟩ with
    ⟨f, rest, hfindings, hcompile⟩ | ⟨e, hfindings, hplan, hcompile⟩ |
    ⟨p, hfindings, hplan, hcompile⟩
  · exact agrees_of_finding hfindings hcompile
  · exact agrees_of_planError hfindings hplan hcompile
  · exact agrees_of_plan hfindings hplan hcompile

end Site

end SiteRouter

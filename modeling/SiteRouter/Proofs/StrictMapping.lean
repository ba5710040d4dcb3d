import SiteRouter.Proofs.Compilation
import SiteRouter.Proofs.RoutedUplinks

/-!
# Strict mapping

In strict mode a site is refused when a network has no mapping and there is a choice of uplinks. The
check counts the uplinks that could be routed, and the planner those that it has routed, so that the
two see a choice in the same sites only where there are probes for all uplinks
(`routedCount_eq_countP`); otherwise the check sees at least as many (`routedCount_le_countP`).

A mark is explicit when its network has a mapping (`SteeringPlan.explicit_iff`). Hence strict mode
leaves a compilation as it is and excludes the defaults (`compile_strict_excludes_defaults`).
-/

namespace SiteRouter

variable {s : Site} {profile : Profile} {uplinks : List Uplink} {probes : List Ipv4}

/-- Where there is a choice between so many uplinks, every network has a mapping. -/
def Site.MapsAll (s : Site) (count : Nat) : Prop :=
  s.steering.enabled = true → 2 ≤ count → ∀ n ∈ s.networks, n.id ∈ s.steering.mapping.keys

namespace Site.MapsAll

variable {m n : Nat}

/-- Where networks are not steered, there is no choice. -/
theorem of_disabled (h : s.steering.enabled = false) : s.MapsAll n := fun henabled =>
  absurd (h.symm.trans henabled) Bool.false_ne_true

/-- There is a choice between more uplinks where there is one between fewer. -/
theorem mono (h : s.MapsAll n) (hle : m ≤ n) : s.MapsAll m := fun henabled hcount =>
  h henabled (Nat.le_trans hcount hle)

end Site.MapsAll

/-! ## Counting uplinks -/

/-- No more uplinks are routed than could be. -/
theorem routedCount_le_countP (uplinks : List Uplink) (probes : List Ipv4) :
    routedCount uplinks probes ≤ uplinks.countP fun u => decide (u.kind ≠ .dhcp) :=
  (List.take_sublist probes.length uplinks).countP_le

/-- With a probe for every uplink, all that could be routed are. -/
theorem routedCount_eq_countP (h : uplinks.length ≤ probes.length) :
    routedCount uplinks probes = uplinks.countP fun u => decide (u.kind ≠ .dhcp) := by
  rw [routedCount, List.take_of_length_le h]

/-! ## Checks and marks -/

/-- Strict mode asks for mappings and for nothing else. -/
theorem Site.isValid_strict_iff : s.IsValid profile true ↔ s.IsValid profile false ∧
    s.MapsAll (s.uplinks.countP fun u => decide (u.kind ≠ .dhcp)) := by
  constructor
  · intro h
    exact ⟨{ h with strict_mapping := nofun }, h.strict_mapping rfl⟩
  · rintro ⟨h, hmapped⟩
    exact { h with strict_mapping := fun _ => hmapped }

/-- A mark is explicit when its network has a mapping. -/
theorem SteeringPlan.explicit_of_markOf {f : Failover} {fallback : UplinkRoutes} {n : Network}
    {m : Mark} (h : markOf s f fallback n = .ok m) :
    m.explicit = true ↔ n.id ∈ s.steering.mapping.keys := by
  rw [Keyed.mem_keys_iff]
  obtain ⟨-, -, ⟨hid, -, hexplicit⟩ | ⟨hnone, -, -, hexplicit⟩⟩ := markOf_cases h
  · exact iff_of_true hexplicit ⟨m.uplink, hid⟩
  · rw [hexplicit, hnone]
    exact iff_of_false Bool.false_ne_true fun ⟨_, huplink⟩ => nomatch huplink

/-- All marks of a plan are explicit when no network that has a mark lacks a mapping. -/
theorem SteeringPlan.explicit_iff {f : Failover} {p : SteeringPlan} (h : plan s f = .ok p) :
    (∀ m ∈ p.marks, m.explicit = true) ↔ s.MapsAll f.uplinks.length := by
  rcases marks_cases h with ⟨hchoice, hnone⟩ | ⟨fallback, rest, -, hchoice, hall, hmarks⟩
  · rw [hnone]
    refine iff_of_true (List.forall_mem_nil _) fun henabled hcount => ?_
    exact absurd ⟨henabled, hcount⟩ hchoice
  · constructor
    · intro hexplicit _ _ n hn
      obtain ⟨m, hm⟩ := hall n hn
      exact (explicit_of_markOf hm).mp (hexplicit m ((hmarks m).mpr ⟨n, hn, hm⟩))
    · intro hmapped m hmem
      obtain ⟨n, hn, hm⟩ := (hmarks m).mp hmem
      exact (explicit_of_markOf hm).mpr (hmapped hchoice.1 hchoice.2 n hn)

/-- An inert plan has no marks. -/
theorem SteeringPlan.marks_eq_nil {f : Failover} {p : SteeringPlan} (h : plan s f = .ok p)
    (hinert : p.active = false) : p.marks = [] := by
  rcases plan_cases s f with ⟨-, hplan⟩ | ⟨fallback, rest, -, -, hplan⟩
  · obtain rfl := Except.ok.inj (hplan.symm.trans h)
    rfl
  · obtain ⟨marks, -, rfl⟩ := map_eq_ok.mp (hplan.symm.trans h)
    exact absurd hinert.symm Bool.false_ne_true

/-! ## Two compilations -/

/-- What is compiled does not depend on the mode, once the site is accepted. -/
theorem compile_eq_of_check {generatedAt : Timestamp} {overflow : Overflow} {a b : Bool}
    (ha : s.check profile a = .ok ()) (hb : s.check profile b = .ok ()) :
    compile s profile ⟨generatedAt, overflow, a⟩ =
      compile s profile ⟨generatedAt, overflow, b⟩ := by
  rw [compile, compile, ha, hb]

/-- **Strict mode excludes the defaults and nothing else.** What compiles in strict mode compiles
without it to the same script, with explicit marks only. With a probe for every uplink the converse
holds too, in particular where networks are not steered at all. -/
theorem compile_strict_excludes_defaults (s : Site) (profile : Profile) (generatedAt : Timestamp)
    (overflow : Overflow) (out : Compiled) :
    (compile s profile ⟨generatedAt, overflow, true⟩ = .ok out →
      compile s profile ⟨generatedAt, overflow, false⟩ = .ok out ∧
        ∀ m ∈ out.plan.steering.marks, m.explicit = true) ∧
      (s.uplinks.length ≤ profile.probes.length →
        compile s profile ⟨generatedAt, overflow, false⟩ = .ok out →
        (∀ m ∈ out.plan.steering.marks, m.explicit = true) ∨ s.steering.enabled = false ∨
          out.plan.steering.active = false →
        compile s profile ⟨generatedAt, overflow, true⟩ = .ok out) := by
  have hcheck : ∀ strict, s.check profile strict = .ok () ↔ s.IsValid profile strict :=
    fun _ => Site.check_eq_ok_iff.trans Site.findings_eq_nil_iff
  constructor
  · intro h
    obtain ⟨hstrict, hbuild, -, -⟩ := of_compile_eq_ok h
    obtain ⟨hvalid, hmapped⟩ := Site.isValid_strict_iff.mp hstrict
    obtain ⟨-, hfailover, hsteering⟩ := Plan.of_build_eq_ok hbuild
    refine ⟨(compile_eq_of_check ((hcheck false).mpr hvalid) ((hcheck true).mpr hstrict)).trans h,
      (SteeringPlan.explicit_iff hsteering).mpr (hmapped.mono ?_)⟩
    rw [(Failover.isFor_of_plan_eq_ok hfailover).length_uplinks]
    exact routedCount_le_countP s.uplinks profile.probes
  · intro hprobes h hmarks
    obtain ⟨hvalid, hbuild, -, -⟩ := of_compile_eq_ok h
    obtain ⟨-, hfailover, hsteering⟩ := Plan.of_build_eq_ok hbuild
    -- Disabled or inert, steering has no marks, and none of them is a default.
    have hexplicit : ∀ m ∈ out.plan.steering.marks, m.explicit = true := by
      rcases hmarks with hexplicit | hdisabled | hinert
      · exact hexplicit
      · exact (SteeringPlan.explicit_iff hsteering).mpr (.of_disabled hdisabled)
      · rw [SteeringPlan.marks_eq_nil hsteering hinert]
        exact List.forall_mem_nil _
    have hmapped := (SteeringPlan.explicit_iff hsteering).mp hexplicit
    rw [(Failover.isFor_of_plan_eq_ok hfailover).length_uplinks,
      routedCount_eq_countP hprobes] at hmapped
    have hstrict := Site.isValid_strict_iff.mpr ⟨hvalid, hmapped⟩
    exact (compile_eq_of_check ((hcheck true).mpr hstrict) ((hcheck false).mpr hvalid)).trans h

/-- The sample with both of its networks mapped. -/
def Site.mappedSample : Site :=
  { Site.sample with steering := ⟨true, ⟨[("guests", "dsl"), ("office", "fibre")], by decide⟩⟩ }

/-- The theorem at a site with a mapping for each of its networks, and back. -/
theorem compile_strict_excludes_defaults_of_mapped : ∃ out,
    compile .mappedSample .builtin { CompileOptions.sample with strict := true } = .ok out ∧
      compile .mappedSample .builtin .sample = .ok out ∧
        ∀ m ∈ out.plan.steering.marks, m.explicit = true := by
  have hout : ∃ out,
      compile .mappedSample .builtin { CompileOptions.sample with strict := true } = .ok out :=
    exists_compile_of_checks (by decide +kernel) (by decide +kernel)
  obtain ⟨out, hstrict⟩ := hout
  obtain ⟨hrelaxed, hback⟩ := compile_strict_excludes_defaults .mappedSample .builtin
    CompileOptions.sample.generatedAt .reject out
  obtain ⟨hout, hexplicit⟩ := hrelaxed hstrict
  exact ⟨out, hback (by decide) hout (.inl hexplicit), hout, hexplicit⟩

end SiteRouter

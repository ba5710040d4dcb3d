import SiteRouter.Compile
import SiteRouter.Proofs.Along
import SiteRouter.Proofs.Bridging
import SiteRouter.Proofs.FailoverPlan
import SiteRouter.Proofs.Validity
import SiteRouter.Proofs.Writing

/-!
# What a compiled site rests on

A site that compiles is valid and has a plan, and its script is the one that is written from the
two. `Blueprint.IsSound` collects what the sections of the script rely on: the ports of the bridge
are ports of the device, the routes are those of the uplinks, the marks name networks and tables
that exist. `of_compile_eq_ok` takes a compilation apart, and `isSound_of_build_eq_ok` puts
together what the check and the planners guarantee.
-/

namespace SiteRouter

/-! ## Steps -/

section Steps

variable {ε ε' α β : Type}

/-- A step gives a result when it does not fail. -/
theorem exists_eq_ok_iff {x : Except ε α} : (∃ a, x = .ok a) ↔ ∀ e, x ≠ .error e := by
  cases x <;> simp

theorem bind_eq_ok {x : Except ε α} {f : α → Except ε β} {b : β} :
    (x >>= f) = .ok b ↔ ∃ a, x = .ok a ∧ f a = .ok b := by
  cases x <;> simp [bind, Except.bind]

theorem bind_eq_error {x : Except ε α} {f : α → Except ε β} {e : ε} :
    (x >>= f) = .error e ↔ x = .error e ∨ ∃ a, x = .ok a ∧ f a = .error e := by
  cases x <;> simp [bind, Except.bind]

theorem map_eq_ok {x : Except ε α} {f : α → β} {b : β} :
    x.map f = .ok b ↔ ∃ a, x = .ok a ∧ f a = b := by
  cases x <;> simp [Except.map]

theorem map_eq_error {x : Except ε α} {f : α → β} {e : ε} :
    x.map f = .error e ↔ x = .error e := by
  cases x <;> simp [Except.map]

theorem mapError_eq_ok {x : Except ε α} {f : ε → ε'} {a : α} :
    x.mapError f = .ok a ↔ x = .ok a := by
  cases x with
  | error e => exact iff_of_false nofun nofun
  | ok b =>
    show Except.ok b = .ok a ↔ Except.ok b = .ok a
    rw [Except.ok.injEq, Except.ok.injEq]

theorem toOption_eq_some {x : Except ε α} {a : α} : x.toOption = some a ↔ x = .ok a := by
  cases x <;> simp [Except.toOption]

/-- What a step makes of a list is made item by item. -/
theorem mem_iff_of_mapM_eq_ok {f : α → Except ε β} {xs : List α} {ys : List β}
    (h : xs.mapM f = .ok ys) {y : β} : y ∈ ys ↔ ∃ x ∈ xs, f x = .ok y := by
  induction xs generalizing ys with
  | nil =>
    obtain rfl := Except.ok.inj h
    simp
  | cons x xs ih =>
    rw [List.mapM_cons] at h
    obtain ⟨z, hz, h⟩ := bind_eq_ok.mp h
    obtain ⟨rest, hrest, h⟩ := bind_eq_ok.mp h
    obtain rfl := Except.ok.inj h
    simp only [List.mem_cons, ih hrest, exists_eq_or_imp, hz, Except.ok.injEq]
    rw [eq_comm]

/-- What is read off the results of a step along a list is read off its items. -/
theorem map_eq_of_mapM_eq_ok {γ : Type} {f : α → Except ε β} {g : α → γ} {k : β → γ} {xs : List α}
    {ys : List β} (h : xs.mapM f = .ok ys) (hkey : ∀ x y, f x = .ok y → k y = g x) :
    ys.map k = xs.map g := by
  induction xs generalizing ys with
  | nil =>
    obtain rfl := Except.ok.inj h
    rfl
  | cons x xs ih =>
    rw [List.mapM_cons] at h
    obtain ⟨y, hy, h⟩ := bind_eq_ok.mp h
    obtain ⟨rest, hrest, h⟩ := bind_eq_ok.mp h
    obtain rfl := Except.ok.inj h
    rw [List.map_cons, List.map_cons, hkey x y hy, ih hrest]

/-- A step along a list fails as it does for the first item for which it fails. -/
theorem mapM_eq_error {f : α → Except ε β} {xs : List α} {e : ε} :
    xs.mapM f = .error e ↔ FirstAnswer (fun x e => f x = .error e) xs e := by
  induction xs with
  | nil => exact iff_of_false nofun not_firstAnswer_nil
  | cons x xs ih =>
    rw [List.mapM_cons, bind_eq_error, firstAnswer_cons]
    cases hx : f x with
    | error e' => simp
    | ok y => simp [bind_eq_error, ih, pure, Except.pure]

/-- A step along a list succeeds when it does for every item. -/
theorem exists_of_mapM_eq_ok {f : α → Except ε β} {xs : List α} {ys : List β}
    (h : xs.mapM f = .ok ys) : ∀ x ∈ xs, ∃ y, f x = .ok y := by
  intro x hx
  have hnone : ∀ e, ¬FirstAnswer (fun x e => f x = .error e) xs e := by
    intro e he
    rw [← mapM_eq_error, h] at he
    exact nomatch he
  exact exists_eq_ok_iff.mpr (forall_not_firstAnswer_iff.mp hnone x hx)

/-- What follows a step that has been carried out goes on from the state that the step leaves. -/
theorem run_bind_of_run_eq {σ : Type} {x : StateM σ α} {f : α → StateM σ β} {s s' : σ} {a : α}
    (h : x.run s = (a, s')) : (x >>= f).run s = (f a).run s' := by
  rw [StateT.run_bind, h]
  rfl

end Steps

/-! ## Plans -/

theorem Plan.of_build_eq_ok {s : Site} {profile : Profile} {overflow : Overflow} {p : Plan}
    (h : build s profile overflow = .ok p) :
    VlanTable.plan s profile.bridgeName = .ok p.vlans ∧
      Failover.plan s.uplinks profile.probes overflow = .ok p.failover ∧
      SteeringPlan.plan s p.failover = .ok p.steering := by
  obtain ⟨vlans, hvlans, h⟩ := bind_eq_ok.mp h
  obtain ⟨failover, hfailover, h⟩ := bind_eq_ok.mp h
  obtain ⟨steering, hsteering, h⟩ := bind_eq_ok.mp h
  obtain rfl := Except.ok.inj h
  exact ⟨hvlans, hfailover, hsteering⟩

/-- Every VLAN is carried tagged by the bridge and by ports that have joined it. -/
theorem Site.mem_memberships {s : Site} {bridge : String} {earlier networks : List Network}
    {m : Membership} (hm : m ∈ s.memberships bridge earlier networks) :
    ∃ members, m.tagged = bridge :: members ∧ members ⊆ s.bridged.map Prod.fst := by
  induction networks generalizing earlier with
  | nil => exact absurd hm List.not_mem_nil
  | cons n rest ih =>
    rcases List.mem_cons.mp hm with rfl | hm
    · refine ⟨_, rfl, ?_⟩
      split
      · exact List.nil_subset _
      · exact List.map_subset _ List.filter_sublist.subset
    · exact ih hm

/-- What the making of a VLAN table comes to. -/
theorem VlanTable.of_plan_eq_ok {s : Site} {bridge : String} {t : VlanTable}
    (h : plan s bridge = .ok t) :
    t.bridge = bridge ∧ t.ports = s.bridged.map (fun (port, a) => ⟨port, a.mode, a.pvid⟩) ∧
      t.vlans = s.memberships bridge [] s.networks := by
  rw [plan_eq, elim_refusal_eq_ok] at h
  obtain ⟨-, rfl⟩ := h
  exact ⟨rfl, rfl, rfl⟩

/-- Marks are made only where there is a choice. -/
theorem SteeringPlan.plan_cases (s : Site) (f : Failover) :
    (¬(s.steering.enabled = true ∧ 2 ≤ f.uplinks.length) ∧ plan s f = .ok inactive) ∨
      ∃ fallback rest, f.uplinks = fallback :: rest ∧
        (s.steering.enabled = true ∧ 2 ≤ f.uplinks.length) ∧
        plan s f = (s.networks.mapM (markOf s f fallback)).map fun marks => ⟨true, marks⟩ := by
  unfold plan
  split
  next fallback second rest henabled huplinks =>
    refine Or.inr ⟨fallback, second :: rest, huplinks, ⟨henabled, ?_⟩, rfl⟩
    rw [huplinks, List.length_cons, List.length_cons]
    omega
  next hinactive =>
    refine Or.inl ⟨?_, rfl⟩
    rintro ⟨henabled, hcount⟩
    match huplinks : f.uplinks with
    | [] => simp [huplinks] at hcount
    | [_] => simp [huplinks] at hcount
    | fallback :: second :: rest => exact hinactive fallback second rest henabled huplinks

/-- Where there is a choice every network has a mark. -/
theorem SteeringPlan.marks_cases {s : Site} {f : Failover} {p : SteeringPlan}
    (h : plan s f = .ok p) :
    (¬(s.steering.enabled = true ∧ 2 ≤ f.uplinks.length) ∧ p.marks = []) ∨
      ∃ fallback rest, f.uplinks = fallback :: rest ∧
        (s.steering.enabled = true ∧ 2 ≤ f.uplinks.length) ∧
        (∀ n ∈ s.networks, ∃ m, markOf s f fallback n = .ok m) ∧
        ∀ m, m ∈ p.marks ↔ ∃ n ∈ s.networks, markOf s f fallback n = .ok m := by
  rcases plan_cases s f with ⟨hchoice, hplan⟩ | ⟨fallback, rest, hf, hchoice, hplan⟩
  · obtain rfl := Except.ok.inj (hplan.symm.trans h)
    exact Or.inl ⟨hchoice, rfl⟩
  · obtain ⟨marks, hmarks, rfl⟩ := map_eq_ok.mp (hplan.symm.trans h)
    exact Or.inr ⟨fallback, rest, hf, hchoice, exists_of_mapM_eq_ok hmarks,
      fun m => mem_iff_of_mapM_eq_ok hmarks⟩

/-- A mark is on the traffic of its network. It is for the uplink that the network is mapped to, or
for the fallback when there is no mapping. -/
theorem SteeringPlan.markOf_cases {s : Site} {f : Failover} {fallback : UplinkRoutes} {n : Network}
    {m : Mark} (h : markOf s f fallback n = .ok m) :
    m.network = n.id ∧ m.interface = n.name ∧
      ((s.steering.mapping.get? n.id = some m.uplink ∧ f.table? m.uplink = some m.table ∧
          m.explicit = true) ∨
        (s.steering.mapping.get? n.id = none ∧ m.uplink = fallback.uplink ∧
          m.table = fallback.table ∧ m.explicit = false)) := by
  unfold markOf at h
  split at h
  next uplink huplink =>
    split at h
    next table htable =>
      obtain rfl := Except.ok.inj h
      exact ⟨rfl, rfl, .inl ⟨huplink, htable, rfl⟩⟩
    next => exact nomatch h
  next hnone =>
    obtain rfl := Except.ok.inj h
    exact ⟨rfl, rfl, .inr ⟨hnone, rfl, rfl, rfl⟩⟩

/-- A mark is on the traffic of a network and names a routed uplink and its table. -/
theorem SteeringPlan.of_mem_marks {s : Site} {f : Failover} {p : SteeringPlan}
    (h : plan s f = .ok p) {m : Mark} (hm : m ∈ p.marks) :
    ∃ n ∈ s.networks, ∃ r ∈ f.uplinks, (m.network = n.id ∧ m.interface = n.name) ∧
      m.uplink = r.uplink ∧ m.table = r.table := by
  rcases marks_cases h with ⟨-, hnone⟩ | ⟨fallback, rest, hf, -, -, hmarks⟩
  · rw [hnone] at hm
    exact absurd hm List.not_mem_nil
  obtain ⟨n, hn, hmark⟩ := (hmarks m).mp hm
  obtain ⟨hid, hname, ⟨-, htable, -⟩ | ⟨-, huplink, htable, -⟩⟩ := markOf_cases hmark
  · obtain ⟨r, hr, htable⟩ := Option.map_eq_some_iff.mp htable
    have huplink := List.find?_some hr
    exact ⟨n, hn, r, List.mem_of_find?_eq_some hr, ⟨hid, hname⟩, (eq_of_beq huplink).symm,
      htable.symm⟩
  · refine ⟨n, hn, fallback, ?_, ⟨hid, hname⟩, huplink, htable⟩
    rw [hf]
    exact List.mem_cons_self ..

/-! ## Compilation -/

/-- What the sections of a script rely on. -/
structure Blueprint.IsSound (b : Blueprint) : Prop where
  joined_ports : ∀ p ∈ b.plan.vlans.ports, ∃ q ∈ b.site.ports, q.name = p.port
  tagged_members : ∀ m ∈ b.plan.vlans.vlans, ∃ members,
    m.tagged = b.plan.vlans.bridge :: members ∧ members ⊆ b.plan.vlans.ports.map (·.port)
  uplink_ports : ∀ u ∈ b.site.uplinks, ∃ p ∈ b.site.ports, p.name = u.interface
  failover_isFor : b.plan.failover.IsFor b.site.uplinks b.profile.probes
  marked : ∀ m ∈ b.plan.steering.marks, ∃ n ∈ b.site.networks,
    ∃ r ∈ b.plan.failover.uplinks, m.interface = n.name ∧ m.table = r.table
  networks_nodup : (b.site.networks.map (·.name)).Nodup

theorem isSound_of_build_eq_ok {s : Site} {profile : Profile} {strict : Bool}
    {overflow : Overflow} {p : Plan} {generatedAt : Timestamp} (hs : s.IsValid profile strict)
    (hp : Plan.build s profile overflow = .ok p) :
    (Blueprint.mk s profile p generatedAt).IsSound := by
  obtain ⟨hvlans, hfailover, hsteering⟩ := Plan.of_build_eq_ok hp
  obtain ⟨hbridge, hports, hmembers⟩ := VlanTable.of_plan_eq_ok hvlans
  refine ⟨?_, ?_, hs.uplink_ports, Failover.isFor_of_plan_eq_ok hfailover, ?_,
    hs.network_names_nodup⟩
  · intro q hq
    rw [hports] at hq
    obtain ⟨⟨port, a⟩, ha, rfl⟩ := List.mem_map.mp hq
    exact hs.assigned_ports port (List.mem_map.mpr ⟨_, (List.mem_filter.mp ha).1, rfl⟩)
  · intro m hm
    rw [hmembers] at hm
    obtain ⟨members, htagged, hsubset⟩ := Site.mem_memberships hm
    refine ⟨members, by rw [htagged, hbridge], ?_⟩
    rw [hports, List.map_map]
    exact hsubset
  · intro m hm
    obtain ⟨n, hn, r, hr, ⟨-, hname⟩, -, htable⟩ := SteeringPlan.of_mem_marks hsteering hm
    exact ⟨n, hn, r, hr, hname, htable⟩

theorem of_compile_eq_ok {s : Site} {profile : Profile} {options : CompileOptions}
    {out : Compiled} (h : compile s profile options = .ok out) :
    s.IsValid profile options.strict ∧ Plan.build s profile options.overflow = .ok out.plan ∧
      out.script = (Blueprint.mk s profile out.plan options.generatedAt).script ∧
      out.script.write = .ok out.text := by
  obtain ⟨⟨⟩, hcheck, h⟩ := bind_eq_ok.mp h
  obtain ⟨plan, hplan, h⟩ := bind_eq_ok.mp h
  obtain ⟨text, htext, h⟩ := bind_eq_ok.mp h
  obtain rfl := Except.ok.inj h
  rw [mapError_eq_ok] at hcheck hplan htext
  rw [Site.check_eq_ok_iff, Site.findings_eq_nil_iff] at hcheck
  exact ⟨hcheck, hplan, rfl, htext⟩

/-- What a compilation comes to behind the check and the planners. -/
theorem compile_eq_of_build {s : Site} {profile : Profile} (options : CompileOptions) {p : Plan}
    (hcheck : s.check profile options.strict = .ok ())
    (hplan : Plan.build s profile options.overflow = .ok p) :
    compile s profile options =
      ((Blueprint.mk s profile p options.generatedAt).script.write.mapError .script).map
        fun text => ⟨p, (Blueprint.mk s profile p options.generatedAt).script, text⟩ := by
  rw [compile, hcheck, hplan]
  rfl

/-- A site compiles when it is accepted, has a plan, and the console can take its script. -/
theorem exists_compile_of_isWritable {s : Site} {profile : Profile} {options : CompileOptions}
    {p : Plan} (hcheck : s.check profile options.strict = .ok ())
    (hplan : Plan.build s profile options.overflow = .ok p)
    (hscript : (Blueprint.mk s profile p options.generatedAt).script.IsWritable) :
    ∃ out, compile s profile options = .ok out := by
  obtain ⟨text, htext⟩ := Script.exists_write_iff.mpr hscript
  refine ⟨⟨p, (Blueprint.mk s profile p options.generatedAt).script, text⟩, ?_⟩
  rw [compile_eq_of_build options hcheck hplan, htext]
  rfl

/-- The same as two checks, so that evaluating them shows that a given site compiles. -/
theorem exists_compile_of_checks {s : Site} {profile : Profile} {options : CompileOptions}
    (hcheck : (s.findings profile options.strict).isEmpty = true)
    (hscript : (Plan.build s profile options.overflow).toOption.any (fun p => decide
      (Blueprint.mk s profile p options.generatedAt).script.IsWritable) = true) :
    ∃ out, compile s profile options = .ok out := by
  have haccepted := Site.check_eq_ok_iff.mpr (List.isEmpty_iff.mp hcheck)
  cases hplan : Plan.build s profile options.overflow with
  | error e =>
    rw [hplan] at hscript
    exact absurd hscript Bool.false_ne_true
  | ok p =>
    rw [hplan] at hscript
    exact exists_compile_of_isWritable haccepted hplan (of_decide_eq_true hscript)

/-! ## A sample -/

/-- A site with two routed uplinks and one that is configured by DHCP, a network with a hotspot and
one without services, and a trunk that carries both. -/
def Site.sample : Site where
  identity := "branch"
  management := ⟨"token", "https://example.net/beat", none⟩
  ports := [⟨"ether1", .ether, .wan⟩, ⟨"ether2", .ether, .wan⟩, ⟨"ether3", .ether, .wan⟩,
    ⟨"ether4", .ether, .lan⟩]
  uplinks := [
    ⟨"fibre", "ether1", .static (some ⟨⟨0x0a000002, by decide⟩, 30, by decide⟩)
      (some ⟨0x0a000001, by decide⟩)⟩,
    ⟨"cable", "ether2", .dhcp⟩,
    ⟨"dsl", "ether3", .pppoe (some "user") (some "secret")⟩]
  networks := [
    ⟨"guests", "vlan10", ⟨10, by decide⟩, ⟨⟨0xc0a80a01, by decide⟩, 24, by decide⟩, true, true⟩,
    ⟨"office", "vlan20", ⟨20, by decide⟩, ⟨⟨0xc0a81401, by decide⟩, 24, by decide⟩, false, false⟩]
  assignments := ⟨[("ether4", .trunk .default [⟨10, by decide⟩, ⟨20, by decide⟩])], by decide⟩
  steering := ⟨true, ⟨[("guests", "dsl")], by decide⟩⟩
  resolver := ⟨[.v4 ⟨0x09090909, by decide⟩], true⟩

/-- The options that the sample is compiled with. -/
def CompileOptions.sample : CompileOptions where
  generatedAt := ⟨2024, 2, 29, 12, 0, 0⟩

theorem exists_compile_sample : ∃ out, compile .sample .builtin .sample = .ok out :=
  exists_compile_of_checks (by decide +kernel) (by decide +kernel)

end SiteRouter

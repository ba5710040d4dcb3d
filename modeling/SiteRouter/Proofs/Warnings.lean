import SiteRouter.Proofs.Reports
import SiteRouter.Proofs.Tagging

/-!
# Warnings agree with the plan

The warnings of a report are found by looking at the site, while the plan is made by other passes
over it. On a site without errors the two agree (`Report.WarnsOf`): what a warning says is left out
is what the plan leaves out, no more and no less, so that a report with nothing to say means a plan
that uses everything (`Plan.UsesAll`).

A report runs through its warnings by code (`Site.warningParts`), so that the warnings of one code
are found in one part (`Site.withCode_report`). The rest compares each part with the plan.
-/

namespace SiteRouter

/-! ## Warnings -/

namespace Issue

/-- A port that nothing is said about. -/
def unassignedPort (name : String) : Issue :=
  ⟨.warning, "unassigned_lan_port",
    s!"LAN port '{name}' has no assignment and is left off the bridge"⟩

/-- A port that is used against its role. -/
def bridgedWanPort (name : String) : Issue :=
  ⟨.warning, "wan_role_port_bridged",
    s!"port '{name}' defaults to the WAN role but is assigned to the bridge"⟩

/-- An uplink that is brought up without routes. -/
def unroutedUplink (id : String) : Issue :=
  ⟨.warning, "unrouted_uplink", s!"uplink '{id}' is brought up but has no failover routes"⟩

/-- Steering without a choice between uplinks. -/
def inertSteering (routed : Nat) : Issue :=
  ⟨.warning, "policy_routing_inert",
    s!"policy routing is enabled but only {routed} uplink(s) are " ++
      "routed; no marks are emitted"⟩

/-- A network that no port carries. -/
def networkWithoutMembers (n : Network) : Issue :=
  ⟨.warning, "network_without_members",
    s!"network '{n.id}' (VLAN {n.vlan}) is not carried by any port"⟩

/-- A warning names its port. -/
theorem unassignedPort_injective : Function.Injective unassignedPort := by
  intro a b h
  have h := congrArg message h
  simpa [unassignedPort, toString, String.append_left_inj, String.append_right_inj] using h

/-- Texts with the same mark, which what follows it does not hold, are alike up to the mark. -/
theorem eq_of_append_mark {mark : Char} {a b c d : List Char}
    (h : a ++ mark :: c = b ++ mark :: d) (hc : mark ∉ c) (hd : mark ∉ d) : a = b := by
  rcases List.append_eq_append_iff.mp h with ⟨x, hx, hrest⟩ | ⟨x, hx, hrest⟩
  · cases x with
    | nil => rw [hx, List.append_nil]
    | cons y x =>
      obtain ⟨-, rfl⟩ := List.cons.inj hrest
      exact absurd (List.mem_append_right x (List.mem_cons_self ..)) hc
  · cases x with
    | nil => rw [hx, List.append_nil]
    | cons y x =>
      obtain ⟨-, rfl⟩ := List.cons.inj hrest
      exact absurd (List.mem_append_right x (List.mem_cons_self ..)) hd

/-- A warning names its network, whatever the id holds: nothing behind the id has a quote. -/
theorem id_eq_of_networkWithoutMembers_eq {m n : Network}
    (h : networkWithoutMembers m = networkWithoutMembers n) : m.id = n.id := by
  let behind := fun n : Network =>
    " (VLAN ".toList ++ (toString n.vlan.val).toList ++ ") is not carried by any port".toList
  have htext : ∀ n : Network, (networkWithoutMembers n).message.toList =
      "network '".toList ++ (n.id.toList ++ '\'' :: behind n) := by
    intro n
    simp [networkWithoutMembers, behind, toString]
  have hbehind : ∀ n : Network, '\'' ∉ behind n := by
    intro n
    have hnumber : '\'' ∉ (toString n.vlan.val).toList :=
      Text.not_mem_toString (by decide) n.vlan.val
    simp only [behind, List.mem_append, not_or]
    exact ⟨⟨by decide, hnumber⟩, by decide⟩
  have h := congrArg (fun i => i.message.toList) h
  simp only [htext] at h
  have hid := eq_of_append_mark (List.append_cancel_left h) (hbehind m) (hbehind n)
  exact String.toList_injective hid

end Issue

open Issue

namespace Site

variable {s : Site} {profile : Profile} {source : String} {strict : Bool} {overflow : Overflow}
  {plan : Plan}

/-- The warnings by their codes, in order. -/
def warningParts (s : Site) (profile : Profile) (plan : Plan) : List (String × List Issue) :=
  [("unrouted_uplink", plan.failover.skipped.map unroutedUplink),
    ("policy_routing_inert", if s.steering.enabled && !plan.steering.active then
      [inertSteering plan.failover.uplinks.length] else []),
    ("no_uplinks", s.uplinkIssues),
    ("unassigned_lan_port", s.idlePorts.map fun p => unassignedPort p.name),
    ("wan_role_port_bridged",
      (s.assignments.keys.filter fun name => (s.port? name).any (·.role == .wan)).map
        bridgedWanPort),
    ("network_without_members",
      (s.networks.filter fun n => !s.assignments.values.any (carries n.vlan)).map
        networkWithoutMembers),
    ("missing_admin_password", s.passwordIssues profile)]

theorem issues_report (hfindings : s.findings profile strict = [])
    (hplan : Plan.build s profile overflow = .ok plan) :
    (s.report profile source strict overflow).issues =
      (s.warningParts profile plan).flatMap Prod.snd := by
  simp only [report, structureIssues, hfindings, hplan, planIssues, portIssues, networkIssues,
    warningParts, List.flatMap_cons, List.flatMap_nil, List.append_assoc, List.append_nil]
  rfl

theorem code_of_mem_map {α : Type} {f : α → Issue} {xs : List α} {code : String}
    (h : ∀ x, (f x).code = code) : ∀ i ∈ xs.map f, i.code = code := by
  intro i hi
  obtain ⟨x, -, rfl⟩ := List.mem_map.mp hi
  exact h x

theorem code_of_mem_warningParts :
    ∀ part ∈ s.warningParts profile plan, ∀ i ∈ part.2, i.code = part.1 := by
  simp only [warningParts, List.forall_mem_cons]
  refine ⟨code_of_mem_map fun _ => rfl, ?_, ?_, code_of_mem_map fun _ => rfl,
    code_of_mem_map fun _ => rfl, code_of_mem_map fun _ => rfl, ?_, by simp⟩
  · split <;> simp [inertSteering]
  · unfold uplinkIssues
    split <;> simp
  · unfold passwordIssues
    split <;> simp

end Site

/-- The issues that have a code. -/
def Report.withCode (r : Report) (code : String) : List Issue := r.issues.filter (·.code == code)

/-- The issues with the code of a part are those of the part. -/
theorem Site.withCode_report {s : Site} {profile : Profile} {source : String} {strict : Bool}
    {overflow : Overflow} {plan : Plan} (hfindings : s.findings profile strict = [])
    (hplan : Plan.build s profile overflow = .ok plan) {part : String × List Issue}
    (hpart : part ∈ s.warningParts profile plan) :
    (s.report profile source strict overflow).withCode part.1 = part.2 := by
  have hcodes : ((s.warningParts profile plan).map Prod.fst).Nodup := by
    simp [warningParts]
  have hpartCode : ∀ part ∈ s.warningParts profile plan, ∀ i ∈ part.2, i.code = part.1 :=
    code_of_mem_warningParts
  rw [Report.withCode, issues_report hfindings hplan, List.filter_flatMap,
    flatMap_of_nodup hcodes hpart]
  · exact List.filter_eq_self.mpr fun i hi => beq_iff_eq.mpr (hpartCode part hpart i hi)
  · intro other hother hne
    refine List.filter_eq_nil_iff.mpr fun i hi hcode => hne ?_
    refine eq_of_mem_of_nodup hcodes hother hpart ?_
    rw [← hpartCode other hother i hi, eq_of_beq hcode]

/-! ## Ports and networks -/

namespace Site

variable {s : Site} {profile : Profile} {strict : Bool} {bridge : String} {t : VlanTable}
  {n : Network}

/-- A port carries a VLAN untagged or tagged. -/
theorem carries_iff {vlan : VlanId} {a : Assignment} :
    carries vlan a = true ↔ a.pvid = vlan ∨ a.tags vlan = true := by
  cases a with
  | access pvid => simp [carries, Assignment.pvid, Assignment.tags]
  | trunk native allowed =>
    simp only [carries, Assignment.pvid, Assignment.tags, Bool.or_eq_true, Bool.and_eq_true,
      beq_iff_eq, bne_iff_ne]
    constructor
    · intro h
      by_cases hnative : native = vlan
      · exact Or.inl hnative
      · exact Or.inr ⟨Ne.symm hnative, h.resolve_left hnative⟩
    · intro h
      exact h.imp_right And.right

namespace IsValid

/-- The report looks for ports that carry a network in the assignments; the plan says the same in
its ports and its table. -/
theorem not_carried_iff (hs : s.IsValid profile strict) (ht : VlanTable.plan s bridge = .ok t)
    (hbridge : ∀ p ∈ s.ports, p.name ≠ bridge) (hn : n ∈ s.networks) :
    s.assignments.values.any (carries n.vlan) = false ↔
      (∀ p ∈ t.ports, p.pvid ≠ n.vlan) ∧
        (t.membership? n.vlan).map (·.tagged) = some [bridge] := by
  have hports : (∀ p ∈ t.ports, p.pvid ≠ n.vlan) ↔
      ∀ x ∈ s.assignments.entries, x.2.pvid ≠ n.vlan := by
    rw [(VlanTable.of_plan_eq_ok ht).2.1, hs.bridged_eq, List.forall_mem_map]
  have htagged : (t.membership? n.vlan).map (·.tagged) = some [bridge] ↔
      ∀ x ∈ s.assignments.entries, x.2.tags n.vlan = false := by
    have hnames : ∀ x ∈ s.assignments.entries, x.1 ≠ bridge := by
      intro x hx
      obtain ⟨p, hp, hname⟩ := hs.assigned_ports x.1 (List.mem_map.mpr ⟨x, hx, rfl⟩)
      rw [← hname]
      exact hbridge p hp
    rw [hs.membership?_eq ht hn, Option.map_some, Option.some.injEq, List.cons.injEq,
      and_iff_right rfl, taggedPorts, hs.bridged_eq, List.map_eq_nil_iff, List.filter_eq_nil_iff]
    refine forall₂_congr fun x hx => ?_
    simp [hnames x hx]
  rw [hports, htagged, List.any_eq_false, Keyed.values, List.forall_mem_map]
  simp only [carries_iff, not_or, Bool.not_eq_true, forall_and]

end IsValid

end Site

/-! ## Agreement -/

/-- The warnings of the report are about what the plan leaves out. -/
structure Report.WarnsOf (r : Report) (s : Site) (bridge : String) (plan : Plan) : Prop where
  /-- Every port carries an uplink, or is a port of the bridge, or is named by one warning. -/
  ports : ∀ p ∈ s.ports,
    ((∃ u ∈ s.uplinks, u.interface = p.name) ∧ p.name ∉ plan.vlans.ports.map (·.port) ∧
      r.issues.count (.unassignedPort p.name) = 0) ∨
    ((∀ u ∈ s.uplinks, u.interface ≠ p.name) ∧ p.name ∈ plan.vlans.ports.map (·.port) ∧
      r.issues.count (.unassignedPort p.name) = 0) ∨
    ((∀ u ∈ s.uplinks, u.interface ≠ p.name) ∧ p.name ∉ plan.vlans.ports.map (·.port) ∧
      r.issues.count (.unassignedPort p.name) = 1)
  ports_named : ∀ i ∈ r.withCode "unassigned_lan_port", ∃ p ∈ s.ports, i = .unassignedPort p.name
  /-- The uplinks without an entry in the plan are named, once each. -/
  uplinks : (r.withCode "unrouted_uplink").Perm
    ((s.uplinks.filter fun u => decide (u.id ∉ plan.failover.uplinks.map (·.uplink))).map fun u =>
      .unroutedUplink u.id)
  networks : ∀ n ∈ s.networks, .networkWithoutMembers n ∈ r.issues ↔
    (∀ p ∈ plan.vlans.ports, p.pvid ≠ n.vlan) ∧
      (plan.vlans.membership? n.vlan).map (·.tagged) = some [bridge]
  networks_named : ∀ i ∈ r.withCode "network_without_members",
    ∃ n ∈ s.networks, i = .networkWithoutMembers n
  steering : r.withCode "policy_routing_inert" ≠ [] ↔
    s.steering.enabled = true ∧ plan.steering.active = false
  no_uplinks : r.withCode "no_uplinks" ≠ [] ↔ s.uplinks = []

/-- The plan leaves nothing out: every port without an uplink is bridged, every uplink is routed,
every network is carried by a port, and there is a default route. -/
structure Plan.UsesAll (plan : Plan) (s : Site) : Prop where
  ports : ∀ p ∈ s.ports, (∀ u ∈ s.uplinks, u.interface ≠ p.name) →
    p.name ∈ plan.vlans.ports.map (·.port)
  uplinks : ∀ u ∈ s.uplinks, u.id ∈ plan.failover.uplinks.map (·.uplink)
  networks : ∀ n ∈ s.networks, ∃ p ∈ plan.vlans.ports, p.pvid = n.vlan ∨
    ∃ m ∈ plan.vlans.vlans, m.vlan = n.vlan ∧ p.port ∈ m.tagged
  defaultRoute : ∃ r ∈ plan.failover.routes, r.destination = .everything ∧ r.table = none

section Reports

variable {s : Site} {profile : Profile} {source : String} {strict : Bool} {overflow : Overflow}
  {plan : Plan}

/-- Warnings about distinct names come once each. -/
theorem count_map_of_nodup {f : String → Issue} (hf : Function.Injective f) {names : List String}
    (hnames : names.Nodup) (name : String) :
    (names.map f).count (f name) = if name ∈ names then 1 else 0 := by
  have hcount : (names.map f).count (f name) = names.count name := by
    rw [List.count_eq_countP, List.countP_map, List.count_eq_countP]
    refine List.countP_congr fun x _ => ?_
    simp only [Function.comp, beq_iff_eq, hf.eq_iff]
  rw [hcount, hnames.count]

/-- A port is idle if it has neither an uplink nor an assignment. -/
theorem Site.IsValid.mem_idlePorts_iff (hs : s.IsValid profile strict) {p : Port}
    (hp : p ∈ s.ports) :
    p.name ∈ s.idlePorts.map (·.name) ↔
      (∀ u ∈ s.uplinks, u.interface ≠ p.name) ∧ p.name ∉ s.assignments.keys := by
  have hidle : p ∈ s.idlePorts ↔
      (∀ u ∈ s.uplinks, u.interface ≠ p.name) ∧ p.name ∉ s.assignments.keys := by
    rw [idlePorts, lanPorts, List.mem_filter, List.mem_filter, Bool.not_eq_true', carriesUplink,
      any_eq_false_iff, Bool.not_eq_true', Keyed.contains]
    simp [hp]
  rw [← hidle, List.mem_map]
  constructor
  · rintro ⟨q, hq, hname⟩
    have hqPort : q ∈ s.ports := (List.mem_filter.mp (List.mem_filter.mp hq).1).1
    obtain rfl := eq_of_mem_of_nodup hs.ports_nodup hqPort hp hname
    exact hq
  · intro hmem
    exact ⟨p, hmem, rfl⟩

/-- A port is warned of at most once. -/
theorem Site.IsValid.count_unassignedPort (hs : s.IsValid profile strict) {r : Report}
    (hr : r.withCode "unassigned_lan_port" = s.idlePorts.map fun p => unassignedPort p.name)
    {p : Port} (hp : p ∈ s.ports) : r.issues.count (unassignedPort p.name) =
      if (∀ u ∈ s.uplinks, u.interface ≠ p.name) ∧ p.name ∉ s.assignments.keys then 1 else 0 := by
  have hnames : (s.idlePorts.map (·.name)).Nodup :=
    hs.ports_nodup.sublist ((List.filter_sublist.trans List.filter_sublist).map _)
  have hcount : r.issues.count (unassignedPort p.name) =
      (r.withCode "unassigned_lan_port").count (unassignedPort p.name) :=
    (List.count_filter rfl).symm
  have honce := count_map_of_nodup unassignedPort_injective hnames p.name
  rw [List.map_map, Function.comp_def] at honce
  rw [hcount, hr, honce]
  simp only [hs.mem_idlePorts_iff hp]

/-- On a valid site each part of the report tells what one part of the plan leaves out. -/
theorem Site.warnsOf_report (hs : s.IsValid profile strict)
    (hplan : Plan.build s profile overflow = .ok plan)
    (hbridge : ∀ p ∈ s.ports, p.name ≠ profile.bridgeName) :
    (s.report profile source strict overflow).WarnsOf s profile.bridgeName plan := by
  obtain ⟨ht, hf, -⟩ := Plan.of_build_eq_ok hplan
  have hfindings := findings_eq_nil_iff.mpr hs
  have hpart : ∀ part ∈ s.warningParts profile plan,
      (s.report profile source strict overflow).withCode part.1 = part.2 :=
    fun part h => withCode_report hfindings hplan h
  generalize s.report profile source strict overflow = r at hpart ⊢
  simp only [warningParts, List.forall_mem_cons] at hpart
  obtain ⟨hunrouted, hinert, hnone, hunassigned, -, hempty, -⟩ := hpart
  refine ⟨?_, ?_, ?_, ?_, ?_, ?_, ?_⟩
  · intro p hp
    rw [hs.count_unassignedPort hunassigned hp, hs.mem_ports_iff ht]
    by_cases huplink : ∃ u ∈ s.uplinks, u.interface = p.name
    · obtain ⟨u, hu, hname⟩ := huplink
      have hunassigned := hs.uplink_ports_unassigned u hu
      rw [hname] at hunassigned
      exact Or.inl ⟨⟨u, hu, hname⟩, hunassigned, if_neg fun h => h.1 u hu hname⟩
    · have hfree : ∀ u ∈ s.uplinks, u.interface ≠ p.name :=
        fun u hu hname => huplink ⟨u, hu, hname⟩
      by_cases hassigned : p.name ∈ s.assignments.keys
      · exact Or.inr (Or.inl ⟨hfree, hassigned, if_neg fun h => h.2 hassigned⟩)
      · exact Or.inr (Or.inr ⟨hfree, hassigned, if_pos ⟨hfree, hassigned⟩⟩)
  · intro i hi
    rw [hunassigned] at hi
    obtain ⟨p, hp, rfl⟩ := List.mem_map.mp hi
    exact ⟨p, (List.mem_filter.mp (List.mem_filter.mp hp).1).1, rfl⟩
  · have hskipped := (Failover.skipped_perm hf hs.uplinks_nodup).map unroutedUplink
    rw [List.map_map] at hskipped
    rw [hunrouted]
    exact hskipped
  · intro n hn
    have hwithCode : networkWithoutMembers n ∈ r.issues ↔
        networkWithoutMembers n ∈ r.withCode "network_without_members" := by
      simp [Report.withCode, networkWithoutMembers]
    rw [← hs.not_carried_iff ht hbridge hn, hwithCode, hempty, List.mem_map]
    constructor
    · rintro ⟨m, hm, hissue⟩
      obtain ⟨hm, hcarried⟩ := List.mem_filter.mp hm
      obtain rfl := eq_of_mem_of_nodup hs.networks_nodup hm hn
        (id_eq_of_networkWithoutMembers_eq hissue)
      exact Bool.not_eq_true' _ ▸ hcarried
    · intro hcarried
      exact ⟨n, List.mem_filter.mpr ⟨hn, by rw [hcarried]; rfl⟩, rfl⟩
  · intro i hi
    rw [hempty] at hi
    obtain ⟨n, hn, rfl⟩ := List.mem_map.mp hi
    exact ⟨n, (List.mem_filter.mp hn).1, rfl⟩
  · have hinertWhen : (s.steering.enabled && !plan.steering.active) = true ↔
        s.steering.enabled = true ∧ plan.steering.active = false := by
      rw [Bool.and_eq_true, Bool.not_eq_true']
    rw [hinert, ← hinertWhen]
    split
    next h => exact iff_of_true (List.cons_ne_nil _ _) h
    next h => exact iff_of_false (fun hne => hne rfl) h
  · rw [hnone, uplinkIssues]
    cases s.uplinks <;> simp

/-- Nothing is left out where there is nothing to warn of. -/
theorem Report.WarnsOf.usesAll {r : Report} {bridge : String}
    (hr : r.WarnsOf s bridge plan) (hs : s.IsValid profile strict)
    (ht : VlanTable.plan s bridge = .ok plan.vlans)
    (hf : plan.failover.IsFor s.uplinks profile.probes) (hissues : r.issues = []) :
    plan.UsesAll s := by
  have hrouted : ∀ u ∈ s.uplinks, u.id ∈ plan.failover.uplinks.map (·.uplink) := by
    have hnone := hr.uplinks
    rw [Report.withCode, hissues, List.filter_nil, List.nil_perm, List.map_eq_nil_iff,
      List.filter_eq_nil_iff] at hnone
    intro u hu
    simpa using hnone u hu
  refine ⟨fun p hp hfree => ?_, hrouted, fun n hn => ?_, ?_⟩
  · rcases hr.ports p hp with ⟨⟨u, hu, hname⟩, -⟩ | ⟨-, hbridged, -⟩ | ⟨-, -, hone⟩
    · exact absurd hname (hfree u hu)
    · exact hbridged
    · rw [hissues] at hone
      exact nomatch hone
  · by_cases huntagged : ∃ p ∈ plan.vlans.ports, p.pvid = n.vlan
    · obtain ⟨p, hp, hpvid⟩ := huntagged
      exact ⟨p, hp, Or.inl hpvid⟩
    · have hentry := hs.membership?_eq ht hn
      have htagged : s.taggedPorts bridge n.vlan ≠ [] := by
        intro hnone
        have hwarned := (hr.networks n hn).mpr
          ⟨fun p hp hpvid => huntagged ⟨p, hp, hpvid⟩, by rw [hentry, hnone]; rfl⟩
        rw [hissues] at hwarned
        exact absurd hwarned List.not_mem_nil
      obtain ⟨port, hport⟩ := List.exists_mem_of_ne_nil _ htagged
      have hassigned := Site.areTagged_taggedPorts.1.subset hport
      obtain ⟨p, hp, rfl⟩ := List.mem_map.mp ((hs.mem_ports_iff ht).mpr hassigned)
      obtain ⟨hm, -⟩ := of_find?_eq_some hentry
      exact ⟨p, hp, Or.inr ⟨_, hm, rfl, List.mem_cons_of_mem _ hport⟩⟩
  · have huplinks : s.uplinks ≠ [] := by
      intro hnone
      have hwarned := hr.no_uplinks.mpr hnone
      rw [Report.withCode, hissues] at hwarned
      exact hwarned rfl
    obtain ⟨u, hu⟩ := List.exists_mem_of_ne_nil _ huplinks
    obtain ⟨q, hq, -⟩ := List.mem_map.mp (hrouted u hu)
    have hdefault := (hf.routes_isFor q hq).mainDefault_eq
    refine ⟨q.mainDefault, List.mem_flatMap.mpr ⟨q, hq, by simp [UplinkRoutes.routes]⟩, ?_, ?_⟩
    · rw [hdefault]
    · rw [hdefault]

/-- **The warnings of a report agree with the plan.** On a site without errors, every port carries
an uplink or is bridged or is warned of once; the uplinks without routes are warned of, once each;
and so are the networks that only the bridge carries, and steering that has no effect. A report
without any issue therefore means a plan that leaves nothing out. -/
theorem Site.warnings_agree (h : (s.report profile source strict overflow).errors = 0)
    (hbridge : ∀ p ∈ s.ports, p.name ≠ profile.bridgeName) :
    ∃ plan, Plan.build s profile overflow = .ok plan ∧
      (s.report profile source strict overflow).WarnsOf s profile.bridgeName plan ∧
      ((s.report profile source strict overflow).issues = [] → plan.UsesAll s) := by
  obtain ⟨hfindings, plan, hplan⟩ := errors_eq_zero_iff.mp h
  have hs := findings_eq_nil_iff.mp hfindings
  obtain ⟨ht, hf, -⟩ := Plan.of_build_eq_ok hplan
  have hwarns : (s.report profile source strict overflow).WarnsOf s profile.bridgeName plan :=
    warnsOf_report hs hplan hbridge
  exact ⟨plan, hplan, hwarns, fun hissues =>
    hwarns.usesAll hs ht (Failover.isFor_of_plan_eq_ok hf) hissues⟩

/-- The report of the sample warns of the uplink that is configured by DHCP and of an account
without a password. Without these, and without the port of the uplink, it has no issue. -/
theorem warnings_agree_of_sample :
    let complete : Site := { Site.sample with
      management.adminPassword := some "secret"
      ports := Site.sample.ports.eraseIdx 1
      uplinks := Site.sample.uplinks.eraseIdx 1 }
    (∃ plan, Plan.build .sample .builtin .reject = .ok plan ∧
      let report := Site.sample.report .builtin "built-in" false .reject
      report.WarnsOf .sample "bridge-lan" plan ∧
        report.issues.map (·.code) = ["unrouted_uplink", "missing_admin_password"]) ∧
    ∃ plan, Plan.build complete .builtin .reject = .ok plan ∧
      (complete.report .builtin "built-in" false .reject).WarnsOf complete "bridge-lan" plan ∧
      plan.UsesAll complete := by
  intro complete
  have hsample : (Site.sample.report .builtin "built-in" false .reject).errors = 0 := by
    decide +kernel
  have hcomplete : (complete.report .builtin "built-in" false .reject).errors = 0 := by
    decide +kernel
  obtain ⟨plan, hplan, hwarns, -⟩ := Site.sample.warnings_agree hsample (by decide)
  obtain ⟨plan', hplan', hwarns', huses⟩ := complete.warnings_agree hcomplete (by decide)
  exact ⟨⟨plan, hplan, hwarns, by decide +kernel⟩, plan', hplan', hwarns',
    huses (by decide +kernel)⟩

end Reports

end SiteRouter

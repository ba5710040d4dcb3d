import SiteRouter.Proofs.Compilation
import SiteRouter.Proofs.Packets
import SiteRouter.Proofs.RoutedUplinks

/-!
# Where traffic is steered

Every packet that enters from a network and leaves for the outside is marked for the table of one
uplink: the one its network is mapped to, or the first that is routed (`Site.SteersTo`). Traffic to
the router's own networks is never marked. `compile_steers` says so of the rules of a compiled
script, for every packet.

The rules say it in three steps. What they do to a packet is to find the first mark for its
interface, unless it stays inside (`Blueprint.routingMark_script`). The marks of a plan are those of
its networks, and networks have different names (`SteeringPlan.find?_marks`). What a mark names is
the table of the uplink (`SteeringPlan.markOf_table_iff`).
-/

namespace SiteRouter

open Script

/-- The traffic of the network leaves through the uplink at the index. -/
inductive Site.SteersTo (s : Site) (probes : List Ipv4) (n : Network) (k : Nat) : Prop where
  | mapped (u : Uplink) (mapping : (n.id, u.id) ∈ s.steering.mapping.entries)
      (placed : s.uplinks[k]? = some u)
  | unmapped (u : Uplink) (mapping : ∀ id, (n.id, id) ∉ s.steering.mapping.entries)
      (routed : IsRouted s.uplinks probes k u)
      (first : ∀ j v, j < k → ¬IsRouted s.uplinks probes j v)

/-! ## Rules -/

/-- Accepts what comes from a list and goes to it. -/
def bypassRule (list : String) : Command :=
  ((prerouting.arg "src-address-list" list).arg "dst-address-list" list).does "accept"
    "local bypass"

section Rules

variable {holds : String → Ipv4 → Bool} {meets : String → String → Bool} {list : String}
  {p : Packet}

theorem applies_bypassRule (hlist : list.toList.head? ≠ some '!') :
    (bypassRule list).applies (p.meets holds) =
      (holds list p.source && holds list p.destination) := by
  simp [bypassRule, prerouting, Command.applies, Packet.meets, ruleSettings,
    Ipv4.meets_of_plain hlist]

theorem Mark.applies_command (m : Mark) : (m.command list).applies (p.meets holds) =
    (m.interface == p.inInterface && !holds list p.destination) := by
  simp [Mark.command, prerouting, Command.applies, Packet.meets, ruleSettings,
    ← Ipv4.meets_negated]

/-- Of rules for marks the first that applies gives the mark. -/
theorem markFrom_marks (marks : List Mark) :
    markFrom meets none (marks.map (·.command list)) =
      (marks.find? fun m => (m.command list).applies meets).map (·.table) := by
  induction marks with
  | nil => rfl
  | cons m marks ih =>
    have haccept : (m.command list).has "action" "accept" = false := by
      simp [Mark.command, prerouting, Command.has, Command.get?]
    have hmark : (m.command list).has "action" "mark-routing" = true := by
      simp [Mark.command, prerouting, Command.has, Command.get?]
    have hstop : (m.command list).has "passthrough" "no" = true := by
      simp [Mark.command, prerouting, Command.has, Command.get?]
    have htable : (m.command list).get? "new-routing-mark" = some m.table := by
      simp [Mark.command, prerouting, Command.get?]
    rw [List.map_cons, markFrom, List.find?_cons, ih]
    cases (m.command list).applies meets <;> simp [haccept, hmark, hstop, htable]

end Rules

/-- The rules that mark traffic are those of one chain. -/
theorem Blueprint.chain_prerouting (b : Blueprint) :
    b.script.chain "/ip firewall mangle" "prerouting" = b.markRules := by
  refine chain_eq commandsAt_mangle (List.forall_mem_cons.mpr ⟨?_, List.forall_mem_map.mpr ?_⟩)
  · simp [prerouting, Command.adds, Command.has, Command.get?]
  · intro m _
    simp [Mark.command, prerouting, Command.adds, Command.has, Command.get?]

/-- Traffic to the local networks is not marked, and other traffic as the first mark for its
interface says. -/
theorem Blueprint.routingMark_script {b : Blueprint}
    (hlist : b.profile.localList.toList.head? ≠ some '!') (p : Packet) :
    b.script.routingMark p =
      if b.script.holds b.profile.localList p.destination then none
      else (b.plan.steering.marks.find? (·.interface == p.inInterface)).map (·.table) := by
  have hrules : b.markRules = bypassRule b.profile.localList ::
      b.plan.steering.marks.map (·.command b.profile.localList) := rfl
  have haccept : (bypassRule b.profile.localList).has "action" "accept" = true := by
    simp [bypassRule, prerouting, Command.has, Command.get?]
  rw [routingMark, chain_prerouting, hrules, markFrom, applies_bypassRule hlist, markFrom_marks]
  simp only [haccept, Mark.applies_command]
  cases b.script.holds b.profile.localList p.destination with
  | false => simp
  | true => simp

/-! ## Marks -/

section Marks

variable {s : Site} {profile : Profile} {strict : Bool} {probes : List Ipv4} {f : Failover}

/-- Traffic leaves a network through one uplink. -/
theorem Site.IsValid.steersTo_unique (hs : s.IsValid profile strict) {n : Network} {j k : Nat}
    (hj : s.SteersTo probes n j) (hk : s.SteersTo probes n k) : j = k := by
  rcases hj with ⟨u, hmapping, hu⟩ | ⟨u, hunmapped, hu, hfirst⟩
  · rcases hk with ⟨v, hmapping', hv⟩ | ⟨v, hunmapped, -, -⟩
    · have hid : u.id = v.id := Option.some.inj
        ((Keyed.get?_eq_some_iff.mpr hmapping).symm.trans (Keyed.get?_eq_some_iff.mpr hmapping'))
      exact eq_of_getElem?_of_nodup hs.uplinks_nodup hu hv hid
    · exact absurd hmapping (hunmapped u.id)
  · rcases hk with ⟨v, hmapping', -⟩ | ⟨v, -, hv, hfirst'⟩
    · exact absurd hmapping' (hunmapped v.id)
    · rcases Nat.lt_trichotomy j k with hlt | heq | hgt
      · exact absurd hu (hfirst' j u hlt)
      · exact heq
      · exact absurd hv (hfirst k v hgt)

/-- The mark of a network is for its interface and names the table of its uplink. -/
theorem Site.IsValid.of_markOf_eq_ok (hs : s.IsValid profile strict) (hf : f.IsFor s.uplinks probes)
    {fallback : UplinkRoutes} {rest : List UplinkRoutes} (hhead : f.uplinks = fallback :: rest)
    {n : Network} {m : Mark} (h : SteeringPlan.markOf s f fallback n = .ok m) :
    m.interface = n.name ∧ ∃ k, s.SteersTo probes n k ∧ m.table = s!"to-wan{k + 1}" := by
  obtain ⟨-, hname, ⟨hid, htable, -⟩ | ⟨hnone, -, htable, -⟩⟩ := SteeringPlan.markOf_cases h
  · obtain ⟨k, u, hu, huplink, htable⟩ := (hf.table?_eq_some_iff hs.uplinks_nodup).mp htable
    rw [← huplink] at hid
    exact ⟨hname, k, .mapped u (Keyed.get?_eq_some_iff.mp hid) hu.1, htable⟩
  · obtain ⟨k, u, hu, hfirst, -, hfallback⟩ := hf.isFirst_head hhead
    refine ⟨hname, k, .unmapped u (fun id hid => ?_) hu hfirst, htable.trans hfallback⟩
    rw [Keyed.get?_eq_some_iff.mpr hid] at hnone
    exact nomatch hnone

/-- Where there is a choice, every network is steered to an uplink. -/
theorem Site.IsValid.exists_steersTo (hs : s.IsValid profile strict) (hf : f.IsFor s.uplinks probes)
    {p : SteeringPlan} (h : SteeringPlan.plan s f = .ok p) (henabled : s.steering.enabled = true)
    (hcount : 2 ≤ routedCount s.uplinks probes) {n : Network} (hn : n ∈ s.networks) :
    ∃ k, s.SteersTo probes n k := by
  rw [← hf.length_uplinks] at hcount
  rcases SteeringPlan.marks_cases h with ⟨hchoice, -⟩ | ⟨fallback, rest, hhead, -, hmarks, -⟩
  · exact absurd ⟨henabled, hcount⟩ hchoice
  · obtain ⟨m, hm⟩ := hmarks n hn
    obtain ⟨-, k, hk, -⟩ := hs.of_markOf_eq_ok hf hhead hm
    exact ⟨k, hk⟩

/-- The first mark for an interface names the table of the uplink to which the network of the
interface is steered. -/
theorem Site.IsValid.firstMark_iff (hs : s.IsValid profile strict) (hf : f.IsFor s.uplinks probes)
    {p : SteeringPlan} (h : SteeringPlan.plan s f = .ok p) {interface table : String} :
    (p.marks.find? (·.interface == interface)).map (·.table) = some table ↔
      s.steering.enabled = true ∧ 2 ≤ routedCount s.uplinks probes ∧
        ∃ n ∈ s.networks, interface = n.name ∧
          ∃ k, s.SteersTo probes n k ∧ table = s!"to-wan{k + 1}" := by
  rw [← hf.length_uplinks]
  rcases SteeringPlan.marks_cases h with ⟨hchoice, hnone⟩ |
    ⟨fallback, rest, hhead, hchoice, hall, hmarks⟩
  · rw [hnone]
    exact iff_of_false nofun fun hsteered => hchoice ⟨hsteered.1, hsteered.2.1⟩
  rw [and_iff_right hchoice.1, and_iff_right hchoice.2, Option.map_eq_some_iff]
  constructor
  · rintro ⟨m, hfound, rfl⟩
    obtain ⟨hmem, hinterface⟩ := of_find?_eq_some hfound
    obtain ⟨n, hn, hm⟩ := (hmarks m).mp hmem
    obtain ⟨hname, k, hk, htable⟩ := hs.of_markOf_eq_ok hf hhead hm
    exact ⟨n, hn, hinterface.symm.trans hname, k, hk, htable⟩
  · rintro ⟨n, hn, rfl, k, hk, rfl⟩
    -- Some mark is found, since the network has one; it is its own, since no other has its name.
    obtain ⟨m, hm⟩ := hall n hn
    have hown := (hs.of_markOf_eq_ok hf hhead hm).1
    rw [← hown]
    obtain ⟨m', hfound⟩ := exists_find?_eq_some (f := Mark.interface) ((hmarks m).mpr ⟨n, hn, hm⟩)
    obtain ⟨hmem, hinterface⟩ := of_find?_eq_some hfound
    obtain ⟨n', hn', hm'⟩ := (hmarks m').mp hmem
    obtain ⟨hname, j, hj, htable⟩ := hs.of_markOf_eq_ok hf hhead hm'
    obtain rfl : n' = n := eq_of_mem_of_nodup hs.network_names_nodup hn' hn
      (hname.symm.trans (hinterface.trans hown))
    obtain rfl : j = k := hs.steersTo_unique hj hk
    exact ⟨m', hfound, htable⟩

end Marks

/-! ## Compiled scripts -/

/-- **The rules of a compiled script steer traffic as the site says.** What enters from a network
and goes to none is marked for the uplink that the network is steered to, and nothing else is
marked; in particular nothing that stays between the networks is. -/
theorem compile_steers {s : Site} {profile : Profile} {options : CompileOptions} {out : Compiled}
    (h : compile s profile options = .ok out)
    (hlists : profile.managementList ≠ profile.localList)
    (hlocal : profile.localList.toList.head? ≠ some '!') (p : Packet) :
    (∀ mark, out.script.routingMark p = some mark ↔
      s.steering.enabled = true ∧ 2 ≤ routedCount s.uplinks profile.probes ∧
        (∀ n ∈ s.networks, p.destination ∉ n.subnet) ∧
        ∃ n ∈ s.networks, p.inInterface = n.name ∧
          ∃ k, s.SteersTo profile.probes n k ∧ mark = s!"to-wan{k + 1}") ∧
      ((∃ mark, out.script.routingMark p = some mark) ↔
        s.steering.enabled = true ∧ 2 ≤ routedCount s.uplinks profile.probes ∧
          (∀ n ∈ s.networks, p.destination ∉ n.subnet) ∧
          ∃ n ∈ s.networks, p.inInterface = n.name) ∧
      ∀ n ∈ s.networks, p.destination ∈ n.subnet → out.script.routingMark p = none := by
  obtain ⟨hs, hplan, hscript, -⟩ := of_compile_eq_ok h
  obtain ⟨-, hfailover, hsteering⟩ := Plan.of_build_eq_ok hplan
  have hf := Failover.isFor_of_plan_eq_ok hfailover
  have hmark : ∀ mark, out.script.routingMark p = some mark ↔
      s.steering.enabled = true ∧ 2 ≤ routedCount s.uplinks profile.probes ∧
        (∀ n ∈ s.networks, p.destination ∉ n.subnet) ∧
        ∃ n ∈ s.networks, p.inInterface = n.name ∧
          ∃ k, s.SteersTo profile.probes n k ∧ mark = s!"to-wan{k + 1}" := by
    intro mark
    let b : Blueprint := .mk s profile out.plan options.generatedAt
    have hinside : b.script.holds profile.localList p.destination = true ↔
        ∃ n ∈ s.networks, p.destination ∈ n.subnet := b.holds_localList_iff hlists
    have hrules := b.routingMark_script hlocal p
    rw [hscript, hrules]
    by_cases hholds : b.script.holds profile.localList p.destination = true
    · obtain ⟨n, hn, hdestination⟩ := hinside.mp hholds
      rw [if_pos hholds]
      exact iff_of_false nofun fun hsteered => hsteered.2.2.1 n hn hdestination
    · have houtside : ∀ n ∈ s.networks, p.destination ∉ n.subnet :=
        fun n hn hdestination => hholds (hinside.mpr ⟨n, hn, hdestination⟩)
      rw [if_neg hholds, hs.firstMark_iff hf hsteering, and_iff_right houtside]
  refine ⟨hmark, ⟨?_, ?_⟩, ?_⟩
  · rintro ⟨mark, hmarked⟩
    obtain ⟨henabled, hcount, houtside, n, hn, hname, -⟩ := (hmark mark).mp hmarked
    exact ⟨henabled, hcount, houtside, n, hn, hname⟩
  · rintro ⟨henabled, hcount, houtside, n, hn, hname⟩
    obtain ⟨k, hk⟩ := hs.exists_steersTo hf hsteering henabled hcount hn
    exact ⟨_, (hmark _).mpr ⟨henabled, hcount, houtside, n, hn, hname, k, hk, rfl⟩⟩
  · intro n hn hdestination
    refine Option.eq_none_iff_forall_ne_some.mpr fun mark hmarked => ?_
    exact ((hmark mark).mp hmarked).2.2.1 n hn hdestination

/-- The guests of the sample are steered to the uplink they are mapped to, the office to the first
one that is routed. -/
theorem compile_steers_of_sample :
    let address : Ipv4 := ⟨0x08080808, by decide⟩
    ∃ out, compile .sample .builtin .sample = .ok out ∧
      out.script.routingMark ⟨⟨0xc0a80a05, by decide⟩, address, "vlan10"⟩ = some "to-wan3" ∧
      out.script.routingMark ⟨⟨0xc0a81405, by decide⟩, address, "vlan20"⟩ = some "to-wan1" := by
  intro address
  obtain ⟨out, h⟩ := exists_compile_sample
  have hcount : 2 ≤ routedCount Site.sample.uplinks Profile.builtin.probes := by decide
  have houtside : ∀ n ∈ Site.sample.networks, address ∉ n.subnet := by
    simp only [Network.subnet, Cidr.mem_def]
    decide
  have hfirst : Site.sample.SteersTo Profile.builtin.probes Site.sample.networks[1] 0 :=
    .unmapped Site.sample.uplinks[0] (by simp [Site.sample]) ⟨rfl, by decide, by decide⟩
      fun j _ hj => absurd hj (Nat.not_lt_zero j)
  refine ⟨out, h, ?_, ?_⟩
  · refine ((compile_steers h (by decide) (by decide) _).1 _).mpr ⟨rfl, hcount, houtside, ?_⟩
    exact ⟨Site.sample.networks[0], List.getElem_mem _, rfl, 2,
      .mapped Site.sample.uplinks[2] (by decide) rfl, rfl⟩
  · refine ((compile_steers h (by decide) (by decide) _).1 _).mpr ⟨rfl, hcount, houtside, ?_⟩
    exact ⟨Site.sample.networks[1], List.getElem_mem _, rfl, 0, hfirst, rfl⟩

end SiteRouter

import SiteRouter.Proofs.Compilation
import SiteRouter.Proofs.RoutedUplinks

/-!
# How planning fails

A site that has passed its check can still be without a plan, and then for one reason of four:
a trunk whose native VLAN nobody has, more uplinks than probes, an uplink that lacks what its kind
needs, or a network that is steered to an uplink without routes. `Site.PlanFails` puts the four in
their order and says which item of the site the failure is about.

The planner looks for the first reason in three passes of its own. One lemma for each pass gives
its failures, and `build_fails_exactly` puts them together: on a valid site planning fails in these
ways and in no other, and where none of them applies there is a plan.
-/

namespace SiteRouter

/-! ## What is missing -/

/-- What the uplink lacks to be routed. -/
inductive Uplink.Lacks (u : Uplink) : PlanError → Prop where
  | address (gateway : Option Ipv4) (kind : u.kind = .static none gateway) :
      u.Lacks (.missingAddress u.id)
  | gateway (address : Cidr) (kind : u.kind = .static (some address) none) :
      u.Lacks (.missingGateway u.id)
  | username (username password : Option String) (kind : u.kind = .pppoe username password)
      (blank : ∀ name ∈ username, ¬IsFilled name) : u.Lacks (.missingUsername u.id)

namespace Site

/-- The assignment is a trunk whose native VLAN is neither the default one nor that of a network. -/
inductive LacksNative (s : Site) : String × Assignment → PlanError → Prop where
  | trunk (port : String) (native : VlanId) (allowed : List VlanId) (not_default : native.val ≠ 1)
      (no_network : ∀ n ∈ s.networks, n.vlan ≠ native) :
      s.LacksNative (port, .trunk native allowed) (.unknownNativeVlan port native)

/-- The network is mapped to an uplink that is configured by DHCP, or for which there is no probe
left. -/
inductive LacksRoute (s : Site) (probes : List Ipv4) (n : Network) : PlanError → Prop where
  | mapped (k : Nat) (u : Uplink) (mapping : (n.id, u.id) ∈ s.steering.mapping.entries)
      (placed : s.uplinks[k]? = some u)
      (unrouted : u.kind = .dhcp ∨ min s.uplinks.length probes.length ≤ k) :
      s.LacksRoute probes n (.policyTargetUnrouted n.id u.id)

/-- There are more uplinks than probes, and that is refused. -/
def IsCrowded (s : Site) (probes : List Ipv4) (overflow : Overflow) : Prop :=
  probes.length < s.uplinks.length ∧ overflow = .reject

/-- How planning fails. A reason counts only where none of those before it applies, and of several
items with the same reason the first counts. -/
inductive PlanFails (s : Site) (profile : Profile) (overflow : Overflow) : PlanError → Prop where
  | native {e : PlanError} (first : FirstAnswer s.LacksNative s.assignments.entries e) :
      s.PlanFails profile overflow e
  | crowded (natives : ∀ x ∈ s.assignments.entries, ∀ e, ¬s.LacksNative x e)
      (crowded : s.IsCrowded profile.probes overflow) :
      s.PlanFails profile overflow (.tooManyUplinks s.uplinks.length profile.probes.length)
  | uplink {e : PlanError} (natives : ∀ x ∈ s.assignments.entries, ∀ e, ¬s.LacksNative x e)
      (room : ¬s.IsCrowded profile.probes overflow)
      (first : FirstAnswer Uplink.Lacks
        (s.uplinks.take (min s.uplinks.length profile.probes.length)) e) :
      s.PlanFails profile overflow e
  | steering {e : PlanError} (natives : ∀ x ∈ s.assignments.entries, ∀ e, ¬s.LacksNative x e)
      (room : ¬s.IsCrowded profile.probes overflow)
      (complete : ∀ u ∈ s.uplinks.take (min s.uplinks.length profile.probes.length),
        ∀ e, ¬u.Lacks e)
      (enabled : s.steering.enabled = true) (choice : 2 ≤ routedCount s.uplinks profile.probes)
      (first : FirstAnswer (s.LacksRoute profile.probes) s.networks e) :
      s.PlanFails profile overflow e

end Site

/-! ## VLANs -/

namespace Site

variable {s : Site} {profile : Profile} {strict : Bool}

/-- No port with an uplink is assigned, so every assigned port is bridged. -/
theorem IsValid.bridged_eq (hs : s.IsValid profile strict) : s.bridged = s.assignments.entries := by
  refine List.filter_eq_self.mpr ?_
  rintro ⟨port, a⟩ ha
  rw [Bool.not_eq_true', carriesUplink, any_eq_false_iff]
  rintro u hu rfl
  exact hs.uplink_ports_unassigned u hu (List.mem_map.mpr ⟨_, ha, rfl⟩)

theorem hasVlan_eq_false_iff {vlan : VlanId} :
    s.hasVlan vlan = false ↔ ∀ n ∈ s.networks, n.vlan ≠ vlan := by
  rw [← Bool.not_eq_true, hasVlan_eq_true_iff]
  simp

/-- The check has looked at all VLANs of an assignment but the native one. -/
theorem IsValid.vlanError?_eq_some_iff (hs : s.IsValid profile strict) {port : String}
    {a : Assignment} (ha : (port, a) ∈ s.assignments.entries) {e : PlanError} :
    s.vlanError? port a = some e ↔ s.LacksNative (port, a) e := by
  cases a with
  | access pvid =>
    have hpvid := hasVlan_eq_true_iff.mpr (hs.access_vlans port pvid ha)
    rw [vlanError?, hpvid, if_pos rfl]
    constructor
    · intro he
      cases he
    · intro hlacks
      cases hlacks
  | trunk native allowed =>
    have hallowed : (allowed.find? fun v => v != native && !s.hasVlan v) = none := by
      refine List.find?_eq_none.mpr fun v hv hfound => ?_
      simp only [Bool.and_eq_true, bne_iff_ne, Bool.not_eq_true'] at hfound
      obtain ⟨n, hn, hvlan⟩ := hs.trunk_vlans port native allowed ha v hv hfound.1
      exact hasVlan_eq_false_iff.mp hfound.2 n hn hvlan
    have hdefault : native ≠ VlanId.default ↔ native.val ≠ 1 := not_congr Fin.ext_iff
    rw [vlanError?, hallowed]
    split
    next h =>
      rw [hdefault, Bool.not_eq_true', hasVlan_eq_false_iff] at h
      constructor
      · intro he
        obtain rfl := Option.some.inj he
        exact .trunk port native allowed h.1 h.2
      · rintro ⟨⟩
        rfl
    next h =>
      rw [hdefault, Bool.not_eq_true', hasVlan_eq_false_iff] at h
      constructor
      · intro he
        cases he
      · rintro ⟨_, _, _, hdefault, hnetworks⟩
        exact absurd ⟨hdefault, hnetworks⟩ h

theorem IsValid.vlanTable_fails_iff (hs : s.IsValid profile strict) {bridge : String}
    {e : PlanError} : VlanTable.plan s bridge = .error e ↔
      FirstAnswer s.LacksNative s.assignments.entries e := by
  have hfirst : FirstAnswer (fun x e => s.vlanError? x.1 x.2 = some e) s.assignments.entries e ↔
      FirstAnswer s.LacksNative s.assignments.entries e :=
    firstAnswer_congr fun x hx e => hs.vlanError?_eq_some_iff hx
  rw [← hfirst, ← findSome?_eq_some_iff_firstAnswer, ← hs.bridged_eq, VlanTable.plan_eq,
    elim_refusal_eq_error]

theorem IsValid.vlanTable_exists_iff (hs : s.IsValid profile strict) {bridge : String} :
    (∃ t, VlanTable.plan s bridge = .ok t) ↔
      ∀ x ∈ s.assignments.entries, ∀ e, ¬s.LacksNative x e := by
  rw [exists_eq_ok_iff, ← forall_not_firstAnswer_iff]
  exact forall_congr' fun e => not_congr hs.vlanTable_fails_iff

end Site

/-! ## Uplinks -/

theorem all_isBlankText_iff {text : Option String} :
    text.all Text.isBlankText = true ↔ ∀ t ∈ text, ¬IsFilled t := by
  cases text with
  | none => simp
  | some t => simp [← isBlankText_eq_false_iff]

theorem Uplink.error?_eq_some_iff {u : Uplink} {e : PlanError} :
    u.error? = some e ↔ u.Lacks e := by
  unfold error?
  constructor
  · intro h
    split at h
    next gateway hkind =>
      obtain rfl := Option.some.inj h
      exact .address gateway hkind
    next address hkind =>
      obtain rfl := Option.some.inj h
      exact .gateway address hkind
    next => exact nomatch h
    next username password hkind =>
      split at h
      next hblank =>
        obtain rfl := Option.some.inj h
        exact .username username password hkind (all_isBlankText_iff.mp hblank)
      next => exact nomatch h
    next => exact nomatch h
  · rintro (⟨gateway, hkind⟩ | ⟨address, hkind⟩ | ⟨username, password, hkind, hblank⟩)
    · rw [hkind]
    · rw [hkind]
    · simp only [hkind]
      exact if_pos (all_isBlankText_iff.mpr hblank)

namespace Site

variable {s : Site} {profile : Profile} {strict : Bool} {probes : List Ipv4} {overflow : Overflow}

theorem overflows_iff :
    Failover.overflows s.uplinks probes overflow = true ↔ s.IsCrowded probes overflow := by
  rw [Failover.overflows, Bool.and_eq_true, decide_eq_true_iff, beq_iff_eq, IsCrowded]

theorem failover_fails_iff {e : PlanError} : Failover.plan s.uplinks probes overflow = .error e ↔
    s.IsCrowded probes overflow ∧ e = .tooManyUplinks s.uplinks.length probes.length ∨
      ¬s.IsCrowded probes overflow ∧
        FirstAnswer Uplink.Lacks (s.uplinks.take (min s.uplinks.length probes.length)) e := by
  have htake : s.uplinks.take (min s.uplinks.length probes.length) =
      s.uplinks.take probes.length := by
    rw [Nat.min_comm]
    exact List.take_eq_take_min.symm
  have hfirst : FirstAnswer (fun u e => u.error? = some e) (s.uplinks.take probes.length) e ↔
      FirstAnswer Uplink.Lacks (s.uplinks.take probes.length) e :=
    firstAnswer_congr fun u _ e => Uplink.error?_eq_some_iff
  rw [htake, ← hfirst, ← findSome?_eq_some_iff_firstAnswer, Failover.plan_eq]
  split
  next h =>
    rw [overflows_iff] at h
    simp [h, eq_comm]
  next h =>
    rw [overflows_iff] at h
    simp [h, elim_refusal_eq_error]

theorem failover_exists_iff : (∃ f, Failover.plan s.uplinks probes overflow = .ok f) ↔
    ¬s.IsCrowded probes overflow ∧
      ∀ u ∈ s.uplinks.take (min s.uplinks.length probes.length), ∀ e, ¬u.Lacks e := by
  rw [exists_eq_ok_iff, ← forall_not_firstAnswer_iff]
  simp only [ne_eq, failover_fails_iff, not_or, not_and, forall_and]
  constructor
  · rintro ⟨hcrowded, hnone⟩
    have hroom : ¬s.IsCrowded probes overflow := fun h => hcrowded _ h rfl
    exact ⟨hroom, fun e => hnone e hroom⟩
  · rintro ⟨hroom, hnone⟩
    exact ⟨fun e h => absurd h hroom, fun e _ => hnone e⟩

/-! ## Steering -/

/-- A network has no mark when it is mapped to an uplink that is not routed. -/
theorem IsValid.markOf_fails_iff (hs : s.IsValid profile strict) {f : Failover}
    (hf : f.IsFor s.uplinks probes) {fallback : UplinkRoutes} {n : Network} {e : PlanError} :
    SteeringPlan.markOf s f fallback n = .error e ↔ s.LacksRoute probes n e := by
  unfold SteeringPlan.markOf
  constructor
  · intro h
    split at h
    next id hid =>
      split at h
      next => exact nomatch h
      next htable =>
        obtain rfl := Except.error.inj h
        have hmapping := Keyed.get?_eq_some_iff.mp hid
        obtain ⟨u, hu, rfl⟩ := hs.mapped_uplinks n.id id hmapping
        obtain ⟨k, hk⟩ := List.mem_iff_getElem?.mp hu
        have hlt := (List.getElem?_eq_some_iff.mp hk).1
        refine .mapped k u hmapping hk ?_
        rcases Nat.lt_or_ge k probes.length with hprobe | hprobe
        · left
          refine Decidable.byContradiction fun hkind => ?_
          exact hf.table?_eq_none_iff.mp htable k u ⟨hk, hprobe, hkind⟩ rfl
        · right
          omega
    next => exact nomatch h
  · rintro ⟨k, u, hmapping, hk, hunrouted⟩
    have hlt := (List.getElem?_eq_some_iff.mp hk).1
    have htable : f.table? u.id = none := by
      refine hf.table?_eq_none_iff.mpr fun j v hv hid => ?_
      obtain rfl : j = k := eq_of_getElem?_of_nodup hs.uplinks_nodup hv.1 hk hid
      obtain rfl : v = u := Option.some.inj (hv.1.symm.trans hk)
      have hprobe := hv.2.1
      rcases hunrouted with hkind | hprobes
      · exact hv.2.2 hkind
      · omega
    rw [Keyed.get?_eq_some_iff.mpr hmapping]
    simp only [htable]

theorem IsValid.steering_fails_iff (hs : s.IsValid profile strict) {f : Failover}
    (hf : f.IsFor s.uplinks probes) {e : PlanError} : SteeringPlan.plan s f = .error e ↔
      s.steering.enabled = true ∧ 2 ≤ routedCount s.uplinks probes ∧
        FirstAnswer (s.LacksRoute probes) s.networks e := by
  rw [← hf.length_uplinks]
  rcases SteeringPlan.plan_cases s f with ⟨hchoice, hplan⟩ | ⟨fallback, rest, -, hchoice, hplan⟩
  · rw [hplan]
    exact iff_of_false nofun fun h => hchoice ⟨h.1, h.2.1⟩
  · have hfirst : FirstAnswer (fun n e => SteeringPlan.markOf s f fallback n = .error e)
        s.networks e ↔ FirstAnswer (s.LacksRoute probes) s.networks e :=
      firstAnswer_congr fun n _ e => hs.markOf_fails_iff hf
    rw [hplan, map_eq_error, mapM_eq_error, hfirst, and_iff_right hchoice.1,
      and_iff_right hchoice.2]

/-! ## Plans -/

theorem IsValid.build_fails_iff (hs : s.IsValid profile strict) {e : PlanError} :
    Plan.build s profile overflow = .error e ↔ s.PlanFails profile overflow e := by
  rw [Plan.build, bind_eq_error, hs.vlanTable_fails_iff]
  constructor
  · rintro (hnative | ⟨t, ht, h⟩)
    · exact .native hnative
    have hnatives := hs.vlanTable_exists_iff.mp ⟨t, ht⟩
    rcases bind_eq_error.mp h with h | ⟨f, hf, h⟩
    · rcases failover_fails_iff.mp h with ⟨hcrowded, rfl⟩ | ⟨hroom, hfirst⟩
      · exact .crowded hnatives hcrowded
      · exact .uplink hnatives hroom hfirst
    obtain ⟨hroom, hcomplete⟩ := failover_exists_iff.mp ⟨f, hf⟩
    rcases bind_eq_error.mp h with h | ⟨p, -, h⟩
    · obtain ⟨henabled, hchoice, hfirst⟩ :=
        (hs.steering_fails_iff (Failover.isFor_of_plan_eq_ok hf)).mp h
      exact .steering hnatives hroom hcomplete henabled hchoice hfirst
    · exact nomatch h
  · intro h
    cases h with
    | native first => exact Or.inl first
    | crowded natives crowded =>
      obtain ⟨t, ht⟩ := hs.vlanTable_exists_iff.mpr natives
      have hf := failover_fails_iff.mpr (Or.inl ⟨crowded, rfl⟩)
      exact Or.inr ⟨t, ht, bind_eq_error.mpr (Or.inl hf)⟩
    | uplink natives room first =>
      obtain ⟨t, ht⟩ := hs.vlanTable_exists_iff.mpr natives
      have hf := failover_fails_iff.mpr (Or.inr ⟨room, first⟩)
      exact Or.inr ⟨t, ht, bind_eq_error.mpr (Or.inl hf)⟩
    | steering natives room complete enabled choice first =>
      obtain ⟨t, ht⟩ := hs.vlanTable_exists_iff.mpr natives
      obtain ⟨f, hf⟩ := failover_exists_iff.mpr ⟨room, complete⟩
      have hp := (hs.steering_fails_iff (Failover.isFor_of_plan_eq_ok hf)).mpr
        ⟨enabled, choice, first⟩
      exact Or.inr ⟨t, ht, bind_eq_error.mpr (Or.inr ⟨f, hf, bind_eq_error.mpr (Or.inl hp)⟩)⟩

theorem forall_not_planFails_iff : (∀ e, ¬s.PlanFails profile overflow e) ↔
    (∀ x ∈ s.assignments.entries, ∀ e, ¬s.LacksNative x e) ∧
      ¬s.IsCrowded profile.probes overflow ∧
      (∀ u ∈ s.uplinks.take (min s.uplinks.length profile.probes.length), ∀ e, ¬u.Lacks e) ∧
      (s.steering.enabled = true → 2 ≤ routedCount s.uplinks profile.probes →
        ∀ n ∈ s.networks, ∀ e, ¬s.LacksRoute profile.probes n e) := by
  constructor
  · intro h
    have hnatives := forall_not_firstAnswer_iff.mp fun e hfirst => h e (.native hfirst)
    have hroom := fun hcrowded => h _ (.crowded hnatives hcrowded)
    have hcomplete := forall_not_firstAnswer_iff.mp fun e hfirst =>
      h e (.uplink hnatives hroom hfirst)
    exact ⟨hnatives, hroom, hcomplete, fun henabled hchoice =>
      forall_not_firstAnswer_iff.mp fun e hfirst =>
        h e (.steering hnatives hroom hcomplete henabled hchoice hfirst)⟩
  · rintro ⟨hnatives, hroom, hcomplete, hroutes⟩ e h
    cases h with
    | native first => exact forall_not_firstAnswer_iff.mpr hnatives e first
    | crowded natives crowded => exact hroom crowded
    | uplink natives room first => exact forall_not_firstAnswer_iff.mpr hcomplete e first
    | steering natives room complete enabled choice first =>
      exact forall_not_firstAnswer_iff.mpr (hroutes enabled choice) e first

/-- What a reason is about tells it apart from the unknown VLANs that the check has excluded. -/
theorem PlanFails.ne_unknownVlan {e : PlanError} (h : s.PlanFails profile overflow e)
    (port : String) (vlan : VlanId) :
    e ≠ .unknownAccessVlan port vlan ∧ e ≠ .unknownTrunkVlan port vlan := by
  cases h with
  | native first =>
    obtain ⟨_, _, _, _, ⟨⟩, -⟩ := first
    exact ⟨nofun, nofun⟩
  | crowded natives crowded => exact ⟨nofun, nofun⟩
  | uplink natives room first =>
    obtain ⟨_, _, _, _, ⟨⟩ | ⟨⟩ | ⟨⟩, -⟩ := first
    all_goals exact ⟨nofun, nofun⟩
  | steering natives room complete enabled choice first =>
    obtain ⟨_, _, _, _, ⟨⟩, -⟩ := first
    exact ⟨nofun, nofun⟩

end Site

/-- **On a site that has passed its check, planning fails in these ways and in no other.** There is
a plan exactly where none of them applies, and it is never the VLAN of an access port or an allowed
VLAN of a trunk that is missing. -/
theorem Plan.build_fails_exactly {s : Site} {profile : Profile} {strict : Bool}
    (h : s.check profile strict = .ok ()) (overflow : Overflow) :
    (∀ e, build s profile overflow = .error e ↔ s.PlanFails profile overflow e) ∧
      ((∃ p, build s profile overflow = .ok p) ↔
        (∀ x ∈ s.assignments.entries, ∀ e, ¬s.LacksNative x e) ∧
        ¬s.IsCrowded profile.probes overflow ∧
        (∀ u ∈ s.uplinks.take (min s.uplinks.length profile.probes.length), ∀ e, ¬u.Lacks e) ∧
        (s.steering.enabled = true → 2 ≤ routedCount s.uplinks profile.probes →
          ∀ n ∈ s.networks, ∀ e, ¬s.LacksRoute profile.probes n e)) ∧
      ∀ port vlan, build s profile overflow ≠ .error (.unknownAccessVlan port vlan) ∧
        build s profile overflow ≠ .error (.unknownTrunkVlan port vlan) := by
  rw [Site.check_eq_ok_iff, Site.findings_eq_nil_iff] at h
  have hfails : ∀ e, build s profile overflow = .error e ↔ s.PlanFails profile overflow e :=
    fun e => h.build_fails_iff
  refine ⟨hfails, ?_, fun port vlan => ⟨fun he => ?_, fun he => ?_⟩⟩
  · rw [exists_eq_ok_iff, ← Site.forall_not_planFails_iff]
    exact forall_congr' fun e => not_congr (hfails e)
  · exact (((hfails _).mp he).ne_unknownVlan port vlan).1 rfl
  · exact (((hfails _).mp he).ne_unknownVlan port vlan).2 rfl

/-- The guests of the sample cannot be steered to its DHCP uplink. -/
theorem Plan.build_fails_exactly_of_unrouted_target :
    let s : Site := { Site.sample with steering := ⟨true, ⟨[("guests", "cable")], by decide⟩⟩ }
    s.check .builtin false = .ok () ∧
      s.PlanFails .builtin .reject (.policyTargetUnrouted "guests" "cable") := by
  intro s
  have h : s.check .builtin false = .ok () :=
    Site.check_eq_ok_iff.mpr (List.isEmpty_iff.mp (by decide +kernel))
  exact ⟨h, ((build_fails_exactly h .reject).1 _).mp rfl⟩

end SiteRouter

import SiteRouter.Proofs.Menus
import SiteRouter.Proofs.PlanFailures

/-!
# What is missing where uplinks are brought up

A script brings up every uplink of its site, and says about each what the site says. So it is
complete (`Script.IsComplete`) exactly when every uplink has what bringing it up takes
(`Uplink.IsConfigured`, `Blueprint.isComplete_script_iff`).

Planning sees to that for the uplinks that it looks at, which are those with a probe. Where uplinks
without a probe are left unrouted nobody looks at them, and they are brought up all the same:
`compile_isComplete_iff` is the exact condition on the site, and
`compile_isIncomplete_of_spare_uplinks` a site that does not meet it and compiles.
-/

namespace SiteRouter

open Script

/-- The uplink has what bringing it up takes: an address if it is static, an account if it is a
PPPoE client. -/
def Uplink.IsConfigured (u : Uplink) : Prop :=
  match u.kind with
  | .static address _ => ∃ a, address = some a
  | .pppoe username _ => ∃ name ∈ username, IsFilled name
  | .dhcp => True

/-- No address is added without saying which, and no PPPoE client without an account. -/
structure Script.IsComplete (s : Script) : Prop where
  addresses : ∀ c ∈ s.commandsAt "/ip address", c.action = .add → ∃ value, c.Says "address" value
  clients : ∀ c ∈ s.commandsAt "/interface pppoe-client", c.action = .add →
    ∃ name, c.Says "user" name ∧ IsFilled name

/-! ## One uplink -/

namespace Uplink

variable {u : Uplink} {position : Nat}

theorem action_bringUp : (u.bringUp position).action = .add := by
  unfold bringUp
  cases u.kind <;> simp

theorem exists_says_address_iff {address : Option Cidr} {gateway : Option Ipv4}
    (hkind : u.kind = .static address gateway) :
    (∃ value, (u.bringUp position).Says "address" value) ↔ u.IsConfigured := by
  simp only [bringUp, IsConfigured, hkind, Command.Says]
  cases address <;> simp [Command.add]

theorem exists_says_user_iff {username password : Option String}
    (hkind : u.kind = .pppoe username password) :
    (∃ name, (u.bringUp position).Says "user" name ∧ IsFilled name) ↔ u.IsConfigured := by
  simp only [bringUp, IsConfigured, hkind, Command.Says]
  cases username <;> cases password <;> simp [Command.add]

/-- An uplink is configured when the command that brings it up says what its menu asks for. -/
theorem isConfigured_iff (position : Nat) : u.IsConfigured ↔
    (u.kind.menu = "/ip address" → ∃ value, (u.bringUp position).Says "address" value) ∧
      (u.kind.menu = "/interface pppoe-client" →
        ∃ name, (u.bringUp position).Says "user" name ∧ IsFilled name) := by
  cases hkind : u.kind with
  | «static» address gateway => simp [UplinkKind.menu, exists_says_address_iff hkind]
  | pppoe username password => simp [UplinkKind.menu, exists_says_user_iff hkind]
  | dhcp => simp [UplinkKind.menu, IsConfigured, hkind]

/-- An uplink that lacks nothing for its routes lacks nothing for being brought up. -/
theorem isConfigured_of_error? (h : u.error? = none) : u.IsConfigured := by
  have hlacks : ∀ e, ¬u.Lacks e := by
    intro e he
    rw [error?_eq_some_iff.mpr he] at h
    exact nomatch h
  unfold IsConfigured
  split
  next address gateway hkind =>
    cases address with
    | none => exact absurd (.address gateway hkind) (hlacks _)
    | some a => exact ⟨a, rfl⟩
  next username password hkind =>
    refine Classical.byContradiction fun hblank => hlacks _ (.username username password hkind ?_)
    exact fun name hname hfilled => hblank ⟨name, hname, hfilled⟩
  next => trivial

end Uplink

/-! ## All uplinks -/

namespace Blueprint

variable {b : Blueprint} {path : String}

theorem mem_bringUp {u : Uplink} {i : Nat} (hu : (i, u) ∈ b.site.placedUplinks)
    (hmenu : u.kind.menu = path) :
    u.bringUp i ∈ (b.site.placedUplinks.map fun (i, u) => u.bringUp i).filter (·.path == path) := by
  refine List.mem_filter.mpr ⟨List.mem_map.mpr ⟨_, hu, rfl⟩, ?_⟩
  rw [Uplink.path_bringUp, hmenu, beq_self_eq_true]

/-- What is said of the uplinks that are brought up in a menu is said of each at its position. -/
theorem forall_bringUp_iff {p : Command → Prop} :
    (∀ c ∈ (b.site.placedUplinks.map fun (i, u) => u.bringUp i).filter (·.path == path), p c) ↔
      ∀ (i : Nat) (u : Uplink), (i, u) ∈ b.site.placedUplinks → u.kind.menu = path →
        p (u.bringUp i) := by
  constructor
  · intro h i u hu hmenu
    exact h _ (mem_bringUp hu hmenu)
  · intro h c hc
    obtain ⟨hc, hpath⟩ := List.mem_filter.mp hc
    obtain ⟨⟨i, u⟩, hu, rfl⟩ := List.mem_map.mp hc
    rw [beq_iff_eq, Uplink.path_bringUp] at hpath
    exact h i u hu hpath

theorem addresses_iff : (∀ c ∈ b.script.commandsAt "/ip address", c.action = .add →
      ∃ value, c.Says "address" value) ↔
    ∀ (i : Nat) (u : Uplink), (i, u) ∈ b.site.placedUplinks → u.kind.menu = "/ip address" →
      ∃ value, (u.bringUp i).Says "address" value := by
  have hnetworks : ∀ c ∈ b.site.networks.map Network.addressCommand, c.action = .add →
      ∃ value, c.Says "address" value := by
    intro c hc _
    obtain ⟨n, -, rfl⟩ := List.mem_map.mp hc
    exact ⟨n.cidr.render, by simp [Network.addressCommand, Command.Says]⟩
  rw [commandsAt_address, List.forall_mem_append, and_iff_left hnetworks, forall_bringUp_iff]
  simp only [Uplink.action_bringUp, true_imp_iff]

theorem clients_iff : (∀ c ∈ b.script.commandsAt "/interface pppoe-client", c.action = .add →
      ∃ name, c.Says "user" name ∧ IsFilled name) ↔
    ∀ (i : Nat) (u : Uplink), (i, u) ∈ b.site.placedUplinks →
      u.kind.menu = "/interface pppoe-client" →
        ∃ name, (u.bringUp i).Says "user" name ∧ IsFilled name := by
  rw [commandsAt_client, forall_bringUp_iff]
  simp only [Uplink.action_bringUp, true_imp_iff]

/-- A script is complete when its uplinks are configured. -/
theorem isComplete_script_iff : b.script.IsComplete ↔ ∀ u ∈ b.site.uplinks, u.IsConfigured := by
  constructor
  · rintro ⟨haddresses, hclients⟩ u hu
    obtain ⟨k, hk⟩ := List.mem_iff_getElem?.mp hu
    have hplaced : (k + 1, u) ∈ b.site.placedUplinks := Site.mem_placedUplinks.mpr ⟨k, hk, rfl⟩
    exact (Uplink.isConfigured_iff (k + 1)).mpr
      ⟨addresses_iff.mp haddresses _ u hplaced, clients_iff.mp hclients _ u hplaced⟩
  · intro h
    have hconfigured : ∀ i u, (i, u) ∈ b.site.placedUplinks → u.IsConfigured := by
      intro i u hu
      obtain ⟨k, hk, -⟩ := Site.mem_placedUplinks.mp hu
      exact h u (List.mem_of_getElem? hk)
    exact ⟨
      addresses_iff.mpr fun i u hu => ((Uplink.isConfigured_iff i).mp (hconfigured i u hu)).1,
      clients_iff.mpr fun i u hu => ((Uplink.isConfigured_iff i).mp (hconfigured i u hu)).2⟩

end Blueprint

/-! ## Compiled scripts -/

/-- **A compiled script is complete exactly when the uplinks without a probe are configured**, since
planning has looked at the others. Where more uplinks than probes are refused there are none without
a probe, and every script is complete. -/
theorem compile_isComplete_iff {s : Site} {profile : Profile} {options : CompileOptions}
    {out : Compiled} (h : compile s profile options = .ok out) :
    (out.script.IsComplete ↔ ∀ u ∈ s.uplinks.drop profile.probes.length, u.IsConfigured) ∧
      (options.overflow = .reject → out.script.IsComplete) := by
  obtain ⟨-, hplan, hscript, -⟩ := of_compile_eq_ok h
  obtain ⟨-, hfailover, -⟩ := Plan.of_build_eq_ok hplan
  have hplanned : ∀ u ∈ s.uplinks.take profile.probes.length, u.IsConfigured := fun u hu =>
    Uplink.isConfigured_of_error? ((Failover.of_plan_eq_ok hfailover).1 u hu)
  have hcomplete : out.script.IsComplete ↔
      ∀ u ∈ s.uplinks.drop profile.probes.length, u.IsConfigured := by
    rw [hscript, Blueprint.isComplete_script_iff]
    show (∀ u ∈ s.uplinks, u.IsConfigured) ↔ _
    rw [← List.take_append_drop profile.probes.length s.uplinks, List.forall_mem_append,
      and_iff_right hplanned, List.take_append_drop]
  refine ⟨hcomplete, fun hreject => hcomplete.mpr ?_⟩
  have hroom : s.uplinks.length ≤ profile.probes.length := by
    have hcrowded := (Site.failover_exists_iff.mp ⟨_, hfailover⟩).1
    exact Nat.le_of_not_lt fun hlt => hcrowded ⟨hlt, hreject⟩
  rw [List.drop_eq_nil_of_le hroom]
  exact List.forall_mem_nil _

/-- The sample has a probe for every uplink. -/
theorem compile_isComplete_iff_of_sample :
    ∃ out, compile .sample .builtin .sample = .ok out ∧ out.script.IsComplete := by
  obtain ⟨out, h⟩ := exists_compile_sample
  exact ⟨out, h, (compile_isComplete_iff h).2 rfl⟩

/-- With one probe for three uplinks, a static uplink without an address and a PPPoE uplink with a
blank account are brought up as they are. -/
theorem compile_isIncomplete_of_spare_uplinks :
    let s : Site := { Site.sample with
      uplinks := [
        ⟨"fibre", "ether1", .static (some ⟨⟨0x0a000002, by decide⟩, 30, by decide⟩)
          (some ⟨0x0a000001, by decide⟩)⟩,
        ⟨"spare", "ether2", .static none none⟩,
        ⟨"dsl", "ether3", .pppoe (some " ") none⟩] }
    let profile : Profile := { Profile.builtin with probes := [⟨0x08080808, by decide⟩] }
    ∃ out, compile s profile { CompileOptions.sample with overflow := .truncate } = .ok out ∧
      (∃ c ∈ out.script.commandsAt "/ip address", c.action = .add ∧
        ∀ value, ¬c.Says "address" value) ∧
      ∃ c ∈ out.script.commandsAt "/interface pppoe-client", c.action = .add ∧
        ∀ name, c.Says "user" name → ¬IsFilled name := by
  intro s profile
  let spare : Uplink := ⟨"spare", "ether2", .static none none⟩
  let dsl : Uplink := ⟨"dsl", "ether3", .pppoe (some " ") none⟩
  obtain ⟨out, h⟩ : ∃ out, compile s profile
      { CompileOptions.sample with overflow := .truncate } = .ok out :=
    exists_compile_of_checks (by decide +kernel) (by decide +kernel)
  obtain ⟨-, -, hscript, -⟩ := of_compile_eq_ok h
  have hspare : ¬spare.IsConfigured := by simp [spare, Uplink.IsConfigured]
  have hdsl : ¬dsl.IsConfigured := by
    rintro ⟨name, hname, hfilled⟩
    obtain rfl := Option.some.inj hname
    exact absurd (isBlankText_eq_false_iff.mpr hfilled) (by decide)
  have hspare2 : (2, spare) ∈ s.placedUplinks := Site.mem_placedUplinks.mpr ⟨1, rfl, rfl⟩
  have hdsl3 : (3, dsl) ∈ s.placedUplinks := Site.mem_placedUplinks.mpr ⟨2, rfl, rfl⟩
  refine ⟨out, h, ⟨spare.bringUp 2, ?_, rfl, ?_⟩, dsl.bringUp 3, ?_, rfl, ?_⟩
  · rw [hscript, Blueprint.commandsAt_address]
    exact List.mem_append_left _ (Blueprint.mem_bringUp hspare2 rfl)
  · exact fun value hvalue => hspare ((Uplink.exists_says_address_iff rfl).mp ⟨value, hvalue⟩)
  · rw [hscript, Blueprint.commandsAt_client]
    exact Blueprint.mem_bringUp hdsl3 rfl
  · exact fun name hname hfilled => hdsl
      ((Uplink.exists_says_user_iff rfl).mp ⟨name, hname, hfilled⟩)

end SiteRouter

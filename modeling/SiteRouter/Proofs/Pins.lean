import Mathlib.Data.List.Nodup
import SiteRouter.Document.Source
import SiteRouter.Proofs.AddressText
import SiteRouter.Proofs.Compilation
import SiteRouter.Proofs.RouteCommands

/-!
# Probes and the gateways they are pinned to

A probe tells of the outage of an uplink because a host route pins it to the gateway of the uplink.
That works as long as no other host route leads to the same probe, or else the probe goes on to
answer through the other uplink.

Nothing keeps a profile from naming a host twice (`compile_shares_probe`), so the probes of a
compiled script are distinct exactly when those at the positions of routed uplinks are
(`compile_pins_apart_iff`), and in particular when the profile names every host once.
-/

namespace SiteRouter

open Script

/-- The destinations of the host routes of a script. -/
def Script.pins (s : Script) : List (Option String) :=
  (s.select "/ip route" [("scope", "10")]).map (·.get? "dst-address")

/-- No two of the uplinks that are routed have the same probe. -/
def ProbesApart (uplinks : List Uplink) (probes : List Ipv4) : Prop :=
  ∀ j k u v, IsRouted uplinks probes j u → IsRouted uplinks probes k v →
    probes[j]? = probes[k]? → j = k

/-! ## Pins of a plan -/

theorem ProbesApart.of_nodup {uplinks : List Uplink} {probes : List Ipv4} (h : probes.Nodup) :
    ProbesApart uplinks probes := fun _ _ _ _ hj _ hprobe => (List.getElem?_inj hj.2.1 h).mp hprobe

/-- An address with a slash behind it is read back. -/
theorem Ipv4.host_injective {a b : Ipv4} (h : s!"{a}/32" = s!"{b}/32") : a = b := by
  have hrender : (Cidr.host a).render = (Cidr.host b).render := by
    rw [Cidr.host, Cidr.host, Cidr.render_host, Cidr.render_host, h]
  have hread := Cidr.ofString?_render (Cidr.host a)
  rw [hrender, Cidr.ofString?_render] at hread
  exact congrArg Cidr.address (Option.some.inj hread).symm

section Pins

variable {uplinks : List Uplink} {probes : List Ipv4}

/-- The probe of an uplink is the one at its position. -/
theorem UplinkRoutes.IsFor.probes_getElem? {r : UplinkRoutes} (h : r.IsFor uplinks probes) {k : Nat}
    (hk : r.position = k + 1) : probes[k]? = some r.probe := by
  obtain ⟨j, -, hj, -, hprobe, -⟩ := h.placed
  obtain rfl : j = k := by omega
  exact hprobe

/-- The probes of a plan are distinct exactly when those of the routed uplinks are. -/
theorem Failover.IsFor.nodup_probes_iff {f : Failover} (h : f.IsFor uplinks probes) :
    (f.uplinks.map (·.probe)).Nodup ↔ ProbesApart uplinks probes := by
  have huplinks : f.uplinks.Nodup := List.Nodup.of_map _ h.positions_nodup
  rw [List.nodup_map_iff_inj_on huplinks]
  constructor
  · intro hinj j k u v hu hv hprobe
    obtain ⟨q, hq, hj, -, -⟩ := h.exists_mem hu
    obtain ⟨r, hr, hk, -, -⟩ := h.exists_mem hv
    rw [(h.routes_isFor q hq).probes_getElem? hj,
      (h.routes_isFor r hr).probes_getElem? hk] at hprobe
    obtain rfl := hinj q hq r hr (Option.some.inj hprobe)
    omega
  · intro hapart q hq r hr hprobe
    obtain ⟨j, u, hu, hj, -, -⟩ := h.isRouted_of_mem hq
    obtain ⟨k, v, hv, hk, -, -⟩ := h.isRouted_of_mem hr
    have hjk : j = k := by
      refine hapart j k u v hu hv ?_
      rw [(h.routes_isFor q hq).probes_getElem? hj, (h.routes_isFor r hr).probes_getElem? hk,
        hprobe]
    exact h.eq_of_position hq hr (by rw [hj, hk, hjk])

/-- The host routes of a script lead to the probes of its plan. -/
theorem Blueprint.pins_script {b : Blueprint} (h : b.plan.failover.IsFor uplinks probes) :
    b.script.pins =
      (b.plan.failover.uplinks.map (·.probe)).map fun probe => some s!"{probe}/32" := by
  have hsaid : ∀ r : Route, r.command.hasAll [("scope", "10")] = (r.scope == some 10) := fun r => by
    have hscope : r.command.get? "scope" = some "10" ↔ r.scope = some 10 := r.get?_scope_eq_iff 10
    rw [Bool.eq_iff_iff, Command.hasAll_cons, hscope, Command.hasAll_nil, and_iff_left rfl,
      beq_iff_eq]
  rw [pins, select_route]
  simp only [hsaid]
  rw [h.filter_routes_scope, List.map_map, List.map_map, List.map_map]
  refine List.map_congr_left fun r hr => ?_
  rw [Function.comp, Function.comp, (h.routes_isFor r hr).hostRoute_eq, Route.get?_destination,
    Cidr.render_host]
  rfl

end Pins

/-! ## Compiled scripts -/

section Compiled

variable {s : Site} {profile : Profile} {options : CompileOptions} {out : Compiled}

theorem nodup_pins_of_compile_eq_ok (h : compile s profile options = .ok out) :
    out.script.pins.Nodup ↔ ProbesApart s.uplinks profile.probes := by
  obtain ⟨-, hplan, hscript, -⟩ := of_compile_eq_ok h
  have hf := Failover.isFor_of_plan_eq_ok (Plan.of_build_eq_ok hplan).2.1
  have hinjective : Function.Injective fun probe : Ipv4 => some s!"{probe}/32" :=
    fun a b hab => Ipv4.host_injective (Option.some.inj hab)
  rw [hscript, Blueprint.pins_script hf, List.nodup_map_iff hinjective, hf.nodup_probes_iff]

/-- **Every probe is pinned to one gateway exactly when routed uplinks have probes of their own.**
They have when the profile names no host twice. -/
theorem compile_pins_apart_iff (h : compile s profile options = .ok out) :
    (out.script.pins.Nodup ↔ ProbesApart s.uplinks profile.probes) ∧
      (profile.probes.Nodup → out.script.pins.Nodup) := by
  have hpins := nodup_pins_of_compile_eq_ok h
  exact ⟨hpins, fun hnodup => hpins.mpr (.of_nodup hnodup)⟩

end Compiled

/-- The hosts of the built-in profile are distinct. -/
theorem compile_pins_apart_of_sample :
    ∃ out, compile .sample .builtin .sample = .ok out ∧ out.script.pins.Nodup := by
  obtain ⟨out, h⟩ := exists_compile_sample
  exact ⟨out, h, (compile_pins_apart_iff h).2 (by decide)⟩

/-- A profile that names a host twice is accepted, and with it two uplinks of the sample share a
probe. -/
theorem compile_shares_probe :
    let text := "probe_addresses = [\"8.8.8.8\", \"1.1.1.1\", \"8.8.8.8\"]\n"
    ∃ profile out, Profile.ofText "fleet.toml" text = .ok profile ∧
      compile .sample profile .sample = .ok out ∧ ¬out.script.pins.Nodup := by
  intro text
  let profile : Profile :=
    { Profile.builtin with probes := [.ofOctets 8 8 8 8, .ofOctets 1 1 1 1, .ofOctets 8 8 8 8] }
  have hprofile : (Profile.ofText "fleet.toml" text).toOption = some profile := by decide +kernel
  obtain ⟨out, h⟩ : ∃ out, compile .sample profile .sample = .ok out :=
    exists_compile_of_checks (by decide +kernel) (by decide +kernel)
  refine ⟨profile, out, toOption_eq_some.mp hprofile, h, fun hnodup => ?_⟩
  have hfibre : IsRouted Site.sample.uplinks profile.probes 0 Site.sample.uplinks[0] :=
    ⟨rfl, by decide, by decide⟩
  have hdsl : IsRouted Site.sample.uplinks profile.probes 2 Site.sample.uplinks[2] :=
    ⟨rfl, by decide, by decide⟩
  have hsame := (nodup_pins_of_compile_eq_ok h).mp hnodup 0 2 _ _ hfibre hdsl rfl
  exact absurd hsame (by decide)

end SiteRouter

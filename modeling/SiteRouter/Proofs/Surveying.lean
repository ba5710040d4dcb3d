import Mathlib.Data.List.TakeWhile
import SiteRouter.Plan.Failover
import SiteRouter.Proofs.Along

/-!
# The loop behind the failover plan

The uplinks are looked at one after the other, and each of them may put an end to the planning, be
routed, or be skipped with a warning. `Survey.pass_eq` says what is known after the loop by lists:
the routed uplinks and the skipped ones are parts of those in front of the first that cannot be
planned, and what is told is told of the skipped ones, in the same order.

From there on the plan and the notes are read separately: `Failover.plan_eq` is the plan, in which
either all uplinks with a probe are sound or the first that is not decides, and `Failover.notes_eq`
is what is told, whether there is a plan or not.
-/

namespace SiteRouter

/-! ## Uplinks without a gateway -/

theorem isRoutable_eq (kind : UplinkKind) : kind.isRoutable = decide (kind ≠ .dhcp) := by
  cases kind <;> rfl

/-- An uplink that lacks nothing has a gateway unless it is configured by DHCP. -/
theorem isSome_gateway? {u : Uplink} {position : Nat} (h : u.error? = none) :
    (u.gateway? position).isSome = decide (u.kind ≠ .dhcp) := by
  unfold Uplink.error? at h
  unfold Uplink.gateway?
  cases hkind : u.kind with
  | pppoe username password => rfl
  | «static» address gateway =>
    rw [hkind] at h
    cases gateway with
    | some gateway => rfl
    | none => cases address with
      | none => exact absurd h (by simp)
      | some address => exact absurd h (by simp)
  | dhcp => rfl

/-! ## The loop -/

/-- The hop at a place, if the uplink there is routed. -/
def hop? (x : (Uplink × Ipv4) × Nat) : Option Hop :=
  (x.1.1.gateway? x.2).map fun gateway => ⟨x.2, x.1.1, x.1.2, gateway⟩

namespace Survey

theorem foldl_skip (text : Uplink → String) (us : List Uplink) (s : Survey) :
    us.foldl (fun s u => s.skip u (text u)) s =
      ⟨s.hops, s.skipped ++ us.map (·.id), s.notes ++ us.map fun u => .warn (text u)⟩ := by
  induction us generalizing s with
  | nil => simp only [List.foldl_nil, List.map_nil, List.append_nil]
  | cons u us ih =>
    rw [List.foldl_cons, ih]
    simp only [skip, List.map_cons, List.append_assoc, List.singleton_append]

/-- What is known after the loop. The uplinks in front of one that cannot be planned have been
looked at. -/
theorem pass_eq (xs : List ((Uplink × Ipv4) × Nat)) (s : Survey) :
    let sound := xs.takeWhile (·.1.1.error?.isNone)
    let left := (sound.map (·.1.1)).filter (!·.kind.isRoutable)
    s.pass xs = (⟨s.hops ++ sound.filterMap hop?, s.skipped ++ left.map (·.id),
      s.notes ++ left.map fun u => .warn
        s!"uplink {u.id} uses unsupported kind {u.kind.word}; skipped for failover routing"⟩,
      xs.findSome? (·.1.1.error?)) := by
  induction xs generalizing s with
  | nil => simp [pass]
  | cons x xs ih =>
    obtain ⟨⟨u, probe⟩, i⟩ := x
    rw [pass, List.takeWhile_cons, List.findSome?_cons]
    cases herror : u.error? with
    | some e => simp
    | none =>
      have hsome : (u.gateway? i).isSome = u.kind.isRoutable := by
        rw [isSome_gateway? herror, isRoutable_eq]
      cases hgateway : u.gateway? i with
      | some gateway =>
        rw [hgateway] at hsome
        simp [ih, hop?, hgateway, ← hsome]
      | none =>
        rw [hgateway] at hsome
        simp [ih, hop?, hgateway, ← hsome, skip]

end Survey

namespace Failover

/-! ## The uplinks with a probe -/

/-- The uplinks that are routed. -/
def hops (uplinks : List Uplink) (probes : List Ipv4) : List Hop :=
  (placed uplinks probes).filterMap hop?

/-- The uplinks with a probe that are not routed because of their kind. -/
def unsupported (uplinks : List Uplink) (probes : List Ipv4) : List Uplink :=
  (uplinks.take probes.length).filter fun u => !u.kind.isRoutable

variable {uplinks : List Uplink} {probes : List Ipv4} {overflow : Overflow}

/-- The uplinks with a probe are the first ones. -/
theorem map_uplink_placed : (placed uplinks probes).map (·.1.1) = uplinks.take probes.length := by
  have hzip : (uplinks.zip probes).map Prod.fst = uplinks.take probes.length := by
    rw [List.zip_eq_zip_take_min, List.map_fst_zip (by simp), List.take_eq_take_iff]
    omega
  have hplaced : (placed uplinks probes).map (·.1) = uplinks.zip probes := List.zipIdx_map_fst ..
  rw [← hzip, ← hplaced, List.map_map]
  rfl

theorem findSome?_placed : (placed uplinks probes).findSome? (·.1.1.error?) =
    (uplinks.take probes.length).findSome? Uplink.error? := by
  rw [← map_uplink_placed, List.findSome?_map]
  rfl

theorem takeWhile_placed : ((placed uplinks probes).takeWhile (·.1.1.error?.isNone)).map (·.1.1) =
    (uplinks.take probes.length).takeWhile (·.error?.isNone) := by
  rw [← map_uplink_placed, List.takeWhile_map]
  rfl

theorem takeWhile_placed_of_sound
    (h : (uplinks.take probes.length).findSome? Uplink.error? = none) :
    (placed uplinks probes).takeWhile (·.1.1.error?.isNone) = placed uplinks probes := by
  rw [← findSome?_placed, List.findSome?_eq_none_iff] at h
  exact List.takeWhile_eq_self_iff.mpr fun x hx => Option.isNone_iff_eq_none.mpr (h x hx)

/-! ## The plan and the notes -/

/-- The plan in terms of the uplinks: the first that is not sound decides, and otherwise all that
can be are routed. -/
theorem plan_eq : plan uplinks probes overflow =
    if overflows uplinks probes overflow then
      .error (.tooManyUplinks uplinks.length probes.length)
    else
      ((uplinks.take probes.length).findSome? Uplink.error?).elim
        (.ok {
          uplinks := (hops uplinks probes).map (routesOf (hops uplinks probes))
          skipped := (dropped uplinks probes ++ unsupported uplinks probes).map Uplink.id })
        .error := by
  rw [plan, planning]
  split
  next => rfl
  next =>
    rw [start, Survey.foldl_skip, Survey.pass_eq, findSome?_placed]
    cases herror : (uplinks.take probes.length).findSome? Uplink.error? with
    | some e => rfl
    | none =>
      rw [takeWhile_placed_of_sound herror, map_uplink_placed, List.map_append]
      rfl

/-- What is told in terms of the uplinks: those without a probe, those in front of the first that is
not sound that are skipped for their kind and, where all are sound, the tables of the others. -/
theorem notes_eq : notes uplinks probes overflow =
    if overflows uplinks probes overflow then []
    else
      let planned := uplinks.take probes.length
      let sound := planned.takeWhile (·.error?.isNone)
      let droppedNotes := (dropped uplinks probes).map fun u => Note.warn
        s!"uplink {u.id} exceeds the {probes.length} supported uplinks; not routed"
      let skippedNotes := (sound.filter (!·.kind.isRoutable)).map fun u => Note.warn
        s!"uplink {u.id} uses unsupported kind {u.kind.word}; skipped for failover routing"
      let tableNotes := (hops uplinks probes).map fun h => Note.debug
        s!"uplink {h.uplink.id} -> table {routingTable h.position}, probe {h.probe}"
      droppedNotes ++ skippedNotes ++ if planned.all (·.error?.isNone) then tableNotes else [] := by
  rw [notes, planning]
  split
  next => rfl
  next =>
    rw [start, Survey.foldl_skip, Survey.pass_eq, findSome?_placed, takeWhile_placed]
    have hall : (uplinks.take probes.length).all (·.error?.isNone) =
        ((uplinks.take probes.length).findSome? Uplink.error?).isNone := by
      rw [Bool.eq_iff_iff, List.all_eq_true, Option.isNone_iff_eq_none, List.findSome?_eq_none_iff]
      simp only [Option.isNone_iff_eq_none]
    simp only [hall]
    cases herror : (uplinks.take probes.length).findSome? Uplink.error? with
    | some e => exact (List.append_nil _).symm
    | none =>
      rw [takeWhile_placed_of_sound herror]
      rfl

end Failover

end SiteRouter

import SiteRouter.Proofs.Compilation
import SiteRouter.Proofs.FailoverPlan

/-!
# Uplinks that are left out

A plan leaves uplinks out for two reasons: there is no probe left for them, or they are configured
by DHCP. Nothing gets lost that way: every uplink is either routed or skipped, and there is a
warning for each that is skipped (`leftOut` has the ids and the warnings side by side).

Where the uplinks without a probe are left out rather than refused, the plan is the one that the
others alone would have, with more skipped (`plan_truncate`). So it fails for the others alone, too,
and in the same way. `Failover.plan_accounts_for_uplinks` has both.
-/

namespace SiteRouter

/-! ## Warnings -/

theorem warnings_append (xs ys : List Note) :
    warnings (xs ++ ys) = warnings xs ++ warnings ys := by
  simp only [warnings, List.filter_append, List.map_append]

theorem warnings_map_warn {α : Type} (text : α → String) (xs : List α) :
    warnings (xs.map fun x => .warn (text x)) = xs.map text := by
  rw [warnings, List.filter_eq_self.mpr (by simp [Note.warn]), List.map_map]
  rfl

theorem warnings_map_debug {α : Type} (text : α → String) (xs : List α) :
    warnings (xs.map fun x => .debug (text x)) = [] := by
  rw [warnings, List.filter_eq_nil_iff.mpr (by simp [Note.debug]), List.map_nil]

namespace Failover

variable {uplinks : List Uplink} {probes : List Ipv4} {overflow : Overflow} {f : Failover}

/-! ## What is left out -/

/-- The ids of the uplinks that are not routed, each with the warning about it: those beyond the
probes, and then those that are configured by DHCP. -/
def leftOut (uplinks : List Uplink) (probes : List Ipv4) : List (String × String) :=
  (uplinks.drop probes.length).map (fun u =>
    (u.id, s!"uplink {u.id} exceeds the {probes.length} supported uplinks; not routed")) ++
  ((uplinks.take probes.length).filter fun u => decide (u.kind = .dhcp)).map fun u =>
    (u.id, s!"uplink {u.id} uses unsupported kind {u.kind.word}; skipped for failover routing")

theorem unsupported_eq : unsupported uplinks probes =
    (uplinks.take probes.length).filter fun u => decide (u.kind = .dhcp) := by
  simp only [unsupported, isRoutable_eq, decide_not, Bool.not_not]

theorem skipped_eq_leftOut (h : plan uplinks probes overflow = .ok f) :
    f.skipped = (leftOut uplinks probes).map Prod.fst := by
  rw [skipped_of_plan_eq_ok h, leftOut, unsupported_eq, dropped]
  simp only [List.map_append, List.map_map]
  rfl

/-- What is skipped is warned of, in the order in which it is listed. -/
theorem warnings_eq_leftOut (h : plan uplinks probes overflow = .ok f) :
    warnings (notes uplinks probes overflow) = (leftOut uplinks probes).map Prod.snd := by
  obtain ⟨hroom, hsound, -⟩ := plan_eq_ok_iff.mp h
  have hsound : ∀ u ∈ uplinks.take probes.length, u.error?.isNone = true := fun u hu =>
    Option.isNone_iff_eq_none.mpr (List.findSome?_eq_none_iff.mp hsound u hu)
  have hall : (uplinks.take probes.length).all (·.error?.isNone) = true :=
    List.all_eq_true.mpr hsound
  have hunsupported : ((uplinks.take probes.length).filter fun u => !u.kind.isRoutable) =
      (uplinks.take probes.length).filter fun u => decide (u.kind = .dhcp) := unsupported_eq
  simp only [notes_eq, hroom, List.takeWhile_eq_self_iff.mpr hsound, hall,
    hunsupported, dropped, Bool.false_eq_true, if_false, if_true, warnings_append,
    warnings_map_warn, warnings_map_debug, List.append_nil, leftOut, List.map_append, List.map_map]
  rfl

/-! ## What is routed -/

/-- Where nothing is lacking, the uplinks with a probe are routed if their kind can be. -/
theorem uplinks_hops (hsound : ∀ u ∈ uplinks.take probes.length, u.error? = none) :
    (hops uplinks probes).map (·.uplink) =
      (uplinks.take probes.length).filter (·.kind.isRoutable) := by
  rw [map_hops (k := fun x => x.1.1) fun _ => rfl, ← map_uplink_placed, List.filter_map]
  refine congrArg _ (List.filter_congr fun x hx => ?_)
  have hmem : x.1.1 ∈ uplinks.take probes.length := by
    rw [← map_uplink_placed]
    exact List.mem_map.mpr ⟨x, hx, rfl⟩
  rw [isSome_gateway? (hsound x.1.1 hmem), ← isRoutable_eq]
  rfl

/-- The first items of a list that pass a test, the rest of the list, and the first items that do
not pass are the whole list. -/
theorem filter_take_append_perm {α : Type} (p : α → Bool) (n : Nat) (xs : List α) :
    ((xs.take n).filter p ++ (xs.drop n ++ (xs.take n).filter fun x => !p x)).Perm xs := by
  have hcomm : ∀ a b c : List α, (a ++ (b ++ c)).Perm (a ++ c ++ b) := by
    intro a b c
    rw [List.append_assoc]
    exact List.perm_append_comm.append_left a
  have hjoined := (hcomm _ _ _).trans
    ((List.filter_append_perm p (xs.take n)).append_right (xs.drop n))
  rwa [List.take_append_drop] at hjoined

/-- Every uplink is either routed or skipped. -/
theorem ids_perm (h : plan uplinks probes overflow = .ok f) :
    (f.uplinks.map (·.uplink) ++ f.skipped).Perm (uplinks.map (·.id)) := by
  obtain ⟨hsound, hf⟩ := of_plan_eq_ok h
  have hrouted : f.uplinks.map (·.uplink) =
      ((uplinks.take probes.length).filter (·.kind.isRoutable)).map (·.id) := by
    rw [hf, ← uplinks_hops hsound, List.map_map, List.map_map]
    rfl
  rw [hrouted, skipped_of_plan_eq_ok h, ← List.map_append]
  exact (filter_take_append_perm (·.kind.isRoutable) probes.length uplinks).map _

/-! ## Truncation -/

theorem zip_take_length {α β : Type} (xs : List α) (ys : List β) :
    (xs.take ys.length).zip ys = xs.zip ys := by
  induction ys generalizing xs with
  | nil => simp
  | cons y ys ih =>
    cases xs with
    | nil => rfl
    | cons x xs => rw [List.length_cons, List.take_succ_cons, List.zip_cons_cons, ih,
        List.zip_cons_cons]

/-- Leaving out the uplinks without a probe is planning the others, with more skipped. -/
theorem plan_truncate (uplinks : List Uplink) (probes : List Ipv4) :
    plan uplinks probes .truncate =
      (plan (uplinks.take (min uplinks.length probes.length)) probes .reject).map fun f =>
        { f with skipped := (uplinks.drop probes.length).map (·.id) ++ f.skipped } := by
  have hleading : uplinks.take (min uplinks.length probes.length) = uplinks.take probes.length := by
    rw [List.take_eq_take_iff]
    omega
  have hroom : overflows uplinks probes .truncate = false := by simp [overflows]
  have hroom' : overflows (uplinks.take probes.length) probes .reject = false := by
    have hlength : ¬probes.length < (uplinks.take probes.length).length := by
      rw [List.length_take]
      omega
    rw [overflows, decide_eq_false hlength, Bool.false_and]
  have hhops : hops (uplinks.take probes.length) probes = hops uplinks probes := by
    rw [hops, placed, zip_take_length, hops, placed]
  rw [hleading, plan_eq, plan_eq, hroom, hroom', hhops, List.take_take, Nat.min_self]
  cases (uplinks.take probes.length).findSome? Uplink.error? with
  | some e => rfl
  | none =>
    simp [Except.map, dropped, unsupported, List.take_take]

/-- **A plan accounts for every uplink, and leaving out uplinks is planning the others.** Without
the uplinks that have no probe there is the same plan or the same failure, however many there are;
and whatever is planned, each uplink is routed or skipped, with one warning for each that is
skipped, in the same order. -/
theorem plan_accounts_for_uplinks (uplinks : List Uplink) (probes : List Ipv4) :
    let first := uplinks.take (min uplinks.length probes.length)
    (∀ e, plan uplinks probes .truncate = .error e ↔ plan first probes .reject = .error e) ∧
      (∀ f, plan uplinks probes .truncate = .ok f ↔ ∃ g, plan first probes .reject = .ok g ∧
        f.uplinks = g.uplinks ∧
        f.skipped = (uplinks.drop (min uplinks.length probes.length)).map (·.id) ++ g.skipped) ∧
      ∀ overflow f, plan uplinks probes overflow = .ok f →
        (f.uplinks.map (·.uplink) ++ f.skipped).Perm (uplinks.map (·.id)) ∧
        f.skipped = (leftOut uplinks probes).map Prod.fst ∧
        warnings (notes uplinks probes overflow) = (leftOut uplinks probes).map Prod.snd := by
  intro first
  have hdrop : uplinks.drop (min uplinks.length probes.length) = uplinks.drop probes.length := by
    rw [List.drop_eq_drop_iff]
    omega
  rw [plan_truncate, hdrop]
  refine ⟨fun e => map_eq_error, fun f => ?_, fun overflow f h => ?_⟩
  · rw [map_eq_ok]
    refine exists_congr fun g => and_congr_right fun _ => ?_
    constructor
    · rintro rfl
      exact ⟨rfl, rfl⟩
    · rintro ⟨huplinks, hskipped⟩
      rw [← huplinks, ← hskipped]
  · exact ⟨ids_perm h, skipped_eq_leftOut h, warnings_eq_leftOut h⟩

/-- With two probes a DHCP uplink is skipped before the cut and one behind it, next to a static
uplink that could not be planned. -/
theorem plan_accounts_for_uplinks_behind_cut :
    let uplinks : List Uplink := [
      ⟨"cable", "ether1", .dhcp⟩,
      ⟨"dsl", "ether2", .pppoe (some "user") none⟩,
      ⟨"spare", "ether3", .static none none⟩,
      ⟨"mobile", "ether4", .dhcp⟩]
    let probes : List Ipv4 := [⟨0x01010101, by decide⟩, ⟨0x08080808, by decide⟩]
    ∃ f, plan uplinks probes .truncate = .ok f ∧ f.skipped = ["spare", "mobile", "cable"] ∧
      (f.uplinks.map (·.uplink) ++ f.skipped).Perm ["cable", "dsl", "spare", "mobile"] ∧
      warnings (notes uplinks probes .truncate) = [
        "uplink spare exceeds the 2 supported uplinks; not routed",
        "uplink mobile exceeds the 2 supported uplinks; not routed",
        "uplink cable uses unsupported kind dhcp; skipped for failover routing"] := by
  intro uplinks probes
  have h : plan uplinks probes .truncate = .ok _ := rfl
  obtain ⟨hperm, -, hwarnings⟩ := (plan_accounts_for_uplinks uplinks probes).2.2 _ _ h
  exact ⟨_, h, rfl, hperm, hwarnings.trans (by decide)⟩

end Failover

end SiteRouter

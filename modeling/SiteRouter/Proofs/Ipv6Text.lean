import SiteRouter.Address.Ipv6
import SiteRouter.Proofs.AddressText

/-!
# IPv6 addresses as text

The text of an IPv6 address writes its groups with colons between them, leaves out a run of zero
groups where there is one, and ends in dotted decimal where the address stands for an IPv4 address.
The reader looks for the gap first. `cutAtGap_groupsChars` says that written groups never hold one,
so that the gap it finds is the one that was left, and `exists_longestZeros` says that what was left
out are as many zeros as are missing from eight groups.

An address of either family is read back from its text (`IpAddress.ofString?_render`): no IPv6
address is taken for an IPv4 address.
-/

namespace SiteRouter

/-! ## Texts that are no IPv4 addresses -/

namespace Ipv4

theorem ofChars?_of_no_dots {octet? : List Char → Option (Fin 256)} {cs : List Char}
    (h : '.' ∉ cs) : ofChars? octet? cs = none := by
  rw [ofChars?, Text.fieldsAt_of_not_mem h]

theorem ofChars?_of_colon (r : List Char) : ofChars? octet? (':' :: r) = none := by
  obtain ⟨f, fs, hfields⟩ := List.exists_cons_of_ne_nil (Text.fieldsAt_ne_nil '.' r)
  have hcolon : Text.fieldsAt '.' (':' :: r) = (':' :: f) :: fs := by
    rw [Text.fieldsAt, hfields]
    rfl
  have hoctet : octet? (':' :: f) = none := by
    have hpadded : paddedOctet? (':' :: f) = none := by
      rw [paddedOctet?, Text.number?, if_neg (fun hall => by simp +decide at hall)]
      rfl
    rw [octet?, hpadded, ite_self]
  rw [ofChars?, hcolon]
  split
  next heq =>
    obtain ⟨rfl, -⟩ := List.cons.inj heq
    rw [hoctet]
    rfl
  next => rfl

end Ipv4

namespace Ipv6

/-! ## Groups -/

theorem group?_groupChars (g : Group) : group? (groupChars g) = some g := by
  have hdigits : (Nat.toDigits 16 g.val).length ≤ 4 :=
    (Nat.length_toDigits_le_iff (by decide) (by decide)).mpr g.isLt
  rw [group?, groupChars, Text.number?_toDigits (by decide) (by decide) hdigits]
  exact dif_pos g.isLt

theorem not_mem_groupChars {c : Char} (hc : Text.isDigitIn 16 c = false) (g : Group) :
    c ∉ groupChars g := by
  intro h
  rw [Text.isDigitIn_of_mem_toDigits (by decide) (by decide) h] at hc
  exact Bool.false_ne_true hc.symm

theorem groupsOfFields?_map (gs : List Group) : groupsOfFields? (gs.map groupChars) = some gs := by
  induction gs with
  | nil => rfl
  | cons g gs ih =>
    cases gs with
    | nil =>
      -- The last field may be dotted decimal, and is tried as such before it is read as a group.
      have hdot : '.' ∉ groupChars g := not_mem_groupChars (by decide) g
      rw [List.map_singleton, groupsOfFields?, Ipv4.ofChars?_of_no_dots hdot, group?_groupChars]
      rfl
    | cons g' gs =>
      rw [List.map_cons, List.map_cons, groupsOfFields?, group?_groupChars, ← List.map_cons, ih]
      · rfl
      · exact List.cons_ne_nil _ _

/-- The text of groups starts with a digit of the first one. -/
theorem exists_groupsChars_cons (g : Group) (gs : List Group) :
    ∃ c r, groupsChars (g :: gs) = c :: r ∧ c ∈ groupChars g := by
  have hne : groupChars g ≠ [] := Nat.toDigits_ne_nil
  obtain ⟨c, cs, hg⟩ := List.exists_cons_of_ne_nil hne
  have hc : c ∈ groupChars g := by
    rw [hg]
    exact List.mem_cons_self ..
  cases gs with
  | nil => exact ⟨c, cs, hg, hc⟩
  | cons g' gs =>
    have hchars : groupsChars (g :: g' :: gs) = groupChars g ++ ':' :: groupsChars (g' :: gs) := rfl
    exact ⟨c, cs ++ ':' :: groupsChars (g' :: gs), by rw [hchars, hg, List.cons_append], hc⟩

/-- Groups are read back from their text. -/
theorem groupsOfChars?_groupsChars (gs : List Group) :
    groupsOfChars? (groupsChars gs) = some gs := by
  cases gs with
  | nil => rfl
  | cons g gs =>
    have hfields : Text.fieldsAt ':' (groupsChars (g :: gs)) = (g :: gs).map groupChars := by
      refine Text.fieldsAt_joinWith (List.cons_ne_nil _ _) fun f hf => ?_
      obtain ⟨g, -, rfl⟩ := List.mem_map.mp hf
      exact not_mem_groupChars (by decide) g
    obtain ⟨c, r, hchars, -⟩ := exists_groupsChars_cons g gs
    have hne : groupsChars (g :: gs) ≠ [] := by
      rw [hchars]
      exact List.cons_ne_nil c r
    rw [groupsOfChars?, if_neg hne, hfields, groupsOfFields?_map]

theorem dot_not_mem_groupsChars (gs : List Group) : '.' ∉ groupsChars gs := by
  intro h
  rcases Text.mem_joinWith h with hdot | ⟨f, hf, hdot⟩
  · exact absurd hdot (by decide)
  · obtain ⟨g, -, rfl⟩ := List.mem_map.mp hf
    exact not_mem_groupChars (by decide) g hdot

/-! ## The gap -/

/-- A text without colons has no part in a gap. -/
theorem cutAtGap_append {f : List Char} (hf : ':' ∉ f) (r : List Char) :
    cutAtGap (f ++ r) = (cutAtGap r).map fun (front, back) => (f ++ front, back) := by
  induction f with
  | nil => exact Option.map_id'.symm
  | cons c f ih =>
    rw [List.mem_cons, not_or] at hf
    rw [List.cons_append, cutAtGap, ih hf.2, Option.map_map]
    · rfl
    · exact fun _ hc => absurd hc.symm hf.1

/-- Written groups hold no gap. -/
theorem cutAtGap_groupsChars (gs : List Group) (r : List Char) :
    cutAtGap (groupsChars gs ++ r) =
      (cutAtGap r).map fun (front, back) => (groupsChars gs ++ front, back) := by
  have hcolon : ∀ g, ':' ∉ groupChars g := not_mem_groupChars (by decide)
  induction gs with
  | nil => exact Option.map_id'.symm
  | cons g gs ih =>
    cases gs with
    | nil => exact cutAtGap_append (hcolon g) r
    | cons g' gs =>
      obtain ⟨c, tail, htail, hc⟩ := exists_groupsChars_cons g' gs
      have hchars : groupsChars (g :: g' :: gs) ++ r =
          groupChars g ++ ':' :: (groupsChars (g' :: gs) ++ r) := List.append_assoc ..
      -- Behind the colon between two groups stands a digit, so no gap starts there.
      have hstep : cutAtGap (':' :: (groupsChars (g' :: gs) ++ r)) =
          (cutAtGap (groupsChars (g' :: gs) ++ r)).map
            fun (front, back) => (':' :: front, back) := by
        rw [htail, List.cons_append, cutAtGap]
        rintro r' - htail'
        obtain ⟨rfl, -⟩ := List.cons.inj htail'
        exact absurd hc (hcolon g')
      rw [hchars, cutAtGap_append (hcolon g), hstep, ih, Option.map_map, Option.map_map]
      refine congrArg (Option.map · _) (funext fun (front, back) => ?_)
      exact congrArg (·, back)
        (List.append_assoc (groupChars g) (':' :: groupsChars (g' :: gs)) front).symm

/-- The run of zeros that is left out stands where it is said to stand. -/
theorem exists_longestZeros (gs : List Group) : ∃ front back, gs =
    front ++ List.replicate (longestZeros gs).2 .zero ++ back ∧
      front.length = (longestZeros gs).1 := by
  induction gs with
  | nil => exact ⟨[], [], rfl, rfl⟩
  | cons g gs ih =>
    rw [longestZeros]
    split
    next =>
      -- The run starts with the first group.
      refine ⟨[], (g :: gs).dropWhile (· = .zero), ?_, rfl⟩
      have hzeros : (g :: gs).takeWhile (· = .zero) =
          List.replicate (zerosInFront (g :: gs)) .zero := by
        refine List.eq_replicate_iff.mpr ⟨rfl, fun b hb => ?_⟩
        exact of_decide_eq_true (List.all_eq_true.mp List.all_takeWhile b hb)
      rw [List.nil_append, ← hzeros, List.takeWhile_append_dropWhile]
    next =>
      -- It is the run of the other groups, one place further on.
      obtain ⟨front, back, hgs, hlength⟩ := ih
      refine ⟨g :: front, back, ?_, by rw [List.length_cons, hlength]⟩
      exact congrArg (g :: ·) hgs

/-! ## Addresses -/

theorem mark_lt : 0xffff < 0x10000 := by decide

theorem high_lt (a : Ipv4) : a.toNat / 0x10000 < 0x10000 := Nat.div_lt_of_lt_mul a.toNat_lt

theorem low_lt (a : Ipv4) : a.toNat % 0x10000 < 0x10000 := Nat.mod_lt _ (by decide)

/-- The groups that stand for an IPv4 address: zeros, a mark, and the halves of the address. -/
def mappedGroups (a : Ipv4) : List Group :=
  List.replicate 5 Group.zero ++ [⟨0xffff, mark_lt⟩, ⟨a.toNat / 0x10000, high_lt a⟩,
    ⟨a.toNat % 0x10000, low_lt a⟩]

theorem groups_of_mapped?_eq_some {a : Ipv6} {v4 : Ipv4} (h : a.mapped? = some v4) :
    a.groups = mappedGroups v4 := by
  unfold mapped? at h
  split at h
  next g₀ g₁ g₂ g₃ g₄ mark hi lo hgroups =>
    split at h
    next hmark =>
      obtain ⟨hzeros, hmark⟩ := hmark
      obtain rfl := Option.some.inj h
      have hhalves : (hi.val * 0x10000 + lo.val) / 0x10000 = hi.val ∧
          (hi.val * 0x10000 + lo.val) % 0x10000 = lo.val := by omega
      have hmark : mark = ⟨0xffff, mark_lt⟩ := Fin.ext hmark
      simp only [List.all_cons, List.all_nil, Bool.and_true, Bool.and_eq_true,
        decide_eq_true_iff] at hzeros
      obtain ⟨rfl, rfl, rfl, rfl, rfl⟩ := hzeros
      simp only [hgroups, hmark, mappedGroups, hhalves]
      rfl
    next => exact nomatch h
  next => exact nomatch h

/-- The text of an address that stands for an IPv4 address is read from its gap on. -/
theorem ofChars?_mapped (v4 : Ipv4) :
    ofChars? ("::ffff:" ++ v4.render).toList = ofGroups? (mappedGroups v4) := by
  have hchars : ("::ffff:" ++ v4.render).toList =
      ':' :: ':' :: (['f', 'f', 'f', 'f'] ++ ':' :: v4.render.toList) := by simp
  have hfields : Text.fieldsAt ':' (['f', 'f', 'f', 'f'] ++ ':' :: v4.render.toList) =
      [['f', 'f', 'f', 'f'], v4.render.toList] := by
    rw [Text.fieldsAt_append (by decide),
      Text.fieldsAt_of_not_mem (Ipv4.not_mem_render (by decide) (by decide) v4)]
  have hmark : group? ['f', 'f', 'f', 'f'] = some ⟨0xffff, mark_lt⟩ := by decide
  have hgroups : groupsOfChars? (['f', 'f', 'f', 'f'] ++ ':' :: v4.render.toList) =
      some ((mappedGroups v4).drop 5) := by
    have hread : Ipv4.ofChars? Ipv4.octet? v4.render.toList = some v4 := v4.ofString?_render
    rw [groupsOfChars?, if_neg (by simp), hfields, groupsOfFields?, hmark, groupsOfFields?, hread]
    · rfl
    · exact List.cons_ne_nil _ _
  have hgap : cutAtGap (':' :: ':' :: (['f', 'f', 'f', 'f'] ++ ':' :: v4.render.toList)) =
      some ([], ['f', 'f', 'f', 'f'] ++ ':' :: v4.render.toList) := rfl
  rw [hchars, ofChars?, hgap]
  simp only [hgroups]
  rfl

/-- An address with a gap is read by filling in the zeros that are missing. -/
theorem ofChars?_gap {front back : List Group} {count : Nat}
    (hlength : front.length + count + back.length = 8) (hcount : 2 ≤ count) :
    ofChars? (groupsChars front ++ [':', ':'] ++ groupsChars back) =
      ofGroups? (front ++ List.replicate count .zero ++ back) := by
  have hgap : cutAtGap (groupsChars front ++ ':' :: ':' :: groupsChars back) =
      some (groupsChars front, groupsChars back) := by
    rw [cutAtGap_groupsChars, cutAtGap, Option.map_some]
    exact congrArg (fun chars => some (chars, groupsChars back)) (List.append_nil _)
  have hdot : (groupsChars front).contains '.' = false := by
    rw [List.contains_eq_mem, decide_eq_false_iff_not]
    exact dot_not_mem_groupsChars front
  have hroom : front.length + back.length ≤ 7 := by omega
  have hmissing : 8 - front.length - back.length = count := by omega
  rw [List.append_assoc, List.cons_append, List.singleton_append, ofChars?, hgap]
  simp only [hdot, groupsOfChars?_groupsChars, Bool.false_eq_true, if_false]
  show (if front.length + back.length ≤ 7 then _ else none) = _
  rw [if_pos hroom, hmissing]

/-- An address is read back from its text. -/
theorem ofChars?_render (a : Ipv6) : ofChars? a.render.toList = some a := by
  have hgroups : ofGroups? a.groups = some a := dif_pos a.length_groups
  rw [render]
  split
  next v4 hmapped => rw [ofChars?_mapped, ← groups_of_mapped?_eq_some hmapped, hgroups]
  next =>
    split
    next start count hzeros =>
      rw [String.toList_ofList]
      -- A single zero group is written out.
      split
      next hcount =>
        obtain ⟨front, back, hsplit, rfl⟩ : ∃ front back, a.groups =
            front ++ List.replicate count .zero ++ back ∧ front.length = start := by
          have hlongest := exists_longestZeros a.groups
          rwa [hzeros] at hlongest
        have hlength := a.length_groups
        have htake : a.groups.take front.length = front := by
          rw [hsplit, List.append_assoc, List.take_left]
        have hdrop : a.groups.drop (front.length + count) = back := by
          rw [hsplit, List.drop_left' (by simp)]
        rw [hsplit, List.length_append, List.length_append, List.length_replicate] at hlength
        rw [htake, hdrop, ofChars?_gap hlength hcount, ← hsplit, hgroups]
      next =>
        have hgap := cutAtGap_groupsChars a.groups []
        rw [List.append_nil] at hgap
        rw [ofChars?, hgap]
        show (groupsOfChars? (groupsChars a.groups)).bind ofGroups? = some a
        rw [groupsOfChars?_groupsChars, Option.bind_some, hgroups]

/-- The text of an address is not that of an IPv4 address. -/
theorem ofString?_render_v4 (a : Ipv6) : Ipv4.ofString? a.render = none := by
  rw [Ipv4.ofString?, render]
  split
  next v4 _ =>
    rw [String.toList_append]
    exact Ipv4.ofChars?_of_colon (':' :: "ffff:".toList ++ v4.render.toList)
  next =>
    refine Ipv4.ofChars?_of_no_dots ?_
    rw [String.toList_ofList]
    split <;> simp [dot_not_mem_groupsChars]

end Ipv6

/-- An address of either family is read back from its text. -/
theorem IpAddress.ofString?_render (a : IpAddress) : ofString? a.render = some a := by
  cases a with
  | v4 a => rw [ofString?, render, Ipv4.ofString?_render]
  | v6 a =>
    rw [ofString?, render, a.ofString?_render_v4]
    exact congrArg (Option.map v6) a.ofChars?_render

end SiteRouter

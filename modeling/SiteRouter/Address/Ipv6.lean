import SiteRouter.Address.Ipv4

/-!
# IPv6 addresses

An address is eight groups of sixteen bits. It is written in the canonical text form: groups in
lower-case hexadecimal without needless zeros, the first of the longest runs of two or more zero
groups as `::`, and the last two groups in dotted decimal when the address stands for an IPv4
address (`::ffff:a.b.c.d`). Any text form with at most one `::` is read, in either case of letters;
one `::` stands for at least one group, and no zone may follow.
-/

namespace SiteRouter

/-- Sixteen bits of an IPv6 address. -/
abbrev Group := Fin 65536

/-- The group without any bit. -/
def Group.zero : Group := ⟨0, by decide⟩

/-- An IPv6 address as its eight groups, the most significant first. -/
structure Ipv6 where
  groups : List Group
  length_groups : groups.length = 8
  deriving DecidableEq, Repr

namespace Ipv6

/-- A group in lower-case hexadecimal. -/
def groupChars (g : Group) : List Char := Nat.toDigits 16 g.val

/-- Groups with colons between them. -/
def groupsChars (gs : List Group) : List Char := Text.joinWith ':' (gs.map groupChars)

/-- How many zero groups stand in front. -/
def zerosInFront (gs : List Group) : Nat := (gs.takeWhile (· = .zero)).length

/-- Where the first of the longest runs of zero groups starts, and how long it is. -/
def longestZeros : List Group → Nat × Nat
  | [] => (0, 0)
  | g :: gs =>
    let here := zerosInFront (g :: gs)
    let later := longestZeros gs
    -- Of runs of one length the first wins.
    if later.2 ≤ here then (0, here) else (later.1 + 1, later.2)

/-- The IPv4 address that the address stands for, if it does. -/
def mapped? (a : Ipv6) : Option Ipv4 :=
  match a.groups with
  | [g₀, g₁, g₂, g₃, g₄, mark, hi, lo] =>
    if [g₀, g₁, g₂, g₃, g₄].all (· = .zero) ∧ mark.val = 0xffff then
      some ⟨hi.val * 0x10000 + lo.val, by omega⟩
    else none
  | _ => none

/-- The canonical text form. -/
def render (a : Ipv6) : String :=
  match a.mapped? with
  | some v4 => "::ffff:" ++ v4.render
  | none =>
    let (start, count) := longestZeros a.groups
    String.ofList <|
      if 2 ≤ count then
        groupsChars (a.groups.take start) ++ [':', ':'] ++
          groupsChars (a.groups.drop (start + count))
      else groupsChars a.groups

/-- Reads one to four hexadecimal digits. -/
def group? (cs : List Char) : Option Group :=
  (Text.number? 16 1 4 cs).bind fun n => if h : n < 65536 then some ⟨n, h⟩ else none

/-- Reads fields as groups, of which the last may be an IPv4 address that fills two groups. -/
def groupsOfFields? : List (List Char) → Option (List Group)
  | [] => some []
  | [f] =>
    match Ipv4.ofChars? Ipv4.octet? f with
    | some v4 => some [⟨v4.toNat / 0x10000, by have := v4.toNat_lt; omega⟩,
        ⟨v4.toNat % 0x10000, by omega⟩]
    | none => (group? f).map ([·])
  | f :: fs => do return (← group? f) :: (← groupsOfFields? fs)

/-- Reads groups with colons between them; the empty text holds none. -/
def groupsOfChars? (cs : List Char) : Option (List Group) :=
  if cs = [] then some [] else groupsOfFields? (Text.fieldsAt ':' cs)

/-- What stands before and after the first `::`, if there is one. -/
def cutAtGap : List Char → Option (List Char × List Char)
  | ':' :: ':' :: r => some ([], r)
  | c :: r => (cutAtGap r).map fun (front, back) => (c :: front, back)
  | [] => none

/-- The address with those groups, if there are eight. -/
def ofGroups? (gs : List Group) : Option Ipv6 :=
  if h : gs.length = 8 then some ⟨gs, h⟩ else none

/-- Reads any text form. An IPv4 address can only be the end of the whole text. -/
def ofChars? (cs : List Char) : Option Ipv6 :=
  match cutAtGap cs with
  | none => (groupsOfChars? cs).bind ofGroups?
  | some (front, back) => do
    let front ← if front.contains '.' then none else groupsOfChars? front
    let back ← groupsOfChars? back
    if front.length + back.length ≤ 7 then
      ofGroups? (front ++ List.replicate (8 - front.length - back.length) .zero ++ back)
    else none

end Ipv6

/-- An address of either family. -/
inductive IpAddress where
  | v4 (address : Ipv4)
  | v6 (address : Ipv6)
  deriving DecidableEq, Repr

namespace IpAddress

/-- The address as it is written. -/
def render : IpAddress → String
  | .v4 a => a.render
  | .v6 a => a.render

/-- The IPv4 address, if it is one. -/
def v4? : IpAddress → Option Ipv4
  | .v4 a => some a
  | .v6 _ => none

/-- Reads an address of either family. -/
def ofString? (s : String) : Option IpAddress :=
  match Ipv4.ofString? s with
  | some a => some (.v4 a)
  | none => (Ipv6.ofChars? s.toList).map .v6

end IpAddress

end SiteRouter

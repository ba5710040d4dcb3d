import SiteRouter.Document.Source
import SiteRouter.Proofs.Ipv6Text
import SiteRouter.Proofs.JsonText
import SiteRouter.Site.Encode

/-!
# Sites read back from their documents

A site is written out as a document value, and the reader of that value gives the site back
(`Site.ofValue_toValue`), because each part of it does: a field is found under its name, an absent
value under the name of the field that may be absent, the kind of an uplink among the fields of the
uplink, and addresses in the texts they are written as.

The value is plain, so that its text is read back too, and with it the site
(`Site.document_gives_back`).
-/

namespace SiteRouter

open Document

/-! ## Single values -/

theorem text?_text (s : String) : Value.text? (.text s) = some s := rfl

theorem nullable_textOrNull (s : Option String) :
    nullable Value.text? (textOrNull s) = some s := by
  cases s <;> rfl

theorem nullable_written {α : Type} {ofString? : String → Option α} {render : α → String}
    (h : ∀ a, ofString? (render a) = some a) (a : Option α) :
    nullable (written ofString?) (textOrNull (a.map render)) = some a := by
  cases a with
  | none => rfl
  | some a =>
    show (written ofString? (.text (render a))).map some = some (some a)
    rw [written_text h, Option.map_some]

theorem VlanId.ofValue_natural (vlan : VlanId) : ofValue (.natural vlan.val) = some vlan := by
  have hrange : 0 ≤ (vlan.val : Int) ∧ (vlan.val : Int) < 65536 := by omega
  rw [ofValue, Value.int?, Option.bind_some, dif_pos hrange]
  rfl

theorem Hardware.word_toValue (format : Format) (h : Hardware) :
    Document.word format words (.text h.word) = some h := by
  cases h <;> rfl

theorem Role.word_toValue (format : Format) (r : Role) :
    Document.word format words (.text r.word) = some r := by
  cases r <;> rfl

/-! ## Records -/

variable {format : Format}

theorem Management.ofValue_toValue (m : Management) : ofValue format m.toValue = some m :=
  fields?_bind (by simp) <|
    required_bind rfl rfl <|
    required_bind rfl rfl <|
    optional_bind rfl (nullable_textOrNull m.adminPassword) rfl

theorem Port.ofValue_toValue (p : Port) : ofValue format p.toValue = some p :=
  fields?_bind (by simp) <|
    required_bind rfl rfl <|
    required_bind rfl (p.hardware.word_toValue format) <|
    required_bind rfl (p.role.word_toValue format) rfl

theorem Network.ofValue_toValue (n : Network) : ofValue format n.toValue = some n :=
  fields?_bind (by simp) <|
    required_bind rfl rfl <|
    required_bind rfl rfl <|
    required_bind rfl (VlanId.ofValue_natural n.vlan) <|
    required_bind rfl (written_text Cidr.ofString?_render n.cidr) <|
    optional_bind rfl rfl <|
    optional_bind rfl rfl rfl

theorem Steering.ofValue_toValue (s : Steering) : ofValue format s.toValue = some s :=
  fields?_bind (by simp) <|
    optional_bind rfl rfl <|
    optional_bind rfl (keyedOf_map text?_text s.mapping) rfl

theorem Resolver.ofValue_toValue (r : Resolver) : ofValue format r.toValue = some r :=
  fields?_bind (by simp) <|
    required_bind rfl (listOf_map (written_text IpAddress.ofString?_render) r.servers) <|
    optional_bind rfl rfl rfl

/-! ## Variants -/

/-- A value that is whole and not deep can be kept aside in either format. -/
theorem canKeepAside_of_depth_le {v : Value} (hwhole : v.isWhole = true)
    (hdepth : v.depth ≤ asideLimit) (format : Format) : canKeepAside format v = true := by
  rw [canKeepAside, hwhole, decide_eq_true hdepth, Bool.or_true, Bool.and_true]

theorem canKeepAside_text (format : Format) (s : String) : canKeepAside format (.text s) = true :=
  canKeepAside_of_depth_le rfl (Nat.zero_le _) format

theorem canKeepAside_textOrNull (format : Format) (s : Option String) :
    canKeepAside format (textOrNull s) = true := by
  cases s with
  | none => exact canKeepAside_of_depth_le rfl (Nat.zero_le _) format
  | some s => exact canKeepAside_text format s

theorem canKeepAside_vlan (format : Format) (vlan : VlanId) :
    canKeepAside format (.natural vlan.val) = true :=
  canKeepAside_of_depth_le rfl (Nat.zero_le _) format

theorem canKeepAside_vlans (format : Format) (vlans : List VlanId) :
    canKeepAside format (.list (vlans.map fun v => .natural v.val)) = true := by
  have hitems : Value.isWholeList (vlans.map fun v => .natural v.val) = true ∧
      Value.depthOfList (vlans.map fun v => .natural v.val) = 0 := by
    induction vlans with
    | nil => exact ⟨rfl, rfl⟩
    | cons v vlans ih => simp [Value.isWholeList, Value.depthOfList, Value.isWhole, Value.depth, ih]
  have hdepth : (Value.list (vlans.map fun v => .natural v.val)).depth = 1 := by
    rw [Value.depth, hitems.2]
  refine canKeepAside_of_depth_le ?_ (hdepth ▸ by decide) format
  rw [Value.isWhole, hitems.1]

theorem UplinkKind.ofEntries_toEntries (k : UplinkKind) : ofEntries k.toEntries = some k := by
  cases k with
  | pppoe username password =>
    have hkind : theOnly? "kind" (pppoe username password).toEntries = some (.text "pppoe") := rfl
    have htag : Tag.ofValue (.text "pppoe") = some .pppoe := rfl
    have hrest : (pppoe username password).toEntries.filter (·.1 != "kind") =
      [("username", textOrNull username), ("password", textOrNull password)] := rfl
    rw [ofEntries, hkind, hrest]
    simp only [Option.bind_eq_bind, Option.bind_some, htag]
    exact fields?_bind (by simp) <|
      optional_bind rfl (nullable_textOrNull username) <|
      optional_bind rfl (nullable_textOrNull password) rfl
  | «static» address gateway =>
    have hkind : theOnly? "kind" (UplinkKind.static address gateway).toEntries =
      some (.text "static") := rfl
    have htag : Tag.ofValue (.text "static") = some .static := rfl
    have hrest : (UplinkKind.static address gateway).toEntries.filter (·.1 != "kind") =
      [("address", textOrNull (address.map Cidr.render)),
        ("gateway", textOrNull (gateway.map Ipv4.render))] := rfl
    rw [ofEntries, hkind, hrest]
    simp only [Option.bind_eq_bind, Option.bind_some, htag]
    exact fields?_bind (by simp) <|
      optional_bind rfl (nullable_written Cidr.ofString?_render address) <|
      optional_bind rfl (nullable_written Ipv4.ofString?_render gateway) rfl
  | dhcp => rfl

/-- The fields of an uplink's kind stand beside its own. They are kept aside until the kind is
known. -/
theorem Uplink.ofValue_toValue (u : Uplink) : ofValue format u.toValue = some u := by
  obtain ⟨id, interface, kind⟩ := u
  have hid : theOnly? "id" (("id", .text id) :: ("interface", .text interface) :: kind.toEntries) =
      some (.text id) := by
    cases kind <;> rfl
  have hinterface : theOnly? "interface" (("id", .text id) :: ("interface", .text interface) ::
      kind.toEntries) = some (.text interface) := by
    cases kind <;> rfl
  have haside : (("id", Value.text id) :: ("interface", .text interface) ::
      kind.toEntries).filter (fun e => !(e.1 == "id" || e.1 == "interface")) = kind.toEntries := by
    cases kind <;> rfl
  have hkeep : (kind.toEntries.all fun e => canKeepAside format e.2) = true := by
    cases kind <;>
      simp [UplinkKind.toEntries.eq_def, canKeepAside_text, canKeepAside_textOrNull]
  rw [toValue, ofValue]
  simp only [Value.table?, Option.bind_eq_bind, Option.bind_some, hid, hinterface, haside, hkeep,
    Value.text?, UplinkKind.ofEntries_toEntries]
  exact if_pos trivial

/-- A table is read by its mode, with the other fields kept aside. -/
theorem Assignment.ofValue_table {entries : List (String × Value)} {mode : Value} {a : Assignment}
    (hmode : theOnly? "mode" entries = some mode)
    (hkeep : ((entries.filter (·.1 != "mode")).all fun e => canKeepAside format e.2) = true)
    (hparts : ofParts mode (.table (entries.filter (·.1 != "mode"))) = some a) :
    ofValue format (.table entries) = some a := by
  show (if ((entries.filter (·.1 != "mode")).all fun e => canKeepAside format e.2) then
    (theOnly? "mode" entries).bind fun mode =>
      ofParts mode (.table (entries.filter (·.1 != "mode"))) else none) = some a
  rw [if_pos hkeep, hmode, Option.bind_some, hparts]

theorem Assignment.ofValue_toValue (a : Assignment) : ofValue format a.toValue = some a := by
  cases a with
  | access pvid =>
    refine ofValue_table rfl ?_ (fields?_bind (by simp) <|
      required_bind rfl (VlanId.ofValue_natural pvid) rfl)
    simp [canKeepAside_vlan]
  | trunk native allowed =>
    refine ofValue_table rfl ?_ (fields?_bind (by simp) <|
      optional_bind rfl (VlanId.ofValue_natural native) <|
      optional_bind rfl (listOf_map VlanId.ofValue_natural allowed) rfl)
    simp [canKeepAside_vlan, canKeepAside_vlans]

/-! ## Sites -/

theorem Site.ofValue_toValue (s : Site) : ofValue format s.toValue = some s :=
  fields?_bind (by simp) <|
    required_bind rfl rfl <|
    required_bind rfl s.management.ofValue_toValue <|
    optional_bind rfl (listOf_map Port.ofValue_toValue s.ports) <|
    optional_bind rfl (listOf_map Uplink.ofValue_toValue s.uplinks) <|
    optional_bind rfl (listOf_map Network.ofValue_toValue s.networks) <|
    optional_bind rfl (keyedOf_map Assignment.ofValue_toValue s.assignments) <|
    optional_bind rfl s.steering.ofValue_toValue <|
    required_bind rfl s.resolver.ofValue_toValue rfl

/-! ## Plain documents -/

theorem isPlain_textOrNull (s : Option String) : (textOrNull s).IsPlain := by
  cases s with
  | none => exact .null
  | some s => exact .text s

theorem isPlain_vlan (vlan : VlanId) : (Value.natural vlan.val).IsPlain :=
  .natural _ (Nat.lt_trans vlan.isLt (by decide))

/-- What is made of items is plain when each is. -/
theorem isPlain_list_map {α : Type} {encode : α → Value} (h : ∀ a, (encode a).IsPlain)
    (xs : List α) : (Value.list (xs.map encode)).IsPlain :=
  .list _ (List.forall_mem_map.mpr fun a _ => h a)

theorem isPlain_table_map {α : Type} {encode : α → Value} (h : ∀ a, (encode a).IsPlain)
    (m : Keyed α) : (Value.table (m.entries.map fun e => (e.1, encode e.2))).IsPlain :=
  .table _ (List.forall_mem_map.mpr fun e _ => h e.2)

theorem Uplink.isPlain_toValue (u : Uplink) : u.toValue.IsPlain := by
  refine .table _ ?_
  cases u.kind <;>
    simp [UplinkKind.toEntries.eq_def, Value.IsPlain.text, isPlain_textOrNull]

theorem Assignment.isPlain_toValue (a : Assignment) : a.toValue.IsPlain := by
  cases a with
  | access pvid => exact .table _ (by simp [Value.IsPlain.text, isPlain_vlan])
  | trunk native allowed =>
    have hallowed := isPlain_list_map isPlain_vlan allowed
    exact .table _ (by simp [Value.IsPlain.text, isPlain_vlan, hallowed])

/-- The document of a site holds nothing that is printed otherwise than it is read. -/
theorem Site.isPlain_toValue (s : Site) : s.toValue.IsPlain := by
  have hmanagement : s.management.toValue.IsPlain :=
    .table _ (by simp [Value.IsPlain.text, isPlain_textOrNull])
  have hport : ∀ p : Port, p.toValue.IsPlain := fun p =>
    .table _ (by simp [Value.IsPlain.text])
  have hnetwork : ∀ n : Network, n.toValue.IsPlain := fun n =>
    .table _ (by simp [Value.IsPlain.text, Value.IsPlain.bool, isPlain_vlan])
  have hmapping := isPlain_table_map Value.IsPlain.text s.steering.mapping
  have hsteering : s.steering.toValue.IsPlain :=
    .table _ (by simp [Value.IsPlain.bool, hmapping])
  have hservers := isPlain_list_map (fun a : IpAddress => .text a.render) s.resolver.servers
  have hresolver : s.resolver.toValue.IsPlain :=
    .table _ (by simp [Value.IsPlain.bool, hservers])
  refine .table _ ?_
  simp [Value.IsPlain.text, hmanagement, isPlain_list_map hport, isPlain_list_map hnetwork,
    isPlain_list_map Uplink.isPlain_toValue, isPlain_table_map Assignment.isPlain_toValue,
    hsteering, hresolver]

/-- **A site is read back from its document.** Whatever its parts are, decoding the value that a
site is written out as gives the same site, with its assignments and its mapping in the same order,
and so does reading the text of that value. -/
theorem Site.document_gives_back (s : Site) : Site.ofValue .json s.toValue = some s ∧
    ∀ origin, Site.ofText .json origin (Json.render s.toValue) = .ok s := by
  refine ⟨s.ofValue_toValue, fun origin => ?_⟩
  have hread : Format.json.read (Json.render s.toValue) = some s.toValue :=
    Json.read_render s.isPlain_toValue
  rw [ofText, hread, Option.bind_some, ofValue_toValue]

end SiteRouter

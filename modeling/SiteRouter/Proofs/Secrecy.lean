import SiteRouter.Plan.Render
import SiteRouter.Proofs.Alignment
import SiteRouter.Proofs.Heartbeat
import SiteRouter.Proofs.Positions
import SiteRouter.Proofs.Redaction
import SiteRouter.Proofs.UplinkSetup

/-!
# Secrets are not shown

`Site.EqualButSecrets` relates two sites that differ in nothing but their secrets, which are the
token, the password of the administrator and the passwords of PPPoE uplinks. The two come to the
same redacted site, and so to the same findings, plan and report.

Their scripts are written from one profile and one plan. They are aligned line by line, and
`HoldSecrets` lists the lines that may differ: the one that creates the account, the one that stores
the script of the heartbeat, and those that create the clients of uplinks with different passwords.
`secrets_stay_hidden` puts the two parts together.
-/

namespace SiteRouter

open Script

/-! ## Sites -/

/-- The sites are equal but for the token, which is blank in both or in none, the password of the
administrator, which both have or none, and the passwords of PPPoE uplinks. -/
structure Site.EqualButSecrets (s t : Site) : Prop where
  identity : s.identity = t.identity
  token : Text.isBlankText s.management.token = Text.isBlankText t.management.token
  heartbeatUrl : s.management.heartbeatUrl = t.management.heartbeatUrl
  adminPassword : s.management.adminPassword.isSome = t.management.adminPassword.isSome
  ports : s.ports = t.ports
  uplinks : s.uplinks.map Uplink.withoutPassword = t.uplinks.map Uplink.withoutPassword
  networks : s.networks = t.networks
  assignments : s.assignments = t.assignments
  steering : s.steering = t.steering
  resolver : s.resolver = t.resolver

theorem Site.EqualButSecrets.redacted_eq {s t : Site} (h : s.EqualButSecrets t) :
    s.redacted = t.redacted := by
  have hpassword : s.management.adminPassword.map (fun _ => "") =
      t.management.adminPassword.map fun _ => "" := by
    have hsome := h.adminPassword
    revert hsome
    cases s.management.adminPassword <;> cases t.management.adminPassword <;> simp
  simp only [redacted, Management.redacted, h.identity, h.token, h.heartbeatUrl, hpassword, h.ports,
    h.uplinks, h.networks, h.assignments, h.steering, h.resolver]

/-- Uplinks that are equal without their passwords are equal, or both are PPPoE uplinks. -/
theorem Uplink.eq_or_of_withoutPassword_eq {u v : Uplink}
    (h : u.withoutPassword = v.withoutPassword) : u = v ∨
      ∃ id interface username password password', password ≠ password' ∧
        u = ⟨id, interface, .pppoe username password⟩ ∧
        v = ⟨id, interface, .pppoe username password'⟩ := by
  obtain ⟨id, interface, kind⟩ := u
  obtain ⟨id', interface', kind'⟩ := v
  obtain ⟨rfl, rfl, hkind⟩ := Uplink.mk.inj h
  cases kind <;> cases kind' <;> simp only [UplinkKind.withoutPassword, UplinkKind.pppoe.injEq,
    UplinkKind.static.injEq, and_true, reduceCtorEq] at hkind
  case pppoe.pppoe username password username' password' =>
    obtain rfl := hkind
    by_cases hpassword : password = password'
    · exact .inl (by rw [hpassword])
    · exact .inr ⟨id, interface, username, password, password', hpassword, rfl, rfl⟩
  case static.static =>
    obtain ⟨rfl, rfl⟩ := hkind
    exact .inl rfl
  case dhcp.dhcp => exact .inl rfl

/-- The uplinks are PPPoE uplinks at one position of the two sites and differ in their passwords. -/
def DifferInPassword (s t : Site) (position : Nat) (u v : Uplink) : Prop :=
  ∃ k id interface username password password', position = k + 1 ∧ password ≠ password' ∧
    s.uplinks[k]? = some u ∧ u = ⟨id, interface, .pppoe username password⟩ ∧
    t.uplinks[k]? = some v ∧ v = ⟨id, interface, .pppoe username password'⟩

theorem Site.EqualButSecrets.placedUplinks {s t : Site} (h : s.EqualButSecrets t) :
    Aligned (fun x y => x.1 = y.1 ∧ DifferInPassword s t x.1 x.2 y.2)
      s.placedUplinks t.placedUplinks := by
  have hlength : s.uplinks.length = t.uplinks.length := by
    rw [← List.length_map, h.uplinks, List.length_map]
  refine List.forall₂_iff_get.mpr ⟨?_, fun k hs ht => ?_⟩
  · simp only [Site.placedUplinks, List.length_map, List.length_zipIdx, hlength]
  have hks : k < s.uplinks.length := by simpa [Site.placedUplinks] using hs
  have hkt : k < t.uplinks.length := hlength ▸ hks
  have hsame : s.uplinks[k].withoutPassword = t.uplinks[k].withoutPassword := by
    have huplinks := congrArg (·[k]?) h.uplinks
    simpa [hks, hkt] using huplinks
  have hgets : s.placedUplinks.get ⟨k, hs⟩ = (k + 1, s.uplinks[k]) := by
    simp [Site.placedUplinks]
  have hgett : t.placedUplinks.get ⟨k, ht⟩ = (k + 1, t.uplinks[k]) := by
    simp [Site.placedUplinks]
  rw [hgets, hgett]
  rcases Uplink.eq_or_of_withoutPassword_eq hsame with heq |
    ⟨id, interface, username, password, password', hne, hu, hv⟩
  · exact .inl (by rw [heq])
  · exact .inr ⟨rfl, k, id, interface, username, password, password', rfl, hne,
      List.getElem?_eq_getElem hks, hu, List.getElem?_eq_getElem hkt, hv⟩

/-! ## Scripts -/

/-- The commands of two scripts that may differ because of secrets: the only one for an account, the
only one that stores a script, and those that create the clients of uplinks that stand at one
position of the two sites and have different passwords. -/
inductive HoldSecrets (s t : Site) (a b : Script) : Command → Command → Prop where
  | account (c d : Command) (hc : a.commandsAt "/user" = [c]) (hd : b.commandsAt "/user" = [d]) :
      HoldSecrets s t a b c d
  | heartbeat (c d : Command) (hc : a.commandsAt "/system script" = [c])
      (hd : b.commandsAt "/system script" = [d]) : HoldSecrets s t a b c d
  | client (position : Nat) (u v : Uplink) (h : DifferInPassword s t position u v)
      (hc : u.bringUp position ∈ a.commandsAt "/interface pppoe-client")
      (hd : v.bringUp position ∈ b.commandsAt "/interface pppoe-client") :
      HoldSecrets s t a b (u.bringUp position) (v.bringUp position)

/-- The commands are two that add an item and may differ because of secrets. -/
def AddSecrets (s t : Site) (a b : Script) (l m : Line) : Prop :=
  ∃ c d, l = .command c ∧ m = .command d ∧ c.action = .add ∧ d.action = .add ∧
    HoldSecrets s t a b c d

namespace Site.EqualButSecrets

variable {s t : Site} (h : s.EqualButSecrets t) (profile : Profile) (plan : Plan)
  (generatedAt : Timestamp)

include h

/-- The account is the only command of its section that may differ. -/
theorem deviceSection {a b : Blueprint} (ha : a = ⟨s, profile, plan, generatedAt⟩)
    (hb : b = ⟨t, profile, plan, generatedAt⟩) :
    Section.Aligned (AddSecrets s t a.script b.script) a.deviceSection b.deviceSection := by
  have haccount : AddSecrets s t a.script b.script (.command a.accountCommand)
      (.command b.accountCommand) :=
    ⟨_, _, rfl, rfl, by simp [Blueprint.accountCommand], by simp [Blueprint.accountCommand],
      .account _ _ Blueprint.commandsAt_user Blueprint.commandsAt_user⟩
  have hidentity : a.identityCommands = b.identityCommands := by
    rw [ha, hb, Blueprint.identityCommands, Blueprint.identityCommands, h.identity]
  have hservice : a.serviceCommands = b.serviceCommands := by
    rw [ha, hb]
    rfl
  have hcomment : a.generatedAt = b.generatedAt := by rw [ha, hb]
  refine ⟨rfl, ?_⟩
  simp only [Blueprint.deviceSection, Section.extend, List.map_append, hidentity, hservice,
    hcomment]
  exact (Aligned.refl _).append (((Aligned.refl _).append (.singleton haccount)).append (.refl _))

/-- Of the commands for the uplinks, those of clients with different passwords may differ. -/
theorem uplinkSection {a b : Blueprint} (ha : a = ⟨s, profile, plan, generatedAt⟩)
    (hb : b = ⟨t, profile, plan, generatedAt⟩) :
    Section.Aligned (AddSecrets s t a.script b.script) a.uplinkSection b.uplinkSection := by
  have hplaced : Aligned (AddSecrets s t a.script b.script)
      (s.placedUplinks.flatMap fun x => [.command (x.2.bringUp x.1),
        .command (x.2.memberCommand profile.wanList x.1)])
      (t.placedUplinks.flatMap fun x => [.command (x.2.bringUp x.1),
        .command (x.2.memberCommand profile.wanList x.1)]) := by
    refine List.rel_flatMap h.placedUplinks ?_
    rintro ⟨i, u⟩ ⟨_, v⟩ (heq | ⟨rfl, hdiffer⟩)
    · rw [heq]
      exact Aligned.refl _
    have hdiffer : DifferInPassword s t i u v := hdiffer
    obtain ⟨k, id, interface, username, password, password', hi, -, hsu, hu, htv, hv⟩ := id hdiffer
    -- The membership names the interface, which is called by its position.
    have hmember : u.memberCommand profile.wanList i = v.memberCommand profile.wanList i := by
      rw [hu, hv]
      rfl
    have hc : u.bringUp i ∈ a.script.commandsAt "/interface pppoe-client" := by
      rw [Blueprint.commandsAt_client, ha]
      exact Blueprint.mem_bringUp (Site.mem_placedUplinks.mpr ⟨k, hsu, hi⟩) (by rw [hu]; rfl)
    have hd : v.bringUp i ∈ b.script.commandsAt "/interface pppoe-client" := by
      rw [Blueprint.commandsAt_client, hb]
      exact Blueprint.mem_bringUp (Site.mem_placedUplinks.mpr ⟨k, htv, hi⟩) (by rw [hv]; rfl)
    have hclient : AddSecrets s t a.script b.script (.command (u.bringUp i))
        (.command (v.bringUp i)) :=
      ⟨_, _, rfl, rfl, u.action_bringUp, v.action_bringUp, .client i u v hdiffer hc hd⟩
    exact .cons (.inr hclient) (.cons (.inl (congrArg Line.command hmember)) .nil)
  refine ⟨rfl, ?_⟩
  rw [ha, hb] at hplaced ⊢
  exact ((Aligned.refl _).append hplaced).append (.refl _)

/-- The scripts of the sites are aligned, and what may differ are commands that hold secrets. -/
theorem aligned_script {a b : Blueprint} (ha : a = ⟨s, profile, plan, generatedAt⟩)
    (hb : b = ⟨t, profile, plan, generatedAt⟩) :
    a.script.Aligned (AddSecrets s t a.script b.script) b.script := by
  have hdevice := h.deviceSection profile plan generatedAt ha hb
  have huplinks := h.uplinkSection profile plan generatedAt ha hb
  have hstore : AddSecrets s t a.script b.script (.command a.storeCommand)
      (.command b.storeCommand) :=
    ⟨_, _, rfl, rfl, rfl, rfl, .heartbeat _ _ a.commandsAt_systemScript b.commandsAt_systemScript⟩
  have hschedule : a.scheduleCommand = b.scheduleCommand := by
    rw [ha, hb]
    rfl
  have hheartbeat : Section.Aligned (AddSecrets s t a.script b.script) a.heartbeatSection
      b.heartbeatSection :=
    ⟨rfl, .cons (.inr hstore) (.cons (.inl (congrArg Line.command hschedule)) .nil)⟩
  -- The other sections are written from parts of the sites that hold no secrets.
  have hbridge : a.bridgeSection = b.bridgeSection := by
    rw [ha, hb, Blueprint.bridgeSection, Blueprint.bridgeSection, h.networks]
  have hnetworks : a.networkSection = b.networkSection := by
    rw [ha, hb, Blueprint.networkSection, Blueprint.networkSection, h.networks, h.resolver]
  have hresolver : a.resolverSection = b.resolverSection := by
    rw [ha, hb, Blueprint.resolverSection, Blueprint.resolverSection, h.resolver]
  have hfirewall : a.firewallSection = b.firewallSection := by
    rw [ha, hb, Blueprint.firewallSection, Blueprint.firewallSection,
      Blueprint.addressListCommands, Blueprint.addressListCommands, h.networks]
    rfl
  have hmasquerade : a.masqueradeSection = b.masqueradeSection := by
    rw [ha, hb, Blueprint.masqueradeSection, Blueprint.masqueradeSection, h.networks]
  refine ⟨?_, ?_⟩
  · rw [ha, hb, Blueprint.script, Blueprint.script, h.identity]
  · show List.Forall₂ _ a.sections b.sections
    rw [Blueprint.sections, Blueprint.sections, hbridge, hnetworks, hresolver, hfirewall,
      hmasquerade]
    exact .cons hdevice (.cons (.refl _) (.cons huplinks (.cons (.refl _) (.cons (.refl _)
      (.cons (.refl _) (.cons (.refl _) (.cons hheartbeat .nil)))))))

end Site.EqualButSecrets

/-! ## What is shown -/

/-- **Secrets are not shown to those who review a site.** Two sites that are equal but for their
secrets have the same findings, the same plan or the same reason why there is none, the same
rendered plan and the same report. When both compile, their scripts have as many lines, and lines at
one place that differ are commands that add the account, the stored script of the heartbeat, or the
client of an uplink whose passwords differ. -/
theorem secrets_stay_hidden {s t : Site} (h : s.EqualButSecrets t) (profile : Profile)
    (options : CompileOptions) :
    s.findings profile options.strict = t.findings profile options.strict ∧
    Plan.build s profile options.overflow = Plan.build t profile options.overflow ∧
    (∀ color, (Plan.build s profile options.overflow).map (·.render color) =
      (Plan.build t profile options.overflow).map (·.render color)) ∧
    (∀ source, s.report profile source options.strict options.overflow =
      t.report profile source options.strict options.overflow) ∧
    ∀ a b, compile s profile options = .ok a → compile t profile options = .ok b →
      (Text.fieldsAt '\n' a.text.toList).length = (Text.fieldsAt '\n' b.text.toList).length ∧
      ∀ (k : Nat) line line', (Text.fieldsAt '\n' a.text.toList)[k]? = some line →
        (Text.fieldsAt '\n' b.text.toList)[k]? = some line' → line ≠ line' →
          ∃ c d, line = c.render.toList ∧ line' = d.render.toList ∧
            c.action = .add ∧ d.action = .add ∧ HoldSecrets s t a.script b.script c d := by
  have hplan : Plan.build s profile options.overflow = Plan.build t profile options.overflow := by
    rw [← Plan.build_redacted s, h.redacted_eq, Plan.build_redacted]
  refine ⟨?_, hplan, fun color => by rw [hplan], fun source => ?_, fun a b ha hb => ?_⟩
  · rw [← s.findings_redacted, h.redacted_eq, t.findings_redacted]
  · rw [← s.report_redacted, h.redacted_eq, t.report_redacted]
  obtain ⟨-, hplana, hscripta, hwritea⟩ := of_compile_eq_ok ha
  obtain ⟨-, hplanb, hscriptb, hwriteb⟩ := of_compile_eq_ok hb
  have hsame : b.plan = a.plan := Except.ok.inj (hplanb.symm.trans (hplan.symm.trans hplana))
  rw [hsame] at hscriptb
  have haligned := h.aligned_script profile a.plan options.generatedAt rfl rfl
  rw [← hscripta, ← hscriptb] at haligned
  obtain ⟨hlength, hlines⟩ := haligned.lines_of_write_eq_ok hwritea hwriteb
  refine ⟨hlength, fun k line line' hline hline' hne => ?_⟩
  obtain ⟨l, m, ⟨c, d, rfl, rfl, hc, hd, hsecret⟩, hl, hm⟩ := hlines k line line' hline hline' hne
  exact ⟨c, d, hl, hm, hc, hd, hsecret⟩

/-- Another token and another password of its PPPoE uplink leave the script of the sample as long as
it is. -/
theorem secrets_stay_hidden_of_sample :
    let other : Site := { Site.sample with
      management.token := "another token"
      uplinks := Site.sample.uplinks.take 2 ++
        [⟨"dsl", "ether3", .pppoe (some "user") (some "another secret")⟩] }
    Site.sample.EqualButSecrets other ∧
      ∃ a b, compile .sample .builtin .sample = .ok a ∧ compile other .builtin .sample = .ok b ∧
        (Text.fieldsAt '\n' a.text.toList).length = (Text.fieldsAt '\n' b.text.toList).length := by
  intro other
  have h : Site.sample.EqualButSecrets other :=
    ⟨rfl, by decide, rfl, rfl, rfl, by decide, rfl, rfl, rfl, rfl⟩
  obtain ⟨a, ha⟩ := exists_compile_sample
  obtain ⟨b, hb⟩ : ∃ b, compile other .builtin .sample = .ok b :=
    exists_compile_of_checks (by decide +kernel) (by decide +kernel)
  obtain ⟨-, -, -, -, hscripts⟩ := secrets_stay_hidden h .builtin .sample
  exact ⟨h, a, b, ha, hb, (hscripts a b ha hb).1⟩

end SiteRouter

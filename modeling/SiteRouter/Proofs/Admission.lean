import SiteRouter.Proofs.Compilation
import SiteRouter.Proofs.Packets
import SiteRouter.Proofs.Positions

/-!
# What the router takes for itself

Packets that are sent to the router itself meet the rules of its input chain. The first rule that
applies decides (`Script.inputVerdict`); a packet that no rule decides would fall off the end.

`compile_admits_iff` says what the input chain of a compiled script comes to. A packet is taken when
its connection is not invalid and the router has a reason to serve it (`Site.Serves`): it belongs to
a connection that the router knows, it comes from where the router is managed, or it asks for a name
from inside a network. Every other packet is dropped by a rule, and none falls off the end.
-/

namespace SiteRouter

open Script

/-- What is known about the connection of a packet. -/
inductive ConnectionState where
  | new
  | established
  | related
  | untracked
  | invalid
  deriving DecidableEq, Repr

/-- The word for the state. -/
def ConnectionState.word : ConnectionState → String
  | .new => "new"
  | .established => "established"
  | .related => "related"
  | .untracked => "untracked"
  | .invalid => "invalid"

/-- A packet that is sent to the router itself. -/
structure Arrival where
  source : Ipv4
  /-- The protocol by its name. -/
  protocol : String
  /-- The port that it is sent to, where its protocol has ports. -/
  port : Option (Fin 65536)
  state : ConnectionState
  deriving DecidableEq

/-- The router has a reason to take the packet. -/
inductive Site.Serves (s : Site) (profile : Profile) (p : Arrival) : Prop where
  | known (state : p.state = .established ∨ p.state = .related)
  | manages (net : Cidr) (allowed : net ∈ profile.managementAllowList) (source : p.source ∈ net)
  | resolves (n : Network) (network : n ∈ s.networks) (source : p.source ∈ n.subnet)
      (protocol : p.protocol = "udp" ∨ p.protocol = "tcp") (port : p.port = some 53)

/-! ## Rules -/

/-- Is the word one of those that a rule lists with commas between them? -/
def Script.lists (value word : String) : Bool :=
  (Text.fieldsAt ',' value.toList).contains word.toList

/-- Does the packet meet what an argument of a rule asks of it? It does not if nothing is known
about what is asked. -/
def Arrival.meets (holds : String → Ipv4 → Bool) (p : Arrival) (key value : String) : Bool :=
  if key = "connection-state" then lists value p.state.word
  else if key = "src-address-list" then p.source.meets holds value
  else if key = "protocol" then p.protocol == value
  else if key = "dst-port" then p.port.any fun port => lists value (toString port)
  else ruleSettings.contains key

/-- What becomes of a packet. -/
inductive Verdict where
  | accept
  | drop
  deriving DecidableEq, Repr

namespace Script

/-- What the rule decides about the packets to which it applies, if it decides. -/
def Command.verdict? (c : Command) : Option Verdict :=
  if c.has "action" "accept" then some .accept
  else if c.has "action" "drop" then some .drop
  else none

/-- What becomes of a packet: the first rule that applies to it and decides has the last word. -/
def verdictFrom (meets : String → String → Bool) : List Command → Option Verdict
  | [] => none
  | c :: rest =>
    if c.applies meets then c.verdict?.or (verdictFrom meets rest) else verdictFrom meets rest

/-- What becomes of a packet that is sent to the router. -/
def inputVerdict (s : Script) (p : Arrival) : Option Verdict :=
  verdictFrom (p.meets s.holds) (s.chain "/ip firewall filter" "input")

section Verdicts

variable {meets : String → String → Bool} {c last : Command} {rules : List Command}

theorem verdictFrom_cons_of_applies {v : Verdict} (h : c.applies meets = true)
    (hv : c.verdict? = some v) : verdictFrom meets (c :: rules) = some v := by
  rw [verdictFrom, if_pos h, hv, Option.some_or]

theorem verdictFrom_cons_of_not_applies (h : c.applies meets = false) :
    verdictFrom meets (c :: rules) = verdictFrom meets rules := by
  rw [verdictFrom, if_neg (by rw [h]; exact Bool.false_ne_true)]

/-- Behind rules that accept, a rule that drops everything drops what none of them accepts. -/
theorem verdictFrom_accepting (hrules : ∀ c ∈ rules, c.verdict? = some .accept)
    (hlast : last.applies meets = true) (hdrop : last.verdict? = some .drop) :
    verdictFrom meets (rules ++ [last]) =
      some (if rules.any (·.applies meets) then .accept else .drop) := by
  induction rules with
  | nil => exact verdictFrom_cons_of_applies hlast hdrop
  | cons c rules ih =>
    rw [List.forall_mem_cons] at hrules
    rw [List.cons_append, List.any_cons]
    cases h : c.applies meets with
    | true => exact verdictFrom_cons_of_applies h hrules.1
    | false => rw [verdictFrom_cons_of_not_applies h, ih hrules.2, Bool.false_or]

end Verdicts

end Script

/-! ## The input chain -/

/-- Drops what belongs to no connection. -/
def invalidRule : Command :=
  (inputRule.arg "connection-state" "invalid").does "drop" "drop invalid"

/-- Accepts what belongs to a connection that the router knows. -/
def knownRule : Command :=
  (inputRule.arg "connection-state" "established,related").does "accept" "accept established"

/-- Accepts what comes from an address list. -/
def managementRule (list : String) : Command :=
  (inputRule.arg "src-address-list" list).does "accept" "accept management"

/-- Accepts questions for names over a protocol from an address list. -/
def nameRule (list protocol : String) : Command :=
  (((inputRule.arg "protocol" protocol).arg "dst-port" "53").arg "src-address-list" list).does
    "accept" s!"accept dns {protocol}"

/-- Drops everything. -/
def defaultRule : Command := inputRule.does "drop" "default drop"

/-- The rules that accept packets. -/
def Profile.acceptingRules (profile : Profile) : List Command :=
  [knownRule, managementRule profile.managementList, nameRule profile.localList "udp",
    nameRule profile.localList "tcp"]

theorem Blueprint.inputRules_eq (b : Blueprint) :
    b.inputRules = invalidRule :: (b.profile.acceptingRules ++ [defaultRule]) := rfl

/-- The rules that protect the router are those of one chain. -/
theorem Blueprint.chain_input (b : Blueprint) :
    b.script.chain "/ip firewall filter" "input" = b.inputRules := by
  refine chain_eq commandsAt_filter ?_
  simp [inputRules, inputRule, Command.adds, Command.has, Command.get?]

theorem Script.lists_port (port : Fin 65536) : lists "53" (toString port) = true ↔ port = 53 := by
  have hfields : Text.fieldsAt ',' "53".toList = ["53".toList] := by decide
  have htext : "53" = toString ((53 : Fin 65536) : Nat) := by decide
  rw [lists, hfields, List.contains_iff_mem, List.mem_singleton, String.toList_inj]
  exact ⟨fun h => Fin.ext (toString_injective (h.trans htext)), fun h => h ▸ htext.symm⟩

section Rules

variable {holds : String → Ipv4 → Bool} {list protocol : String} {p : Arrival}

theorem applies_invalidRule : invalidRule.applies (p.meets holds) = true ↔ p.state = .invalid := by
  have hstate : lists "invalid" p.state.word = true ↔ p.state = .invalid := by
    cases p.state <;> decide
  simp [invalidRule, inputRule, Command.applies, Arrival.meets, ruleSettings, hstate]

theorem applies_knownRule : knownRule.applies (p.meets holds) = true ↔
    p.state = .established ∨ p.state = .related := by
  have hstate : lists "established,related" p.state.word = true ↔
      p.state = .established ∨ p.state = .related := by
    cases p.state <;> decide
  simp [knownRule, inputRule, Command.applies, Arrival.meets, ruleSettings, hstate]

theorem applies_managementRule (hlist : list.toList.head? ≠ some '!') :
    (managementRule list).applies (p.meets holds) = holds list p.source := by
  simp [managementRule, inputRule, Command.applies, Arrival.meets, ruleSettings,
    Ipv4.meets_of_plain hlist]

theorem applies_nameRule (hlist : list.toList.head? ≠ some '!') :
    (nameRule list protocol).applies (p.meets holds) = true ↔
      p.protocol = protocol ∧ p.port = some 53 ∧ holds list p.source = true := by
  have hport : p.port.any (fun port => lists "53" (toString port)) = true ↔ p.port = some 53 := by
    cases p.port with
    | none => exact iff_of_false Bool.false_ne_true nofun
    | some port => rw [Option.any_some, lists_port, Option.some.injEq]
  simp [nameRule, inputRule, Command.applies, Arrival.meets, ruleSettings,
    Ipv4.meets_of_plain hlist, hport]

theorem applies_defaultRule : defaultRule.applies (p.meets holds) = true := by
  simp [defaultRule, inputRule, Command.applies, Arrival.meets, ruleSettings]

end Rules

section Chain

variable {b : Blueprint} {p : Arrival}

theorem Script.verdict?_acceptingRules (profile : Profile) :
    ∀ c ∈ profile.acceptingRules, c.verdict? = some .accept := by
  simp [Profile.acceptingRules, knownRule, managementRule, nameRule, inputRule, Command.verdict?,
    Command.has, Command.get?]

/-- The management list holds the allowed networks. -/
theorem Blueprint.holds_managementList_iff {a : Ipv4}
    (hlists : b.profile.managementList ≠ b.profile.localList) :
    b.script.holds b.profile.managementList a = true ↔
      ∃ net ∈ b.profile.managementAllowList, a ∈ net := by
  rw [holds_iff]
  simp [Ne.symm hlists]

/-- Some rule accepts a packet exactly when the router has a reason to take it. -/
theorem Blueprint.any_acceptingRules_iff
    (hlists : b.profile.managementList ≠ b.profile.localList)
    (hmanagement : b.profile.managementList.toList.head? ≠ some '!')
    (hlocal : b.profile.localList.toList.head? ≠ some '!') :
    (b.profile.acceptingRules.any (·.applies (p.meets b.script.holds))) = true ↔
      b.site.Serves b.profile p := by
  simp only [Profile.acceptingRules, List.any_cons, List.any_nil, Bool.or_false, Bool.or_eq_true,
    applies_knownRule, applies_managementRule hmanagement, applies_nameRule hlocal,
    holds_managementList_iff hlists, holds_localList_iff hlists]
  constructor
  · rintro (hknown | ⟨net, hnet, hsource⟩ | ⟨hprotocol, hport, n, hn, hsource⟩ |
      ⟨hprotocol, hport, n, hn, hsource⟩)
    · exact .known hknown
    · exact .manages net hnet hsource
    · exact .resolves n hn hsource (.inl hprotocol) hport
    · exact .resolves n hn hsource (.inr hprotocol) hport
  · rintro (hknown | ⟨net, hnet, hsource⟩ | ⟨n, hn, hsource, hprotocol | hprotocol, hport⟩)
    · exact .inl hknown
    · exact .inr (.inl ⟨net, hnet, hsource⟩)
    · exact .inr (.inr (.inl ⟨hprotocol, hport, n, hn, hsource⟩))
    · exact .inr (.inr (.inr ⟨hprotocol, hport, n, hn, hsource⟩))

/-- The input chain drops what is invalid, and else decides by the rules that accept. -/
theorem Blueprint.inputVerdict_script (b : Blueprint) (p : Arrival) :
    b.script.inputVerdict p =
      some (if p.state = .invalid then .drop
        else if b.profile.acceptingRules.any (·.applies (p.meets b.script.holds)) then .accept
        else .drop) := by
  have hdrop : invalidRule.verdict? = some .drop := by
    simp [invalidRule, inputRule, Command.verdict?, Command.has, Command.get?]
  have hdefault : defaultRule.verdict? = some .drop := by
    simp [defaultRule, inputRule, Command.verdict?, Command.has, Command.get?]
  rw [inputVerdict, chain_input, inputRules_eq]
  by_cases hinvalid : p.state = .invalid
  · rw [if_pos hinvalid]
    exact verdictFrom_cons_of_applies (applies_invalidRule.mpr hinvalid) hdrop
  · have hpasses : invalidRule.applies (p.meets b.script.holds) = false :=
      Bool.eq_false_iff.mpr fun h => hinvalid (applies_invalidRule.mp h)
    rw [if_neg hinvalid, verdictFrom_cons_of_not_applies hpasses]
    exact verdictFrom_accepting (verdict?_acceptingRules b.profile) applies_defaultRule hdefault

end Chain

/-! ## Compiled scripts -/

/-- **The router takes exactly the packets that it has a reason to take.** A packet is accepted when
its connection is not invalid and the router serves it, and any other packet is dropped by a rule of
the chain. -/
theorem compile_admits_iff {s : Site} {profile : Profile} {options : CompileOptions}
    {out : Compiled} (h : compile s profile options = .ok out)
    (hlists : profile.managementList ≠ profile.localList)
    (hmanagement : profile.managementList.toList.head? ≠ some '!')
    (hlocal : profile.localList.toList.head? ≠ some '!') (p : Arrival) :
    (out.script.inputVerdict p = some .accept ↔ p.state ≠ .invalid ∧ s.Serves profile p) ∧
      (out.script.inputVerdict p = some .drop ↔ ¬(p.state ≠ .invalid ∧ s.Serves profile p)) := by
  obtain ⟨-, -, hscript, -⟩ := of_compile_eq_ok h
  let b := Blueprint.mk s profile out.plan options.generatedAt
  have hserves : (profile.acceptingRules.any (·.applies (p.meets b.script.holds))) = true ↔
      s.Serves profile p := b.any_acceptingRules_iff hlists hmanagement hlocal
  have hverdict := b.inputVerdict_script p
  rw [hscript, hverdict, ← hserves]
  by_cases hinvalid : p.state = .invalid
  · simp [hinvalid]
  · cases hany : profile.acceptingRules.any (·.applies (p.meets b.script.holds)) with
    | true => simp [hinvalid]
    | false => simp [hinvalid]

/-- The sample answers a guest who asks for a name, and drops a request for a page from outside. -/
theorem compile_admits_names_of_sample :
    ∃ out, compile .sample .builtin .sample = .ok out ∧
      out.script.inputVerdict ⟨⟨0xc0a80a05, by decide⟩, "udp", some 53, .new⟩ = some .accept ∧
      out.script.inputVerdict ⟨⟨0x08080808, by decide⟩, "tcp", some 80, .new⟩ = some .drop := by
  obtain ⟨out, h⟩ := exists_compile_sample
  have hallowed : ∀ net ∈ Profile.builtin.managementAllowList,
      (⟨0x08080808, by decide⟩ : Ipv4) ∉ net := by
    simp only [Cidr.mem_def]
    decide
  have hport : (some 80 : Option (Fin 65536)) ≠ some 53 := by decide
  refine ⟨out, h, ?_, ?_⟩
  · refine (compile_admits_iff h (by decide) (by decide) (by decide) _).1.mpr ⟨by decide, ?_⟩
    refine .resolves Site.sample.networks[0] (List.getElem_mem _) ?_ (.inl rfl) rfl
    rw [Network.subnet, Cidr.mem_subnet, Cidr.mem_def]
    decide
  · refine (compile_admits_iff h (by decide) (by decide) (by decide) _).2.mpr ?_
    rintro ⟨-, hknown | ⟨net, hnet, hsource⟩ | ⟨-, -, -, -, h53⟩⟩
    · exact absurd hknown (by decide)
    · exact hallowed net hnet hsource
    · exact hport h53

end SiteRouter

import SiteRouter.Proofs.AddressText
import SiteRouter.Proofs.Commands
import SiteRouter.Proofs.Writing

/-!
# Texts that the console takes

Most texts of a configuration are written by the program itself: numbers, addresses, and names made
from them. The console takes all of those.
-/

namespace SiteRouter

namespace Script

attribute [simp] isPrintable_append

/-- What the console takes it also takes as a value. -/
@[simp] theorem IsPrintable.isQuotable {text : String} (h : IsPrintable text) : IsQuotable text :=
  fun c hc => Or.inl (h c hc)

@[simp] theorem isQuotable_append {a b : String} :
    IsQuotable (a ++ b) ↔ IsQuotable a ∧ IsQuotable b := by
  rw [IsQuotable, String.toList_append]
  exact List.forall_mem_append

/-- Quoting leaves no line control, so that a value can be quoted again. -/
@[simp] theorem isQuotable_quote {value : String} :
    IsQuotable (quote value) ↔ IsQuotable value := by
  have hquoted : IsQuotable (quote value) ↔ IsPrintable (quote value) := by
    refine ⟨fun h c hc => (h c hc).resolve_right fun hcontrol => ?_, IsPrintable.isQuotable⟩
    rw [quote, String.toList_ofList] at hc
    rw [isLineControl_of_mem_quoteChars hc] at hcontrol
    exact Bool.false_ne_true hcontrol
  exact hquoted.trans isPrintable_quote

/-- Numbers are written in characters that the console takes. -/
theorem isConsoleChar_of_mem_toDigits {base n : Nat} (hbase : 2 ≤ base) (hbase' : base ≤ 16)
    {c : Char} (hc : c ∈ Nat.toDigits base n) : isConsoleChar c = true := by
  have hdigit : ∀ d < 16, isConsoleChar (Nat.digitChar d) = true := by decide
  induction n using Nat.strongRecOn with
  | ind n ih =>
    rw [Nat.toDigits_eq_if (by omega)] at hc
    split at hc
    next hlt =>
      rw [List.mem_singleton.mp hc]
      exact hdigit n (by omega)
    next hle =>
      rcases List.mem_append.mp hc with hc | hc
      · exact ih (n / base) (Nat.div_lt_self (by omega) (by omega)) hc
      · have hmod := Nat.mod_lt n (by omega : base > 0)
        rw [List.mem_singleton.mp hc]
        exact hdigit (n % base) (by omega)

@[simp] theorem isPrintable_repr (n : Nat) : IsPrintable n.repr := by
  intro c hc
  rw [Nat.toList_repr] at hc
  exact isConsoleChar_of_mem_toDigits (by decide) (by decide) hc

@[simp] theorem isPrintable_intRepr (i : Int) : IsPrintable i.repr := by
  cases i with
  | ofNat n => exact isPrintable_repr n
  | negSucc n =>
    show IsPrintable ("-" ++ (n + 1).repr)
    simp +decide

/-- Joined texts are taken with the mark between them. -/
theorem isConsoleChar_of_mem_joinWith {sep : Char} {fs : List (List Char)}
    (hsep : isConsoleChar sep = true) (h : ∀ f ∈ fs, ∀ c ∈ f, isConsoleChar c = true) :
    ∀ c ∈ Text.joinWith sep fs, isConsoleChar c = true := by
  intro c hc
  rcases Text.mem_joinWith hc with rfl | ⟨f, hf, hc⟩
  · exact hsep
  · exact h f hf c hc

theorem isPrintable_intercalate {sep : Char} {texts : List String}
    (hsep : isConsoleChar sep = true) (h : ∀ t ∈ texts, IsPrintable t) :
    IsPrintable ((String.singleton sep).intercalate texts) := by
  rw [IsPrintable, Text.toList_intercalate]
  exact isConsoleChar_of_mem_joinWith hsep (List.forall_mem_map.mpr h)

end Script

open Script

/-! ## Addresses and times -/

@[simp] theorem Ipv4.isPrintable_render (a : Ipv4) : IsPrintable a.render := by
  have hdot : "." = String.singleton '.' := rfl
  rw [render, hdot]
  exact isPrintable_intercalate (by decide) (List.forall_mem_map.mpr fun n _ => isPrintable_repr n)

@[simp] theorem Cidr.isPrintable_render (c : Cidr) : IsPrintable c.render := by
  simp +decide [render, toString]

@[simp] theorem AddressRange.isPrintable_render (r : AddressRange) : IsPrintable r.render := by
  simp +decide [render, toString]

theorem Ipv6.isConsoleChar_of_mem_groupsChars (gs : List Group) :
    ∀ c ∈ groupsChars gs, isConsoleChar c = true := by
  refine isConsoleChar_of_mem_joinWith (by decide) (List.forall_mem_map.mpr fun g _ c hc => ?_)
  exact isConsoleChar_of_mem_toDigits (by decide) (by decide) hc

@[simp] theorem Ipv6.isPrintable_render (a : Ipv6) : IsPrintable a.render := by
  unfold render
  split
  · simp +decide
  · rw [IsPrintable, String.toList_ofList]
    have hgap : [':', ':'].all isConsoleChar = true := by decide
    split
    · rw [List.forall_mem_append, List.forall_mem_append]
      exact ⟨⟨isConsoleChar_of_mem_groupsChars _, List.all_eq_true.mp hgap⟩,
        isConsoleChar_of_mem_groupsChars _⟩
    · exact isConsoleChar_of_mem_groupsChars _

@[simp] theorem IpAddress.isPrintable_render (a : IpAddress) : IsPrintable a.render := by
  cases a with
  | v4 a => exact a.isPrintable_render
  | v6 a => exact a.isPrintable_render

@[simp] theorem Timestamp.isPrintable_render (t : Timestamp) : IsPrintable t.render := by
  have htwo : ∀ n, IsPrintable (Text.twoDigits n) := by
    intro n
    unfold Text.twoDigits
    split <;> simp +decide [toString]
  have hfour : ∀ n, IsPrintable (Text.fourDigits n) := by
    intro n
    unfold Text.fourDigits
    split
    · simp +decide [toString]
    · split
      · simp +decide [toString]
      · split <;> simp +decide [toString]
  have hyear : IsPrintable (yearText t.year) := by
    unfold yearText
    split
    · exact hfour _
    · split
      · simp +decide [hfour]
      · simp +decide [toString]
  simp +decide [render, toString, htwo, hyear]

/-! ## Commands -/

namespace Script

/-- The console can take the command. -/
def Command.IsWritable (c : Command) : Prop :=
  IsPrintable c.opening ∧ ∀ a ∈ c.args, a.IsWritable

namespace Command

variable {c : Command} {path key value : String}

@[simp] theorem isWritable_add : (add path).IsWritable ↔ IsPrintable path := by
  simp +decide [IsWritable, opening, add, Action.word]

@[simp] theorem isWritable_set : (set path).IsWritable ↔ IsPrintable path := by
  simp +decide [IsWritable, opening, set, Action.word]

/-- The item that a command applies to is written as it is. -/
@[simp] theorem isWritable_set_on (target : String) :
    ((set path).on target).IsWritable ↔ IsPrintable path ∧ IsPrintable target := by
  simp +decide [IsWritable, opening, set, on, Action.word]

@[simp] theorem isWritable_arg :
    (c.arg key value).IsWritable ↔ c.IsWritable ∧ IsPrintable key ∧ IsQuotable value := by
  simp only [IsWritable, args_arg, List.forall_mem_append, List.forall_mem_singleton]
  simp [Arg.IsWritable, opening, arg, and_assoc]

@[simp] theorem isWritable_keyword :
    (c.keyword key).IsWritable ↔ c.IsWritable ∧ IsPrintable key := by
  simp only [IsWritable, args_keyword, List.forall_mem_append, List.forall_mem_singleton]
  simp [Arg.IsWritable, opening, keyword, and_assoc]

@[simp] theorem isWritable_argIfSome (v : Option String) : (c.argIfSome key v).IsWritable ↔
    c.IsWritable ∧ ∀ value ∈ v, IsPrintable key ∧ IsQuotable value := by
  cases v with
  | none => simp [argIfSome]
  | some value => simp [argIfSome]

@[simp] theorem isWritable_flag (on : Bool) :
    (c.flag key on).IsWritable ↔ c.IsWritable ∧ IsPrintable key := by
  have hword : IsQuotable (if on then "yes" else "no") := by cases on <;> decide
  simp [flag, hword]

/-- A list of texts that the console takes is taken. -/
theorem isWritable_list {values : List String} (h : ∀ v ∈ values, IsPrintable v) :
    (c.list key values).IsWritable ↔ c.IsWritable ∧ IsPrintable key := by
  have hcomma : "," = String.singleton ',' := rfl
  have hvalue : IsPrintable (",".intercalate values) := by
    rw [hcomma]
    exact isPrintable_intercalate (by decide) h
  simp [list, hvalue]

@[simp] theorem isWritable_does (action comment : String) : (c.does action comment).IsWritable ↔
    c.IsWritable ∧ IsQuotable action ∧ IsQuotable comment := by
  simp +decide [does, and_assoc]

@[simp] theorem isWritable_masquerades (comment : String) :
    (c.masquerades comment).IsWritable ↔ c.IsWritable ∧ IsQuotable comment := by
  simp +decide [masquerades]

end Command

theorem Section.isWritable_extend {sec : Section} {cs : List Command} :
    (sec.extend cs).IsWritable ↔ sec.IsWritable ∧ ∀ c ∈ cs, c.IsWritable := by
  show (IsPrintable sec.name ∧ ∀ line ∈ sec.lines ++ cs.map Line.command, Line.IsWritable line) ↔ _
  rw [List.forall_mem_append, List.forall_mem_map, ← and_assoc]
  rfl

/-- A section of commands is taken if they all are. -/
theorem Section.isWritable_ofCommands {name : String} (hname : IsPrintable name)
    {cs : List Command} : (ofCommands name cs).IsWritable ↔ ∀ c ∈ cs, c.IsWritable := by
  show (IsPrintable name ∧ ∀ line ∈ cs.map Line.command, line.IsWritable) ↔ _
  rw [and_iff_right hname, List.forall_mem_map]
  rfl

end Script

end SiteRouter

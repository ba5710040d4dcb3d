import SiteRouter.Proofs.Quoting
import SiteRouter.Script.Writer

/-!
# What the console takes

A script is refused for a single character that the console cannot take, but not every character of
a value reaches the console as it is: the line controls have escapes. This file says when a line is
taken in terms of what the line is made from (`Command.isPrintable_render`), and from that when a
whole script is written (`exists_write_iff`).
-/

namespace SiteRouter.Script

/-! ## Texts -/

/-- The console can take every character of the text. -/
def IsPrintable (text : String) : Prop := ∀ c ∈ text.toList, isConsoleChar c = true

/-- The console can take the text as a value, where line controls are escaped. -/
def IsQuotable (value : String) : Prop :=
  ∀ c ∈ value.toList, isConsoleChar c = true ∨ isLineControl c = true

theorem isPrintable_append {a b : String} :
    IsPrintable (a ++ b) ↔ IsPrintable a ∧ IsPrintable b := by
  rw [IsPrintable, String.toList_append]
  exact List.forall_mem_append

/-- Characters between two that the console takes are taken. -/
theorem isConsoleChar_of_le {a b c : Char} (ha : isConsoleChar a = true)
    (hb : isConsoleChar b = true) (hac : a.val ≤ c.val) (hcb : c.val ≤ b.val) :
    isConsoleChar c = true := by
  simp only [isConsoleChar, Bool.and_eq_true, decide_eq_true_eq] at ha hb ⊢
  exact ⟨UInt32.le_trans ha.1 hac, UInt32.le_trans hcb hb.2⟩

theorem isConsoleChar_of_isBare {c : Char} (h : isBare c = true) : isConsoleChar c = true := by
  have h : (((decide ('A'.val ≤ c.val ∧ c.val ≤ 'Z'.val) ||
      decide ('a'.val ≤ c.val) && decide (c.val ≤ 'z'.val)) ||
      decide ('0'.val ≤ c.val) && decide (c.val ≤ '9'.val)) ||
      ['.', '_', '-', ':', '/', ',', '!', '@', '+', '*'].contains c) = true := h
  simp only [Bool.or_eq_true, Bool.and_eq_true, decide_eq_true_eq, List.contains_iff_mem] at h
  rcases h with ((⟨hlo, hhi⟩ | ⟨hlo, hhi⟩) | ⟨hlo, hhi⟩) | hmark
  · exact isConsoleChar_of_le (a := 'A') (b := 'Z') (by decide) (by decide) hlo hhi
  · exact isConsoleChar_of_le (a := 'a') (b := 'z') (by decide) (by decide) hlo hhi
  · exact isConsoleChar_of_le (a := '0') (b := '9') (by decide) (by decide) hlo hhi
  · have hmarks : ['.', '_', '-', ':', '/', ',', '!', '@', '+', '*'].all isConsoleChar = true := by
      decide
    exact List.all_eq_true.mp hmarks c hmark

/-- What the console cannot take, of a character in a value, are characters without an escape. -/
theorem isConsoleChar_of_mem_escape_iff {c : Char} :
    (∀ d ∈ escape c, isConsoleChar d = true) ↔ isConsoleChar c = true ∨ isLineControl c = true := by
  unfold escape
  cases hl : escapes.lookup c with
  | some e =>
    have hescapes : ∀ p ∈ escapes, isConsoleChar p.2 = true ∧
        (isConsoleChar p.1 = true ∨ isLineControl p.1 = true) := by decide
    obtain ⟨front, back, hsplit, -⟩ := List.lookup_eq_some_iff.mp hl
    obtain ⟨he, hc⟩ := hescapes (c, e) (by rw [hsplit]; simp)
    refine iff_of_true ?_ hc
    intro d hd
    rcases List.mem_cons.mp hd with rfl | hd
    · rfl
    · rw [List.mem_singleton.mp hd]
      exact he
  | none =>
    have hcontrol : isLineControl c = false := isLineControl_of_mem_escape (c := c) (by
      rw [escape, hl]
      exact List.mem_singleton_self c)
    simp [hcontrol]

theorem isPrintable_quote {value : String} : IsPrintable (quote value) ↔ IsQuotable value := by
  rw [IsPrintable, quote, String.toList_ofList]
  unfold quoteChars
  split
  next h =>
    have hbare := List.all_eq_true.mp h.2
    exact iff_of_true (fun c hc => isConsoleChar_of_isBare (hbare c hc))
      fun c hc => Or.inl (isConsoleChar_of_isBare (hbare c hc))
  next =>
    rw [List.forall_mem_append, List.forall_mem_cons, List.forall_mem_flatMap]
    simp only [isConsoleChar_of_mem_escape_iff]
    constructor
    · rintro ⟨⟨-, h⟩, -⟩
      exact h
    · intro h
      exact ⟨⟨rfl, h⟩, List.forall_mem_singleton.mpr rfl⟩

/-! ## Octets

Taking a text apart into characters is slow work for the kernel. A condition that only ASCII
characters meet can be checked on the octets instead, which is how the two conditions above are
decided. -/

/-- A character beyond ASCII has an octet beyond ASCII. -/
theorem exists_mem_utf8EncodeChar {c : Char} (h : 128 ≤ c.val.toNat) :
    ∃ b ∈ String.utf8EncodeChar c, 128 ≤ b.toNat := by
  unfold String.utf8EncodeChar
  rw [if_neg (by omega)]
  split
  · refine ⟨_, List.mem_cons_self .., ?_⟩
    rw [UInt8.toNat_ofNat']
    omega
  · split
    · refine ⟨_, List.mem_cons_self .., ?_⟩
      rw [UInt8.toNat_ofNat']
      omega
    · refine ⟨_, List.mem_cons_self .., ?_⟩
      rw [UInt8.toNat_ofNat']
      omega

theorem forall_utf8EncodeChar_iff {p : Nat → Bool} (hp : ∀ n, 128 ≤ n → p n = false) (c : Char) :
    (∀ b ∈ String.utf8EncodeChar c, p b.toNat = true) ↔ p c.val.toNat = true := by
  rcases Nat.lt_or_ge c.val.toNat 128 with h | h
  · have hoctet : String.utf8EncodeChar c = [UInt8.ofNat c.val.toNat] := if_pos (by omega)
    rw [hoctet, List.forall_mem_singleton, UInt8.toNat_ofNat', Nat.mod_eq_of_lt (by omega)]
  · obtain ⟨b, hb, hoctet⟩ := exists_mem_utf8EncodeChar h
    refine iff_of_false (fun hall => ?_) (by rw [hp _ h]; exact Bool.false_ne_true)
    have := hall b hb
    rw [hp _ hoctet] at this
    exact Bool.false_ne_true this

theorem all_octets_iff {p : Nat → Bool} (hp : ∀ n, 128 ≤ n → p n = false) (text : String) :
    (text.toByteArray.data.toList.all fun b => p b.toNat) = true ↔
      ∀ c ∈ text.toList, p c.val.toNat = true := by
  have hoctets : text.toByteArray.data.toList = text.toList.flatMap String.utf8EncodeChar := by
    rw [← String.utf8Encode_toList, List.utf8Encode]
    simp
  rw [List.all_eq_true, hoctets, List.forall_mem_flatMap]
  exact forall₂_congr fun c _ => forall_utf8EncodeChar_iff hp c

instance (text : String) : Decidable (IsPrintable text) :=
  decidable_of_iff
    ((text.toByteArray.data.toList.all fun b => 0x20 ≤ b.toNat && b.toNat ≤ 0x7e) = true) <| by
  rw [all_octets_iff (p := fun n => 0x20 ≤ n && n ≤ 0x7e) (by grind)]
  rfl

instance (value : String) : Decidable (IsQuotable value) :=
  decidable_of_iff ((value.toByteArray.data.toList.all fun b =>
    0x20 ≤ b.toNat && b.toNat ≤ 0x7e || [10, 13, 9].contains b.toNat) = true) <| by
  rw [all_octets_iff (p := fun n => 0x20 ≤ n && n ≤ 0x7e || [10, 13, 9].contains n) (by grind)]
  refine forall₂_congr fun c _ => ?_
  have hcontrol : [10, 13, 9].contains c.val.toNat = true ↔ isLineControl c = true := by
    simp [isLineControl, or_assoc, Char.ext_iff, ← UInt32.toNat_inj]
  rw [Bool.or_eq_true, hcontrol]
  rfl

/-! ## Lines -/

/-- The console can take the argument as it is written. -/
def Arg.IsWritable (a : Arg) : Prop :=
  IsPrintable a.key ∧ ∀ value ∈ a.value, IsQuotable value

instance (a : Arg) : Decidable a.IsWritable :=
  inferInstanceAs (Decidable (IsPrintable a.key ∧ ∀ value ∈ a.value, IsQuotable value))

theorem Arg.isPrintable_render {a : Arg} : IsPrintable a.render ↔ a.IsWritable := by
  unfold render IsWritable
  cases a.value with
  | none => simp
  | some value =>
    have hequals : IsPrintable "=" := by decide
    simp [isPrintable_append, isPrintable_quote, hequals]

theorem Command.isPrintable_render {c : Command} :
    IsPrintable c.render ↔ IsPrintable c.opening ∧ ∀ a ∈ c.args, a.IsWritable := by
  have hspace : isConsoleChar ' ' = true := by decide
  rw [IsPrintable, c.toList_render, List.forall_mem_append, writtenArguments,
    List.forall_mem_flatMap]
  simp only [List.forall_mem_cons, hspace, true_and]
  exact and_congr_right fun _ => forall₂_congr fun _ _ => Arg.isPrintable_render

/-- The console can take the line. -/
def Line.IsWritable : Line → Prop
  | .comment text => IsPrintable text
  | .command c => IsPrintable c.opening ∧ ∀ a ∈ c.args, a.IsWritable

instance : (line : Line) → Decidable line.IsWritable
  | .comment text => inferInstanceAs (Decidable (IsPrintable text))
  | .command c =>
    inferInstanceAs (Decidable (IsPrintable c.opening ∧ ∀ a ∈ c.args, a.IsWritable))

theorem Line.isPrintable_render {line : Line} : IsPrintable line.render ↔ line.IsWritable := by
  cases line with
  | comment text =>
    have hmark : IsPrintable "# " := by decide
    simp [render, IsWritable, isPrintable_append, hmark]
  | command c => exact Command.isPrintable_render

/-! ## Scripts -/

/-- The console can take the section. -/
def Section.IsWritable (s : Section) : Prop :=
  IsPrintable s.name ∧ ∀ line ∈ s.lines, line.IsWritable

instance (s : Section) : Decidable s.IsWritable :=
  inferInstanceAs (Decidable (IsPrintable s.name ∧ ∀ line ∈ s.lines, line.IsWritable))

theorem Placed.isSafe_iff {p : Placed} : p.isSafe = true ↔ IsPrintable p.text := List.all_eq_true

theorem Section.forall_isSafe_iff {s : Section} :
    (∀ p ∈ s.placed, p.isSafe = true) ↔ s.IsWritable := by
  have hbanner : IsPrintable s.banner ↔ IsPrintable s.name := by
    have hfront : IsPrintable "# --- " := by decide
    have hback : IsPrintable " ---" := by decide
    simp [banner, isPrintable_append, hfront, hback]
  have hlines : (∀ line ∈ s.lines, line.IsWritable) ↔
      ∀ x ∈ s.lines.zipIdx, x.1.IsWritable := by
    rw [← List.forall_mem_map (f := Prod.fst) (P := Line.IsWritable), List.zipIdx_map_fst]
  rw [placed, List.forall_mem_cons, List.forall_mem_map, IsWritable, hlines]
  simp only [Placed.isSafe_iff, hbanner, Line.isPrintable_render]

/-- The console can take the script. -/
def IsWritable (s : Script) : Prop :=
  (∀ text ∈ s.header, IsPrintable text) ∧ ∀ sec ∈ s.sections, sec.IsWritable

instance (s : Script) : Decidable s.IsWritable :=
  inferInstanceAs (Decidable ((∀ text ∈ s.header, IsPrintable text) ∧
    ∀ sec ∈ s.sections, sec.IsWritable))

/-- **A script is written when the console can take all that it is made from.** -/
theorem exists_write_iff {s : Script} : (∃ text, s.write = .ok text) ↔ s.IsWritable := by
  have hsafe : (∃ text, s.write = .ok text) ↔ ∀ p ∈ s.placed, p.isSafe = true := by
    unfold write
    split
    next p hp =>
      refine iff_of_false (by simp) fun h => ?_
      have hunsafe := List.find?_some hp
      rw [h p (List.mem_of_find?_eq_some hp)] at hunsafe
      exact Bool.false_ne_true hunsafe
    next hp =>
      refine iff_of_true ⟨_, rfl⟩ fun p hmem => ?_
      simpa using List.find?_eq_none.mp hp p hmem
  have hheader : ∀ text, IsPrintable (headerLine text) ↔ IsPrintable text := by
    intro text
    have hmark : IsPrintable "# " := by decide
    simp [headerLine, isPrintable_append, hmark]
  rw [hsafe, placed, List.forall_mem_append, List.forall_mem_map, List.forall_mem_flatMap]
  simp only [Placed.isSafe_iff, hheader, ← Section.forall_isSafe_iff, IsWritable]

end SiteRouter.Script

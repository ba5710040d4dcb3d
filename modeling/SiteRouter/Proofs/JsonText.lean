import Mathlib.Data.List.TakeDrop
import SiteRouter.Document.Json
import SiteRouter.Proofs.AddressText
import SiteRouter.Proofs.Records

/-!
# JSON texts read back

A value without signs, fractions and broken parts is plain (`Value.IsPlain`). It is read back from
its text at whatever level it was printed (`readsBack`), and so a document is (`read_render`).

`ReadsBack` says three things besides, on which the induction rests. Something may follow the text
of a value, as long as it does not go on a number (`EndsValue`); the fuel of the reader may be
anything above twice the length of the text; and what is left over is exactly what followed.
-/

namespace SiteRouter.Document

/-- A value that is printed as it is: one of the kinds of which a site is made. -/
inductive Value.IsPlain : Value → Prop where
  | null : IsPlain .null
  | bool (b : Bool) : IsPlain (.bool b)
  | natural (n : Nat) (h : n < 0x10000000000000000) : IsPlain (.natural n)
  | text (s : String) : IsPlain (.text s)
  | list (items : List Value) (h : ∀ v ∈ items, IsPlain v) : IsPlain (.list items)
  | table (entries : List (String × Value)) (h : ∀ e ∈ entries, IsPlain e.2) :
      IsPlain (.table entries)

namespace Json

open Text (isDigitIn ofDigits)

/-! ## White space -/

/-- The character is no white space. -/
def IsSolid (c : Char) : Prop := c ≠ ' ' ∧ c ≠ '\n' ∧ c ≠ '\r' ∧ c ≠ '\t'

instance (c : Char) : Decidable (IsSolid c) := inferInstanceAs (Decidable (_ ∧ _))

theorem skipSpace_cons {c : Char} (h : IsSolid c) (r : List Char) :
    skipSpace (c :: r) = c :: r := by
  obtain ⟨hspace, hfeed, hreturn, htab⟩ := h
  simp [skipSpace, hspace, hfeed, hreturn, htab]

theorem skipSpace_space (r : List Char) : skipSpace (' ' :: r) = skipSpace r := rfl

theorem skipSpace_newLine (level : Nat) (r : List Char) :
    skipSpace ((newLine level).toList ++ r) = skipSpace r := by
  have hspaces : ∀ n, skipSpace (List.replicate n ' ' ++ r) = skipSpace r := by
    intro n
    induction n with
    | zero => rfl
    | succ n ih => rw [List.replicate_succ, List.cons_append, skipSpace_space, ih]
  have hchars : (newLine level).toList = '\n' :: List.replicate (2 * level) ' ' := by
    simp [newLine]
  rw [hchars]
  exact hspaces (2 * level)

/-! ## Texts -/

theorem readUnit_append {cs : List Char} {n : Nat} (hlength : cs.length = 4)
    (hn : Text.number? 16 4 4 cs = some n) (r : List Char) : readUnit (cs ++ r) = some (n, r) := by
  match cs, hlength with
  | [a, b, c, d], _ =>
    show (Text.number? 16 4 4 [a, b, c, d]).map (·, r) = _
    rw [hn, Option.map_some]

/-- The number of a control character in four digits. -/
theorem readUnit_control {n : Nat} (h : n < 32) (r : List Char) :
    readUnit ('0' :: '0' :: ((if n < 16 then ['0'] else []) ++ Nat.toDigits 16 n) ++ r) =
      some (n, r) := by
  have hdigits : ∀ n < 32,
      ('0' :: '0' :: ((if n < 16 then ['0'] else []) ++ Nat.toDigits 16 n)).length = 4 ∧
        Text.number? 16 4 4
          ('0' :: '0' :: ((if n < 16 then ['0'] else []) ++ Nat.toDigits 16 n)) = some n := by
    decide
  exact readUnit_append (hdigits n h).1 (hdigits n h).2 r

/-- A character is read back from how it is printed. -/
theorem readPiece_printChar (c : Char) (r : List Char) :
    readPiece (printChar c ++ r) = some (some c, r) := by
  -- Escapes are read back by computation; what is left are the characters without one of their own.
  unfold printChar
  split
  case h_8 hquote hslash _ _ _ _ _ =>
    split
    next hcontrol =>
      have hlt : c.toNat < 32 := hcontrol
      have hchars : ['\\', 'u', '0', '0'] ++ (if c.toNat < 16 then ['0'] else []) ++
          Nat.toDigits 16 c.toNat ++ r = '\\' :: 'u' ::
            ('0' :: '0' :: ((if c.toNat < 16 then ['0'] else []) ++ Nat.toDigits 16 c.toNat) ++
              r) := by
        simp
      have hhigh : ¬(0xd800 ≤ c.toNat ∧ c.toNat < 0xdc00) := by omega
      have hlow : ¬(0xdc00 ≤ c.toNat ∧ c.toNat < 0xe000) := by omega
      rw [hchars, readPiece, readUnit_control hlt]
      show (if 0xd800 ≤ c.toNat ∧ c.toNat < 0xdc00 then _
        else if 0xdc00 ≤ c.toNat ∧ c.toNat < 0xe000 then _ else _) = _
      rw [if_neg hhigh, if_neg hlow, Char.ofNat_toNat]
      rfl
    next hplain =>
      show readPiece (c :: r) = _
      have hallowed : ¬(c = '"' ∨ c = '\\' ∨ c < ' ') :=
        not_or.mpr ⟨hquote, not_or.mpr ⟨hslash, hplain⟩⟩
      rw [readPiece, if_neg hallowed]
      · exact fun _ h => absurd h hslash
      · exact fun _ _ h => absurd h hslash
  all_goals rfl

/-- A quote does not stand at the start of a printed character. -/
theorem exists_printChar_cons (c : Char) : ∃ d ds, printChar c = d :: ds ∧ d ≠ '"' := by
  unfold printChar
  split
  case h_8 hquote _ _ _ _ _ _ =>
    split
    next => exact ⟨'\\', _, rfl, by decide⟩
    next => exact ⟨c, [], rfl, hquote⟩
  all_goals exact ⟨'\\', _, rfl, by decide⟩

theorem toList_printText (s : String) :
    (printText s).toList = '"' :: (s.toList.flatMap printChar ++ ['"']) := by
  simp [printText]

theorem readTextAfter_printed {cs : List Char} {fuel : Nat} (hfuel : cs.length ≤ fuel)
    (acc r : List Char) : readTextAfter fuel true acc (cs.flatMap printChar ++ '"' :: r) =
      some (some (String.ofList (acc.reverse ++ cs)), r) := by
  induction cs generalizing fuel acc with
  | nil =>
    rw [List.append_nil]
    cases fuel <;> rfl
  | cons c cs ih =>
    obtain ⟨fuel, rfl⟩ : ∃ n, fuel = n + 1 := ⟨fuel - 1, by rw [List.length_cons] at hfuel; omega⟩
    have hread := readPiece_printChar c (cs.flatMap printChar ++ '"' :: r)
    obtain ⟨d, ds, hprint, hd⟩ := exists_printChar_cons c
    rw [List.flatMap_cons, List.append_assoc]
    rw [hprint, List.cons_append] at hread ⊢
    rw [readTextAfter, hread]
    · show readTextAfter fuel true (c :: acc) _ = _
      rw [ih (Nat.le_of_succ_le_succ hfuel), List.reverse_cons, List.append_assoc]
      rfl
    · exact fun _ h => hd (List.cons.inj h).1

/-- A text is read back from how it is printed. -/
theorem readText_printText (s : String) (r : List Char) :
    readText ((printText s).toList ++ r) = some (some s, r) := by
  have hlength : ∀ cs : List Char, cs.length ≤ (cs.flatMap printChar).length := by
    intro cs
    induction cs with
    | nil => exact Nat.le_refl _
    | cons c cs ih =>
      obtain ⟨d, ds, hprint, -⟩ := exists_printChar_cons c
      rw [List.flatMap_cons, List.length_append, hprint, List.length_cons, List.length_cons]
      omega
  have hfuel : s.toList.length ≤ (s.toList.flatMap printChar ++ '"' :: r).length := by
    rw [List.length_append]
    exact Nat.le_add_right_of_le (hlength s.toList)
  rw [toList_printText, List.cons_append, List.append_assoc, List.singleton_append, readText,
    readTextAfter_printed hfuel, List.reverse_nil, List.nil_append, String.ofList_toList]

/-! ## Numbers -/

/-- What follows a value is nothing, a comma or a new line, none of which goes on a number. -/
inductive EndsValue : List Char → Prop where
  | nothing : EndsValue []
  | comma (r : List Char) : EndsValue (',' :: r)
  | newLine (r : List Char) : EndsValue ('\n' :: r)

theorem isDigit_of_mem_toDigits {n : Nat} {c : Char} (hc : c ∈ Nat.toDigits 10 n) :
    isDigit c = true := Text.isDigitIn_of_mem_toDigits (by decide) (by decide) hc

theorem exists_toDigits_cons (n : Nat) :
    ∃ d ds, Nat.toDigits 10 n = d :: ds ∧ isDigit d = true := by
  have hne : Nat.toDigits 10 n ≠ [] := Nat.toDigits_ne_nil
  obtain ⟨d, ds, hdigits⟩ := List.exists_cons_of_ne_nil hne
  have hd : d ∈ Nat.toDigits 10 n := hdigits ▸ List.mem_cons_self ..
  exact ⟨d, ds, hdigits, isDigit_of_mem_toDigits hd⟩

theorem readDigits_append {digits r : List Char} (hne : digits ≠ [])
    (hdigits : ∀ c ∈ digits, isDigit c = true) (hr : EndsValue r) :
    readDigits (digits ++ r) = some (digits, r) := by
  have hrest : r.takeWhile isDigit = [] ∧ r.dropWhile isDigit = r := by
    cases hr <;> exact ⟨rfl, rfl⟩
  have hspan : (digits ++ r).span isDigit = (digits, r) := by
    rw [List.span_eq_takeWhile_dropWhile, List.takeWhile_append_of_pos hdigits,
      List.dropWhile_append_of_pos hdigits, hrest.1, hrest.2, List.append_nil]
  rw [readDigits, hspan]
  exact if_neg hne

theorem readWhole_toDigits (n : Nat) {r : List Char} (hr : EndsValue r) :
    readWhole (Nat.toDigits 10 n ++ r) = some (Nat.toDigits 10 n, r) := by
  have hread := readDigits_append Nat.toDigits_ne_nil
    (fun c (hc : c ∈ Nat.toDigits 10 n) => isDigit_of_mem_toDigits hc) hr
  rcases Nat.eq_zero_or_pos n with rfl | hn
  · have hhead : r.head?.any isDigit = false := by
      cases hr <;> rfl
    show (if r.head?.any isDigit then none else some (['0'], r)) = _
    rw [hhead]
    rfl
  · rw [readWhole, hread]
    -- The digits of no other number than zero start with a zero.
    intro r' h
    have hzero : (Nat.toDigits 10 n).head? = some '0' := by
      obtain ⟨d, ds, hdigits, -⟩ := exists_toDigits_cons n
      rw [hdigits] at h ⊢
      exact congrArg some (List.cons.inj h).1
    exact Nat.pos_iff_ne_zero.mp hn (Text.head?_toDigits n hzero)

/-- A number is read back from its digits. -/
theorem readNumber_toDigits {n : Nat} (hn : n < 0x10000000000000000) {r : List Char}
    (hr : EndsValue r) : readNumber (Nat.toDigits 10 n ++ r) = some (.natural n, r) := by
  have hfraction : readFraction r = some (none, r) := by
    cases hr <;> rfl
  have hexponent : readExponent r = some (none, r) := by
    cases hr <;> rfl
  have hvalue : ∀ written,
      numberValue false (Nat.toDigits 10 n) none none written = .natural n := by
    intro written
    rw [numberValue, Text.ofDigits_toDigits (by decide) (by decide)]
    exact if_pos (by simp [hn])
  obtain ⟨d, ds, hdigits, hd⟩ := exists_toDigits_cons n
  have hsign : ∀ r', d :: (ds ++ r) ≠ '-' :: r' := by
    rintro r' h
    rw [(List.cons.inj h).1] at hd
    exact absurd hd (by decide)
  have hwhole := readWhole_toDigits n hr
  rw [hdigits, List.cons_append] at hwhole ⊢
  unfold readNumber
  split
  next negative rest hsplit =>
    obtain ⟨rfl, rfl⟩ : false = negative ∧ d :: (ds ++ r) = rest := by
      split at hsplit
      next heq => exact absurd heq (hsign _)
      next => exact Prod.mk.inj hsplit
    simp only [Option.bind_eq_bind, hwhole, hfraction, hexponent, Option.bind_some]
    rw [← hdigits, hvalue]
    rfl

/-! ## Values -/

theorem endsValue_newLine (level : Nat) (r : List Char) :
    EndsValue ((newLine level).toList ++ r) := by
  have hchars : (newLine level).toList ++ r =
      '\n' :: (List.replicate (2 * level) ' ' ++ r) := by
    simp [newLine]
  rw [hchars]
  exact .newLine _

theorem readValue_newLine (fuel level : Nat) (r : List Char) :
    readValue fuel ((newLine level).toList ++ r) = readValue fuel r := by
  cases fuel with
  | zero => rfl
  | succ fuel => rw [readValue, readValue, skipSpace_newLine]

theorem readValue_space (fuel : Nat) (r : List Char) :
    readValue fuel (' ' :: r) = readValue fuel r := by
  cases fuel with
  | zero => rfl
  | succ fuel => rw [readValue, readValue, skipSpace_space]

theorem readItems_newLine (fuel level : Nat) (r : List Char) :
    readItems fuel ((newLine level).toList ++ r) = readItems fuel r := by
  cases fuel with
  | zero => rfl
  | succ fuel => rw [readItems, readItems, readValue_newLine]

theorem readEntries_newLine (fuel level : Nat) (r : List Char) :
    readEntries fuel ((newLine level).toList ++ r) = readEntries fuel r := by
  cases fuel with
  | zero => rfl
  | succ fuel => rw [readEntries, readEntries, skipSpace_newLine]

/-- The value is read back from its text at any level, with enough fuel and whatever follows. A
bracket takes two rounds of fuel, one for the list and one for its first item, so that the text is
counted twice. -/
def ReadsBack (v : Value) : Prop :=
  ∀ (level fuel : Nat) (r : List Char), 2 * (print level v).toList.length < fuel → EndsValue r →
    readValue fuel ((print level v).toList ++ r) = some (v, r)

theorem ReadsBack.of_succ {v : Value} (h : ∀ (level fuel : Nat) (r : List Char),
    2 * (print level v).toList.length ≤ fuel → EndsValue r →
      readValue (fuel + 1) ((print level v).toList ++ r) = some (v, r)) : ReadsBack v := by
  intro level fuel r hfuel hr
  obtain ⟨fuel, rfl⟩ : ∃ n, fuel = n + 1 := ⟨fuel - 1, by omega⟩
  exact h level fuel r (Nat.le_of_lt_succ hfuel) hr

/-- The items of a list are read back up to its closing bracket. -/
theorem readItems_printed {v : Value} {vs : List Value} (h : ∀ w ∈ v :: vs, ReadsBack w)
    {level fuel : Nat} (hfuel : 2 * ((print level v).toList.length +
      (printItems level vs).toList.length) + 1 < fuel) (outer : Nat) (r : List Char) :
    readItems fuel ((print level v).toList ++ ((printItems level vs).toList ++
      ((newLine outer).toList ++ ']' :: r))) = some (v :: vs, r) := by
  induction vs generalizing v fuel with
  | nil =>
    obtain ⟨fuel, rfl⟩ : ∃ n, fuel = n + 1 := ⟨fuel - 1, by omega⟩
    have hread := h v (List.mem_cons_self ..) level fuel ((newLine outer).toList ++ ']' :: r)
      (by omega) (endsValue_newLine outer _)
    have hclose : skipSpace ((newLine outer).toList ++ ']' :: r) = ']' :: r := by
      rw [skipSpace_newLine, skipSpace_cons (by decide)]
    rw [printItems, readItems, String.toList_empty, List.nil_append, hread]
    simp only [Option.bind_eq_bind, Option.bind_some, hclose]
    rfl
  | cons w ws ih =>
    have hchars : (printItems level (w :: ws)).toList = ',' :: ((newLine level).toList ++
        ((print level w).toList ++ (printItems level ws).toList)) := by
      simp [printItems]
    -- The comma pays for the round that goes on to the other items.
    rw [hchars, List.length_cons, List.length_append, List.length_append] at hfuel
    obtain ⟨fuel, rfl⟩ : ∃ n, fuel = n + 1 := ⟨fuel - 1, by omega⟩
    rw [List.forall_mem_cons] at h
    have hrest : 2 * ((print level w).toList.length + (printItems level ws).toList.length) + 1 <
      fuel := by omega
    have hrest := ih h.2 hrest
    have hread := h.1 level fuel (',' :: ((newLine level).toList ++ ((print level w).toList ++
      ((printItems level ws).toList ++ ((newLine outer).toList ++ ']' :: r)))))
      (by omega) (.comma _)
    rw [hchars, readItems]
    simp only [List.cons_append, List.append_assoc, hread, Option.bind_eq_bind, Option.bind_some,
      skipSpace_cons (by decide : IsSolid ','), readItems_newLine, hrest]
    rfl

/-- The entries of a table are read back up to its closing brace. -/
theorem readEntries_printed {e : String × Value} {es : List (String × Value)}
    (h : ∀ e' ∈ e :: es, ReadsBack e'.2) {level fuel : Nat}
    (hfuel : 2 * ((print level e.2).toList.length + (printEntries level es).toList.length) + 1 <
      fuel)
    (outer : Nat) (r : List Char) :
    readEntries fuel ((printText e.1).toList ++ ':' :: ' ' :: ((print level e.2).toList ++
      ((printEntries level es).toList ++ ((newLine outer).toList ++ '\x7d' :: r)))) =
        some ((e :: es).map fun e => (some e.1, e.2), r) := by
  have hname : ∀ (name : String) (r : List Char),
      readText (skipSpace ((printText name).toList ++ r)) = some (some name, r) := by
    intro name r
    have hread := readText_printText name r
    rw [toList_printText, List.cons_append] at hread ⊢
    rw [skipSpace_cons (by decide), hread]
  induction es generalizing e fuel with
  | nil =>
    obtain ⟨fuel, rfl⟩ : ∃ n, fuel = n + 1 := ⟨fuel - 1, by omega⟩
    have hread := h e (List.mem_cons_self ..) level fuel ((newLine outer).toList ++ '\x7d' :: r)
      (by omega) (endsValue_newLine outer _)
    have hclose : skipSpace ((newLine outer).toList ++ '\x7d' :: r) = '\x7d' :: r := by
      rw [skipSpace_newLine, skipSpace_cons (by decide)]
    rw [printEntries, readEntries, String.toList_empty, List.nil_append, hname]
    simp only [Option.bind_eq_bind, Option.bind_some, skipSpace_cons (by decide : IsSolid ':'),
      readValue_space, hread, hclose]
    rfl
  | cons e' es ih =>
    have hchars : (printEntries level (e' :: es)).toList = ',' :: ((newLine level).toList ++
        ((printText e'.1).toList ++ ':' :: ' ' ::
          ((print level e'.2).toList ++ (printEntries level es).toList))) := by
      simp [printEntries]
    rw [hchars, List.length_cons, List.length_append, List.length_append, List.length_cons,
      List.length_cons, List.length_append] at hfuel
    obtain ⟨fuel, rfl⟩ : ∃ n, fuel = n + 1 := ⟨fuel - 1, by omega⟩
    rw [List.forall_mem_cons] at h
    have hrest :
        2 * ((print level e'.2).toList.length + (printEntries level es).toList.length) + 1 <
          fuel := by omega
    have hrest := ih h.2 hrest
    have hread := h.1 level fuel (',' :: ((newLine level).toList ++ ((printText e'.1).toList ++
      ':' :: ' ' :: ((print level e'.2).toList ++ ((printEntries level es).toList ++
        ((newLine outer).toList ++ '\x7d' :: r)))))) (by omega) (.comma _)
    rw [hchars, readEntries, hname]
    simp only [List.cons_append, List.append_assoc, hread, Option.bind_eq_bind, Option.bind_some,
      skipSpace_cons (by decide : IsSolid ':'), readValue_space,
      skipSpace_cons (by decide : IsSolid ','), readEntries_newLine, hrest]
    rfl

theorem ne_of_isDigit {d c : Char} (hd : isDigit d = true) (hc : isDigit c = false) : d ≠ c := by
  rintro rfl
  rw [hd] at hc
  exact Bool.false_ne_true hc.symm

theorem isSolid_of_isDigit {d : Char} (hd : isDigit d = true) : IsSolid d :=
  ⟨ne_of_isDigit hd rfl, ne_of_isDigit hd rfl, ne_of_isDigit hd rfl, ne_of_isDigit hd rfl⟩

/-- What starts with a digit is read as a number. -/
theorem readValue_digit {d : Char} (hd : isDigit d = true) (fuel : Nat) (r : List Char) :
    readValue (fuel + 1) (d :: r) = readNumber (d :: r) := by
  rw [readValue, skipSpace_cons (isSolid_of_isDigit hd)]
  split
  case h_7 => rfl
  all_goals
    next heq => exact absurd (List.cons.inj heq).1 (ne_of_isDigit hd (by decide))

theorem toList_print_list (level : Nat) (v : Value) (vs : List Value) :
    (print level (.list (v :: vs))).toList = '[' :: ((newLine (level + 1)).toList ++
      ((print (level + 1) v).toList ++ ((printItems (level + 1) vs).toList ++
        ((newLine level).toList ++ [']'])))) := by
  simp [print]

theorem toList_print_table (level : Nat) (e : String × Value) (es : List (String × Value)) :
    (print level (.table (e :: es))).toList = '\x7b' :: ((newLine (level + 1)).toList ++
      ((printText e.1).toList ++ ':' :: ' ' :: ((print (level + 1) e.2).toList ++
        ((printEntries (level + 1) es).toList ++ ((newLine level).toList ++ ['\x7d']))))) := by
  simp [print]

/-- What a plain value is printed as starts neither with white space nor with a bracket that
closes. -/
theorem exists_print_cons {v : Value} (h : v.IsPlain) (level : Nat) :
    ∃ c r, (print level v).toList = c :: r ∧ IsSolid c ∧ c ≠ ']' := by
  cases h with
  | null => exact ⟨'n', ['u', 'l', 'l'], by rw [print]; rfl, by decide, by decide⟩
  | bool b =>
    cases b with
    | true => exact ⟨'t', ['r', 'u', 'e'], by rw [print]; rfl, by decide, by decide⟩
    | false => exact ⟨'f', ['a', 'l', 's', 'e'], by rw [print]; rfl, by decide, by decide⟩
  | natural n hn =>
    obtain ⟨d, ds, hdigits, hd⟩ := exists_toDigits_cons n
    refine ⟨d, ds, ?_, isSolid_of_isDigit hd, ne_of_isDigit hd (by decide)⟩
    rw [print, Text.toList_toString, hdigits]
  | text s => exact ⟨'"', _, by rw [print, toList_printText], by decide, by decide⟩
  | list items _ =>
    cases items with
    | nil => exact ⟨'[', [']'], by rw [print]; rfl, by decide, by decide⟩
    | cons v vs => exact ⟨'[', _, toList_print_list level v vs, by decide, by decide⟩
  | table entries _ =>
    cases entries with
    | nil => exact ⟨'\x7b', ['\x7d'], by rw [print]; rfl, by decide, by decide⟩
    | cons e es => exact ⟨'\x7b', _, toList_print_table level e es, by decide, by decide⟩

theorem tableOf_map (entries : List (String × Value)) :
    tableOf (entries.map fun e => (some e.1, e.2)) = .table entries := by
  rw [tableOf, mapM_map]
  exact fun _ => rfl

theorem readsBack_list {items : List Value} (hitems : ∀ v ∈ items, v.IsPlain)
    (h : ∀ v ∈ items, ReadsBack v) : ReadsBack (.list items) := by
  refine .of_succ fun level fuel r hfuel _ => ?_
  cases items with
  | nil =>
    rw [print]
    show readValue (fuel + 1) ('[' :: ']' :: r) = _
    rw [readValue, skipSpace_cons (by decide)]
    rfl
  | cons v vs =>
    obtain ⟨c, tail, htail, hsolid, hclose⟩ :=
      exists_print_cons (hitems v (List.mem_cons_self ..)) (level + 1)
    rw [toList_print_list] at hfuel ⊢
    simp only [List.length_cons, List.length_append] at hfuel
    have hroom : 2 * ((print (level + 1) v).toList.length +
        (printItems (level + 1) vs).toList.length) + 1 < fuel := by omega
    have hread := readItems_printed h hroom level r
    rw [htail, List.cons_append] at hread
    rw [htail, List.cons_append, readValue, skipSpace_cons (by decide)]
    simp only [List.append_assoc, List.cons_append, List.nil_append, skipSpace_newLine,
      skipSpace_cons hsolid]
    -- The first item does not start like the end of an empty list.
    split
    next heq => exact absurd (List.cons.inj heq).1 hclose
    next =>
      rw [hread]
      rfl

theorem readsBack_table {entries : List (String × Value)} (h : ∀ e ∈ entries, ReadsBack e.2) :
    ReadsBack (.table entries) := by
  refine .of_succ fun level fuel r hfuel _ => ?_
  cases entries with
  | nil =>
    rw [print]
    show readValue (fuel + 1) ('\x7b' :: '\x7d' :: r) = _
    rw [readValue, skipSpace_cons (by decide)]
    rfl
  | cons e es =>
    rw [toList_print_table] at hfuel ⊢
    simp only [List.length_cons, List.length_append] at hfuel
    have hroom : 2 * ((print (level + 1) e.2).toList.length +
        (printEntries (level + 1) es).toList.length) + 1 < fuel := by omega
    have hread := readEntries_printed h hroom level r
    rw [toList_printText, List.cons_append] at hread
    rw [toList_printText, List.cons_append, readValue, skipSpace_cons (by decide)]
    simp only [List.append_assoc, List.cons_append, List.nil_append, skipSpace_newLine,
      skipSpace_cons (by decide : IsSolid '"')] at hread ⊢
    show (readEntries fuel _).map _ = _
    rw [hread, Option.map_some, tableOf_map]

/-- **A plain value is read back from its text.** The induction is on the value: its parts are read
back, and so is the whole. -/
theorem readsBack {v : Value} (h : v.IsPlain) : ReadsBack v := by
  induction h with
  | null =>
    refine .of_succ fun level fuel r _ _ => ?_
    rw [print]
    show readValue (fuel + 1) ('n' :: 'u' :: 'l' :: 'l' :: r) = _
    rw [readValue, skipSpace_cons (by decide)]
    rfl
  | bool b =>
    refine .of_succ fun level fuel r _ _ => ?_
    rw [print]
    cases b with
    | true =>
      show readValue (fuel + 1) ('t' :: 'r' :: 'u' :: 'e' :: r) = _
      rw [readValue, skipSpace_cons (by decide)]
      rfl
    | false =>
      show readValue (fuel + 1) ('f' :: 'a' :: 'l' :: 's' :: 'e' :: r) = _
      rw [readValue, skipSpace_cons (by decide)]
      rfl
  | natural n hn =>
    refine .of_succ fun level fuel r _ hr => ?_
    obtain ⟨d, ds, hdigits, hd⟩ := exists_toDigits_cons n
    have hread := readNumber_toDigits hn hr
    rw [print, Text.toList_toString]
    rw [hdigits, List.cons_append] at hread ⊢
    rw [readValue_digit hd, hread]
  | text s =>
    refine .of_succ fun level fuel r _ _ => ?_
    have hread := readText_printText s r
    rw [print]
    rw [toList_printText, List.cons_append] at hread ⊢
    rw [readValue, skipSpace_cons (by decide)]
    show (readText _).map _ = _
    rw [hread]
    rfl
  | list items hitems ih => exact readsBack_list hitems ih
  | table entries _ ih => exact readsBack_table ih

/-- A plain value is read back from its document. -/
theorem read_render {v : Value} (h : v.IsPlain) : read (render v) = some v := by
  have hread : readValue (2 * (render v).toList.length + 2) (render v).toList = some (v, []) := by
    have hread := readsBack h 0 (2 * (render v).toList.length + 2) [] (by rw [render]; omega)
      .nothing
    rwa [List.append_nil] at hread
  rw [read]
  simp only [hread, Option.bind_eq_bind, Option.bind_some]
  rfl

end Json

end SiteRouter.Document

import SiteRouter.Proofs.Records
import SiteRouter.Proofs.Subnets

/-!
# Addresses as text

What is written as the text of an address is read back from it: `Ipv4.ofString?_render` and
`Cidr.ofString?_render`. The fields of a text are found again because none of them holds the
separator (`Text.fieldsAt_joinWith`), and a number is read back from its digits when there is room
for them (`Text.number?_toDigits`).
-/

namespace SiteRouter

namespace Text

/-! ## Numbers -/

variable {base : Nat}

/-- The characters of digits have the values of the digits. -/
theorem digitValue?_digitChar {d : Nat} (hbase : base ≤ 16) (hd : d < base) :
    digitValue? base d.digitChar = some d := by
  have hvalues : ∀ d < 16, digitValue? 16 (Nat.digitChar d) = some d := by decide
  have hvalue := hvalues d (Nat.lt_of_lt_of_le hd hbase)
  rw [digitValue?, Option.filter_eq_some_iff] at hvalue ⊢
  exact ⟨hvalue.1, decide_eq_true hd⟩

theorem isDigitIn_of_mem_toDigits (hleast : 1 < base) (hbase : base ≤ 16) {n : Nat} {c : Char}
    (hc : c ∈ Nat.toDigits base n) : isDigitIn base c = true := by
  induction n using Nat.strongRecOn with
  | ind n ih =>
    rw [Nat.toDigits_eq_if hleast] at hc
    split at hc
    next hlt =>
      rw [List.mem_singleton.mp hc, isDigitIn, digitValue?_digitChar hbase hlt]
      rfl
    next hle =>
      rcases List.mem_append.mp hc with hc | hc
      · exact ih (n / base) (Nat.div_lt_self (by omega) hleast) hc
      · rw [List.mem_singleton.mp hc, isDigitIn,
          digitValue?_digitChar hbase (Nat.mod_lt n (Nat.zero_lt_of_lt hleast))]
        rfl

/-- A number is read back from its digits. -/
theorem ofDigits_toDigits (hleast : 1 < base) (hbase : base ≤ 16) (n : Nat) :
    ofDigits base (Nat.toDigits base n) = n := by
  induction n using Nat.strongRecOn with
  | ind n ih =>
    rw [Nat.toDigits_eq_if hleast]
    split
    next hlt =>
      show 0 * base + (digitValue? base n.digitChar).getD 0 = n
      rw [digitValue?_digitChar hbase hlt, Nat.zero_mul, Nat.zero_add, Option.getD_some]
    next hle =>
      have hlast := digitValue?_digitChar hbase (Nat.mod_lt n (Nat.zero_lt_of_lt hleast))
      have hfront := ih (n / base) (Nat.div_lt_self (by omega) hleast)
      rw [ofDigits] at hfront ⊢
      rw [List.foldl_append, hfront, List.foldl_cons, List.foldl_nil, hlast, Option.getD_some,
        Nat.div_add_mod']

/-- A number is read back from its digits when that many are allowed. -/
theorem number?_toDigits (hleast : 1 < base) (hbase : base ≤ 16) {most n : Nat}
    (h : (Nat.toDigits base n).length ≤ most) :
    number? base 1 most (Nat.toDigits base n) = some n := by
  have hall : (Nat.toDigits base n).all (isDigitIn base) = true :=
    List.all_eq_true.mpr fun c => isDigitIn_of_mem_toDigits hleast hbase
  rw [number?, if_pos ⟨Nat.length_toDigits_pos, h, hall⟩, ofDigits_toDigits hleast hbase]

theorem toList_toString (n : Nat) : (toString n).toList = Nat.toDigits 10 n := Nat.toList_repr

theorem number?_toString {most n : Nat} (h : (Nat.toDigits 10 n).length ≤ most) :
    number? 10 1 most (toString n).toList = some n := by
  rw [toList_toString]
  exact number?_toDigits (by decide) (by decide) h

/-- A number has no needless zeros in front. -/
theorem head?_toDigits (n : Nat) : (Nat.toDigits 10 n).head? = some '0' → n = 0 := by
  induction n using Nat.strongRecOn with
  | ind n ih =>
    rw [Nat.toDigits_eq_if (by decide)]
    split
    next hlt =>
      have hdigits : ∀ d < 10, [Nat.digitChar d].head? = some '0' → d = 0 := by decide
      exact hdigits n hlt
    next hle =>
      have hfront := ih (n / 10) (by omega)
      rw [List.head?_append, List.head?_eq_some_head Nat.toDigits_ne_nil, Option.some_or,
        ← List.head?_eq_some_head Nat.toDigits_ne_nil]
      intro h
      have := hfront h
      omega

theorem not_mem_toString {sep : Char} (hsep : sep.isDigit = false) (n : Nat) :
    sep ∉ (toString n).toList := by
  intro h
  rw [toList_toString] at h
  rw [Nat.isDigit_of_mem_toDigits (by decide) (by decide) h] at hsep
  exact Bool.false_ne_true hsep.symm

/-! ## Fields -/

theorem fieldsAt_of_not_mem {sep : Char} {f : List Char} (hf : sep ∉ f) : fieldsAt sep f = [f] := by
  induction f with
  | nil => rfl
  | cons c f ih =>
    rw [List.mem_cons, not_or] at hf
    rw [fieldsAt, ih hf.2]
    exact if_neg (Ne.symm hf.1)

/-- Texts without separators are their own fields. -/
theorem flatMap_fieldsAt {sep : Char} {fs : List (List Char)} (h : ∀ f ∈ fs, sep ∉ f) :
    fs.flatMap (fieldsAt sep) = fs := by
  induction fs with
  | nil => rfl
  | cons f fs ih =>
    rw [List.forall_mem_cons] at h
    rw [List.flatMap_cons, fieldsAt_of_not_mem h.1, ih h.2, List.singleton_append]

theorem fieldsAt_cons_sep (sep : Char) (cs : List Char) :
    fieldsAt sep (sep :: cs) = [] :: fieldsAt sep cs := by
  obtain ⟨f, fs, h⟩ := List.exists_cons_of_ne_nil (fieldsAt_ne_nil sep cs)
  rw [fieldsAt, h]
  exact if_pos rfl

theorem fieldsAt_cons_of_ne {sep c : Char} {cs f : List Char} {fs : List (List Char)}
    (hc : c ≠ sep) (h : fieldsAt sep cs = f :: fs) : fieldsAt sep (c :: cs) = (c :: f) :: fs := by
  rw [fieldsAt, h]
  exact if_neg hc

/-- A separator ends the last field of what stands before it. -/
theorem fieldsAt_append_cons (sep : Char) (f cs : List Char) :
    fieldsAt sep (f ++ sep :: cs) = fieldsAt sep f ++ fieldsAt sep cs := by
  induction f with
  | nil => exact fieldsAt_cons_sep sep cs
  | cons c f ih =>
    by_cases hc : c = sep
    · subst hc
      rw [List.cons_append, fieldsAt_cons_sep, fieldsAt_cons_sep, ih, List.cons_append]
    · obtain ⟨g, gs, hf⟩ := List.exists_cons_of_ne_nil (fieldsAt_ne_nil sep f)
      rw [hf, List.cons_append] at ih
      rw [List.cons_append, fieldsAt_cons_of_ne hc ih, fieldsAt_cons_of_ne hc hf, List.cons_append]

theorem fieldsAt_append {sep : Char} {f cs : List Char} (hf : sep ∉ f) :
    fieldsAt sep (f ++ sep :: cs) = f :: fieldsAt sep cs := by
  rw [fieldsAt_append_cons, fieldsAt_of_not_mem hf, List.singleton_append]

/-- Joined texts have the fields of each text. -/
theorem fieldsAt_joinWith_flatMap {sep : Char} {fs : List (List Char)} (hne : fs ≠ []) :
    fieldsAt sep (joinWith sep fs) = fs.flatMap (fieldsAt sep) := by
  induction fs with
  | nil => exact absurd rfl hne
  | cons f fs ih =>
    cases fs with
    | nil => rw [joinWith, List.flatMap_singleton]
    | cons g gs =>
      rw [joinWith, fieldsAt_append_cons, ih (List.cons_ne_nil g gs), List.flatMap_cons (x := f)]

/-- Fields that hold no separator are found where they are joined. -/
theorem fieldsAt_joinWith {sep : Char} {fs : List (List Char)} (hne : fs ≠ [])
    (h : ∀ f ∈ fs, sep ∉ f) : fieldsAt sep (joinWith sep fs) = fs := by
  rw [fieldsAt_joinWith_flatMap hne]
  exact flatMap_fieldsAt h

theorem mem_joinWith {sep c : Char} {fs : List (List Char)} (h : c ∈ joinWith sep fs) :
    c = sep ∨ ∃ f ∈ fs, c ∈ f := by
  induction fs with
  | nil => exact absurd h List.not_mem_nil
  | cons f fs ih =>
    cases fs with
    | nil => exact Or.inr ⟨f, List.mem_singleton_self f, h⟩
    | cons g gs =>
      rcases List.mem_append.mp h with hf | h
      · exact Or.inr ⟨f, List.mem_cons_self .., hf⟩
      rcases List.mem_cons.mp h with hsep | h
      · exact Or.inl hsep
      rcases ih h with hsep | ⟨e, he, hc⟩
      · exact Or.inl hsep
      · exact Or.inr ⟨e, List.mem_cons_of_mem f he, hc⟩

theorem toList_intercalate (sep : Char) (texts : List String) :
    ((String.singleton sep).intercalate texts).toList = joinWith sep (texts.map String.toList) := by
  rw [String.toList_intercalate]
  induction texts with
  | nil => rfl
  | cons t ts ih =>
    cases ts with
    | nil => simp [joinWith, List.intercalate]
    | cons u us =>
      simp only [List.map_cons, joinWith] at ih ⊢
      rw [← ih]
      simp [List.intercalate]

/-- A list is read back from its items, joined by a separator that none of them holds. -/
theorem mapM_fieldsAt_intercalate {α : Type} {sep : Char} {render : α → String}
    {read : List Char → Option α} (hsep : ∀ x, sep ∉ (render x).toList)
    (hread : ∀ x, read (render x).toList = some x) {xs : List α} (hne : xs ≠ []) :
    (fieldsAt sep ((String.singleton sep).intercalate (xs.map render)).toList).mapM read =
      some xs := by
  have hfields : fieldsAt sep ((String.singleton sep).intercalate (xs.map render)).toList =
      xs.map fun x => (render x).toList := by
    rw [toList_intercalate, List.map_map]
    refine fieldsAt_joinWith ?_ ?_
    · exact fun h => hne (List.map_eq_nil_iff.mp h)
    · exact List.forall_mem_map.mpr fun x _ => hsep x
  rw [hfields, Document.mapM_map hread]

end Text

/-! ## Addresses -/

namespace Ipv4

theorem octets_lt {a : Ipv4} : ∀ n ∈ a.octets, n < 256 := by
  have := a.toNat_lt
  simp only [octets, List.forall_mem_cons]
  exact ⟨by omega, by omega, by omega, by omega, List.forall_mem_nil _⟩

theorem paddedOctet?_toString {n : Nat} (h : n < 256) :
    paddedOctet? (toString n).toList = some ⟨n, h⟩ := by
  have hdigits : (Nat.toDigits 10 n).length ≤ 3 :=
    (Nat.length_toDigits_le_iff (by decide) (by decide)).mpr (by omega)
  rw [paddedOctet?, Text.number?_toString hdigits]
  exact dif_pos h

theorem octet?_toString {n : Nat} (h : n < 256) : octet? (toString n).toList = some ⟨n, h⟩ := by
  have hstrict : ¬((toString n).toList.length > 1 ∧ (toString n).toList.head? = some '0') := by
    rw [Text.toList_toString]
    rintro ⟨hlength, hhead⟩
    rw [Text.head?_toDigits n hhead] at hlength
    exact absurd hlength (by decide)
  rw [octet?, if_neg hstrict, paddedOctet?_toString h]

theorem toList_render (a : Ipv4) :
    a.render.toList = Text.joinWith '.' (a.octets.map fun n => (toString n).toList) := by
  have hdot : "." = String.singleton '.' := rfl
  rw [render, hdot, Text.toList_intercalate, List.map_map]
  rfl

theorem not_mem_render {c : Char} (hdot : c ≠ '.') (hc : c.isDigit = false) (a : Ipv4) :
    c ∉ a.render.toList := by
  intro h
  rw [toList_render] at h
  rcases Text.mem_joinWith h with rfl | ⟨f, hf, hcf⟩
  · exact hdot rfl
  · obtain ⟨n, -, rfl⟩ := List.mem_map.mp hf
    exact Text.not_mem_toString hc n hcf

/-- An address is read back from its four octets when each of them is. -/
theorem ofChars?_render_of {octet? : List Char → Option (Fin 256)}
    (hoctet : ∀ (n : Nat) (h : n < 256), octet? (toString n).toList = some ⟨n, h⟩) (a : Ipv4) :
    ofChars? octet? a.render.toList = some a := by
  have hfields : Text.fieldsAt '.' a.render.toList = a.octets.map fun n => (toString n).toList := by
    rw [toList_render]
    refine Text.fieldsAt_joinWith (by simp [octets]) fun f hf => ?_
    obtain ⟨n, -, rfl⟩ := List.mem_map.mp hf
    exact Text.not_mem_toString (by decide) n
  have hlt := a.octets_lt
  rw [ofChars?, hfields]
  simp only [octets, List.map_cons, List.map_nil, List.forall_mem_cons] at hlt ⊢
  obtain ⟨h₁, h₂, h₃, h₄, -⟩ := hlt
  rw [hoctet _ h₁, hoctet _ h₂, hoctet _ h₃, hoctet _ h₄]
  refine congrArg some (eq_of_toNat_eq ?_)
  show ((a.toNat / 0x1000000 * 256 + a.toNat / 0x10000 % 0x100) * 256 +
    a.toNat / 0x100 % 0x100) * 256 + a.toNat % 0x100 = a.toNat
  omega

theorem ofChars?_render (a : Ipv4) : ofChars? paddedOctet? a.render.toList = some a :=
  ofChars?_render_of (fun _ => paddedOctet?_toString) a

theorem ofString?_render (a : Ipv4) : ofString? a.render = some a :=
  ofChars?_render_of (fun _ => octet?_toString) a

end Ipv4

/-- A subnet is read back from its address and the length of its prefix. -/
theorem Cidr.ofString?_render (c : Cidr) : ofString? c.render = some c := by
  have hfields : Text.fieldsAt '/' c.render.toList =
      [c.address.render.toList, (toString c.length).toList] := by
    have hrender : c.render.toList =
        c.address.render.toList ++ '/' :: (toString c.length).toList := by
      simp [render, toString]
    rw [hrender, Text.fieldsAt_append (Ipv4.not_mem_render (by decide) (by decide) _),
      Text.fieldsAt_of_not_mem (Text.not_mem_toString (by decide) _)]
  have hlength := c.length_le
  have hdigits : (Nat.toDigits 10 c.length).length ≤ 2 :=
    (Nat.length_toDigits_le_iff (by decide) (by decide)).mpr (by omega)
  rw [ofString?, hfields]
  simp only [Ipv4.ofChars?_render, Text.number?_toString hdigits]
  exact dif_pos hlength

end SiteRouter

import Rulebook.Proofs.Numeral.Bytes

/-! # Numbers at the front of a text

A text that begins with a number counts as the longest one it begins with. That number can be
found in the bytes of the text: the slice it is read from never cuts a character, and reading it
never fails.
-/

namespace Rulebook.Numeral

variable {cs t p q rest : List Char} {c : Char} {negative : Bool} {m : Magnitude}
  {x y : Binary64} {text : String}

section Longest

/-- A number at the front of the text with its value, than which no number there is longer. -/
structure LongestNumber (t p : List Char) (x : Binary64) : Prop where
  front : p <+: t
  denotes : Denotes p x
  longest : ∀ q y, q <+: t → Denotes q y → q.length ≤ p.length

theorem LongestNumber.unique (hp : LongestNumber t p x) (hq : LongestNumber t q y) :
    p = q ∧ x = y := by
  have hlength : p.length = q.length :=
    le_antisymm (hq.longest p x hp.front hp.denotes) (hp.longest q y hq.front hq.denotes)
  obtain rfl : p = q :=
    (List.prefix_of_prefix_length_le hp.front hq.front hlength.le).eq_of_length hlength
  exact ⟨rfl, hp.denotes.unique hq.denotes⟩

theorem exists_scan_of_denotes (hp : p <+: t) (h : Denotes p x) :
    ∃ y rest, scan t = some (y, rest) ∧ p.length + rest.length ≤ t.length := by
  obtain ⟨r, rfl⟩ := hp
  obtain ⟨y, tail, hscan, htail, -⟩ := scan_append h r
  refine ⟨y, tail, hscan, ?_⟩
  have := htail.length_le
  rw [List.length_append]
  omega

theorem exists_longestNumber_of_scan (h : scan t = some (x, rest)) :
    ∃ p, LongestNumber t p x := by
  obtain ⟨p, rfl, hx⟩ := exists_denotes_of_scan h
  refine ⟨p, List.prefix_append p rest, hx, fun q y hq hy => ?_⟩
  obtain ⟨z, tail, hscan, hlength⟩ := exists_scan_of_denotes hq hy
  rw [h] at hscan
  cases hscan
  rw [List.length_append] at hlength
  omega

/-- A text counts as the longest number it begins with. -/
theorem leading?_eq_some_iff :
    leading? text = some x ↔ ∃ p, LongestNumber (Text.dropBlanks text.toList) p x := by
  simp only [leading?, Option.map_eq_some_iff, Prod.exists, exists_and_right, exists_eq_right]
  constructor
  · rintro ⟨rest, hscan⟩
    exact exists_longestNumber_of_scan hscan
  · rintro ⟨p, hp⟩
    obtain ⟨y, rest, hscan, -⟩ := exists_scan_of_denotes hp.front hp.denotes
    obtain ⟨q, hq⟩ := exists_longestNumber_of_scan hscan
    obtain ⟨-, rfl⟩ := hp.unique hq
    exact ⟨rest, hscan⟩

theorem leading?_eq_none_iff :
    leading? text = none ↔ ¬ ∃ p x, p <+: Text.dropBlanks text.toList ∧ Denotes p x := by
  rw [leading?, Option.map_eq_none_iff]
  constructor
  · rintro h ⟨p, x, hp, hx⟩
    obtain ⟨y, rest, hscan, -⟩ := exists_scan_of_denotes hp hx
    exact nomatch h.symm.trans hscan
  · intro h
    rw [Option.eq_none_iff_forall_ne_some]
    rintro ⟨x, rest⟩ hscan
    obtain ⟨p, hp⟩ := exists_longestNumber_of_scan hscan
    exact h ⟨p, x, hp.front, hp.denotes⟩

end Longest

section Slices

/-- A whole text as a float: a decimal or one of three words in either case, behind a sign or
none. -/
def float? (cs : List Char) : Option Binary64 :=
  let (negative, unsigned) := splitSign cs
  let word := unsigned.map Char.toLower
  if word = "inf".toList ∨ word = "infinity".toList then some (.infinity negative)
  else if word = "nan".toList then some .nan
  else match scanDecimal unsigned with
    | some (m, []) => some (.signed negative m)
    | _ => none

def withSign (negative : Bool) : Binary64 → Binary64
  | .nan => .nan
  | .signed s m => .signed (s ^^ negative) m

/-- Reading a number at the front by its bytes; a slice that cuts a character gives no outcome. -/
def leadingInBytes (text : String) : Option (Option Binary64) :=
  let (negative, unsigned) := splitSign (Text.dropBlanks text.toList)
  if "Infinity".toList.isPrefixOf unsigned then some (some (.infinity negative))
  else match decimalEnd? (utf8 unsigned) with
    | none => some none
    | some stop => (splitAtByte? unsigned stop).map fun (front, _) =>
      (float? front).map (withSign negative)

theorem float?_cons (hc : c.isDigit = true ∨ c = '.') :
    float? (c :: cs) = match scanDecimal (c :: cs) with
      | some (m, []) => some (.signed false m)
      | _ => none := by
  have hsign : splitSign (c :: cs) = (false, c :: cs) := by
    refine splitSign_of_ne ?_
    rintro c ⟨⟩
    rcases hc with hc | rfl
    · exact ne_sign_of_digit hc
    · decide
  have hle : c.val ≤ '9'.val := by
    rcases hc with hc | rfl
    · exact of_decide_eq_true (Bool.and_eq_true_iff.mp hc).2
    · decide
  have hlower : c.toLower = c := dif_neg fun hupper =>
    absurd (UInt32.le_trans hupper.1 hle) (by decide)
  -- The words begin with letters, which are above all digits and the point.
  have hword (l : Char) (ls : List Char) (hl : ¬ l.val ≤ '9'.val) :
      (c :: cs).map Char.toLower ≠ l :: ls := by
    rw [List.map_cons, hlower]
    intro h
    exact hl ((List.cons.inj h).1 ▸ hle)
  have hinf : (c :: cs).map Char.toLower ≠ "inf".toList := hword 'i' "nf".toList (by decide)
  have hinfinity : (c :: cs).map Char.toLower ≠ "infinity".toList :=
    hword 'i' "nfinity".toList (by decide)
  have hnan : (c :: cs).map Char.toLower ≠ "nan".toList := hword 'n' "an".toList (by decide)
  simp only [float?, hsign, hinf, hinfinity, hnan, or_self, if_false]

theorem float?_of_decimal (h : DenotesDecimal p m) : float? p = some (.signed false m) := by
  obtain ⟨c, cs, rfl, hc⟩ := h.exists_cons
  rw [float?_cons hc, scanDecimal_eq_nil_iff.mpr h]

/-- A slice that the scan of the bytes takes ends between two characters, and it is a decimal. -/
theorem exists_slice {stop : Nat} (h : decimalEnd? (utf8 cs) = some stop) :
    ∃ front back m, scanDecimal cs = some (m, back) ∧ cs = front ++ back ∧
      splitAtByte? cs stop = some (front, back) ∧ float? front = some (.signed false m) := by
  rcases decimalEnd?_utf8 cs with ⟨-, hnone⟩ | ⟨m, rest, stop', hscan, hstop, hboundary⟩
  · exact nomatch hnone.symm.trans h
  · obtain rfl : stop' = stop := Option.some.inj (hstop.symm.trans h)
    obtain ⟨front, rfl, hlength⟩ := hboundary
    obtain ⟨p, hp, hm⟩ := exists_decimal hscan
    obtain rfl : front = p := List.append_cancel_right hp
    exact ⟨front, rest, m, hscan, rfl, hlength ▸ splitAtByte?_append front rest,
      float?_of_decimal hm⟩

theorem leadingInBytes_eq (text : String) : leadingInBytes text = some (leading? text) := by
  unfold leadingInBytes leading? scan scanUnsigned
  rcases splitSign (Text.dropBlanks text.toList) with ⟨negative, unsigned⟩
  dsimp only
  by_cases hword : "Infinity".toList.isPrefixOf unsigned = true
  · rw [if_pos hword, dropInfinity, if_pos hword]
    rfl
  · rw [if_neg hword, dropInfinity, if_neg hword]
    dsimp only
    rcases decimalEnd?_utf8 unsigned with ⟨hscan, hend⟩ | ⟨m, rest, stop, hscan, hend, -⟩
    · rw [hend, hscan]
      rfl
    · obtain ⟨front, back, m', hscan', -, hsplit, hfloat⟩ := exists_slice hend
      rw [hscan] at hscan'
      cases hscan'
      rw [hend, hscan]
      simp only [hsplit, Option.map_some, hfloat, withSign, Bool.false_xor]

end Slices

/-- A text counts as the longest number behind its blanks, and the way through bytes agrees. -/
theorem leading_takes_longest (text : String) :
    let t := Text.dropBlanks text.toList
    let unsigned := (splitSign t).2
    (∀ x, leading? text = some x ↔ ∃ p, LongestNumber t p x) ∧
    (leading? text = none ↔ ¬ ∃ p x, p <+: t ∧ Denotes p x) ∧
    leadingInBytes text = some (leading? text) ∧
    ∀ stop, decimalEnd? (utf8 unsigned) = some stop →
      ∃ front back m, unsigned = front ++ back ∧
        splitAtByte? unsigned stop = some (front, back) ∧
        float? front = some (.signed false m) := by
  intro t unsigned
  refine ⟨fun x => leading?_eq_some_iff, leading?_eq_none_iff, leadingInBytes_eq text, ?_⟩
  intro stop hstop
  obtain ⟨front, back, m, -, happend, hsplit, hfloat⟩ := exists_slice hstop
  exact ⟨front, back, m, happend, hsplit, hfloat⟩

theorem leading_takes_longest_marked :
    let t := Text.dropBlanks "\u3000-2.5e+é".toList
    let unsigned := (splitSign t).2
    decimalEnd? (utf8 unsigned) = some 3 ∧
      leading? "\u3000-2.5e+é" = some (.signed true (.ofDecimal 25 (-1))) ∧
      (∃ p, LongestNumber t p (.signed true (.ofDecimal 25 (-1)))) ∧
      ∃ front back m, unsigned = front ++ back ∧
        splitAtByte? unsigned 3 = some (front, back) ∧ float? front = some (.signed false m) := by
  intro t unsigned
  have hstop : decimalEnd? (utf8 unsigned) = some 3 := by decide +kernel
  have hvalue : leading? "\u3000-2.5e+é" = some (.signed true (.ofDecimal 25 (-1))) := rfl
  obtain ⟨hlongest, -, -, hslice⟩ := leading_takes_longest "\u3000-2.5e+é"
  exact ⟨hstop, hvalue, (hlongest _).mp hvalue, hslice 3 hstop⟩

end Rulebook.Numeral

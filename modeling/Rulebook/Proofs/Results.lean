import Rulebook.Proofs.Normality
import Rulebook.Proofs.SafeIntegers

/-! # Results as JSON

A result that is sent as JSON arrives as the value that it was, but for infinity, which JSON
cannot write, and for the sign of zero. A number goes as an integer just if it is one that every
reader can tell from its neighbours, so nothing is lost with the point.
-/

namespace Rulebook

namespace Binary64

variable {x : Binary64} {k : Int}

def units? : Binary64 → Option Int
  | nan => none
  | signed negative m =>
    if m.isFinite then some (if negative then -(m.units : Int) else m.units) else none

def IsInteger (x : Binary64) (k : Int) : Prop := x.units? = some (k * unitsPerOne)

/-- The integer that is left without the fraction, as near as 64 bits come to it; NaN has zero. -/
def toInt64 : Binary64 → Int
  | nan => 0
  | signed negative m =>
    let whole : Int := m.units / unitsPerOne
    max (-2 ^ 63) (min (2 ^ 63 - 1) (if negative then -whole else whole))

theorem signed_eq_mul_iff {negative : Bool} {u n : Nat} (hn : 0 < n) :
    (if negative then -(u : Int) else u) = k * n ↔
      u = k.natAbs * n ∧ k = if negative then -(k.natAbs : Int) else k.natAbs := by
  have hfactor (a : Nat) : (if negative then -((a * n : Nat) : Int) else (a * n : Nat)) =
      (if negative then -(a : Int) else a) * n := by split <;> simp
  constructor
  · intro h
    have habs : u = k.natAbs * n := by
      have habs := congrArg Int.natAbs h
      split at habs <;> simpa [Int.natAbs_mul] using habs
    rw [habs, hfactor] at h
    exact ⟨habs, (Int.eq_of_mul_eq_mul_right (by omega) h).symm⟩
  · rintro ⟨rfl, hk⟩
    rw [hfactor, ← hk]

theorem isInteger_signed_iff {negative : Bool} {m : Magnitude} :
    (signed negative m).IsInteger k ↔ m.whole? = some k.natAbs ∧
      k = if negative then -(k.natAbs : Int) else k.natAbs := by
  rw [IsInteger, units?, Magnitude.whole?_eq_some_iff, and_assoc,
    ← signed_eq_mul_iff unitsPerOne_pos]
  cases m.isFinite <;> simp

theorem IsInteger.isFinite (h : x.IsInteger k) : x.isFinite = true := by
  cases x with
  | nan => cases h
  | signed negative m => exact (Magnitude.whole?_eq_some_iff.mp (isInteger_signed_iff.mp h).1).1

theorem safeInt?_eq_some_iff_isInteger :
    x.safeInt? = some k ↔ x.IsInteger k ∧ k.natAbs ≤ maxSafe := by
  cases x with
  | nan => simp [safeInt?, IsInteger, units?]
  | signed negative m =>
    rw [safeInt?_signed, isInteger_signed_iff]
    constructor
    · rintro ⟨n, hn, hm, rfl⟩
      have habs : (if negative then -(n : Int) else n).natAbs = n := by split <;> simp
      rw [habs]
      exact ⟨⟨(Magnitude.whole?_eq_some_iff_of_le hn).mpr hm, rfl⟩, hn⟩
    · rintro ⟨⟨hwhole, hk⟩, hle⟩
      exact ⟨k.natAbs, hle, (Magnitude.whole?_eq_some_iff_of_le hle).mp hwhole, hk⟩

theorem toInt64_of_isInteger (h : x.IsInteger k) (hk : k.natAbs ≤ maxSafe) : x.toInt64 = k := by
  cases x with
  | nan => simp [IsInteger, units?] at h
  | signed negative m =>
    obtain ⟨hwhole, hsign⟩ := isInteger_signed_iff.mp h
    obtain ⟨-, hunits⟩ := Magnitude.whole?_eq_some_iff.mp hwhole
    have hdiv : (m.units : Int) / unitsPerOne = k.natAbs := by
      rw [← Int.natCast_ediv, hunits, Nat.mul_div_cancel _ unitsPerOne_pos]
    have hsafe : maxSafe = 2 ^ 53 - 1 := rfl
    rw [toInt64, hdiv, ← hsign]
    omega

theorem safeInt?_of_isZero (h : x.isZero = true) : x.safeInt? = some 0 :=
  safeInt?_eq_some_iff.mpr ⟨Nat.zero_le _, ofInt_zero_eq_of_isZero h⟩

theorem isFinite_eq_false_iff (hx : x ≠ .nan) :
    x.isFinite = false ↔ x = .infinity false ∨ x = .infinity true := by
  cases x with
  | nan => exact absurd rfl hx
  | signed negative m =>
    cases negative <;> simp [isFinite, infinity, Magnitude.isFinite_eq_false_iff]

end Binary64

namespace Value

variable {x : Binary64} {v : Value} {k : Int}

/-- What arrives of a value that is sent: infinity is lost, and so is the sign of zero. -/
def received : Value → Value
  | number x =>
    if x = .infinity false ∨ x = .infinity true then data .null else number x.dropZeroSign
  | v => v

theorem toJson_eq_integer_iff : (number x).toJson = .integer k ↔ x.safeInt? = some k := by
  rw [toJson, numberToJson]
  cases hsafe : x.safeInt? with
  | some n => simp [Json.integer]
  | none =>
    dsimp only
    split <;> simp [Json.integer]

theorem ofJson_toJson_number (hx : x ≠ .nan) :
    ofJson (number x).toJson = (number x).received := by
  simp only [toJson, numberToJson, received, ← Binary64.isFinite_eq_false_iff hx]
  cases hsafe : x.safeInt? with
  | some k =>
    have hfinite := (Binary64.safeInt?_eq_some_iff_isInteger.mp hsafe).1.isFinite
    rw [if_neg (by simp [hfinite]), ← Binary64.ofInt_of_safeInt? hsafe]
    rfl
  | none =>
    have hzero : ¬ x.isZero = true := by
      intro h
      rw [Binary64.safeInt?_of_isZero h] at hsafe
      cases hsafe
    rw [Binary64.dropZeroSign, if_neg hzero]
    dsimp only
    split
    · next hfinite => simp [ofJson, hfinite, Json.Number.toBinary64]
    · next hfinite => simp [ofJson, hfinite]

theorem ofJson_toJson (h : v.IsNormal) : ofJson v.toJson = v.received := by
  cases h with
  | number negative m => exact ofJson_toJson_number Binary64.noConfusion
  | bool _ | text _ | null | array _ | object _ => rfl

theorem ne_nan_of_isNormal (h : (number x).IsNormal) : x ≠ .nan := by
  cases h
  exact Binary64.noConfusion

/-- The value of an expression arrives as it was sent, but infinity as `null` and zero positive. -/
theorem result_survives_json {e : Expression} {record : Record} (h : e.evaluate record = .ok v) :
    (ofJson v.toJson = v.received ∧ ∀ x, v = .number x → x.dropZeroSign.eq x = true) ∧
    ∀ (x : Binary64) (k : Int),
      ((number x).toJson = .integer k ↔ x.IsInteger k ∧ k.natAbs ≤ 2 ^ 53 - 1) ∧
      ((number x).toJson = .integer k → x.toInt64 = k) := by
  have hnormal := Expression.isNormal_of_evaluate h
  have hinteger (x : Binary64) (k : Int) :
      (number x).toJson = .integer k ↔ x.IsInteger k ∧ k.natAbs ≤ 2 ^ 53 - 1 :=
    toJson_eq_integer_iff.trans Binary64.safeInt?_eq_some_iff_isInteger
  refine ⟨⟨ofJson_toJson hnormal, ?_⟩, fun x k => ⟨hinteger x k, fun hk => ?_⟩⟩
  · rintro x rfl
    exact Binary64.dropZeroSign_eq (ne_nan_of_isNormal hnormal)
  · obtain ⟨hvalue, hsafe⟩ := (hinteger x k).mp hk
    exact Binary64.toInt64_of_isInteger hvalue hsafe

theorem result_survives_json_extremes :
    let largest : Int := 9007199254740991
    let record : Record := ⟨[("n", .integer largest)]⟩
    let negativeZero := Binary64.signed true .zero
    ((Expression.operand "-Infinity").evaluate record = .ok (.number (.infinity true)) ∧
      ofJson (number (.infinity true)).toJson = .data .null) ∧
    ((Expression.operand "-0").evaluate record = .ok (.number negativeZero) ∧
      ofJson (number negativeZero).toJson = .number .zero ∧
      Binary64.zero.eq negativeZero = true) ∧
    (Expression.operand "n").evaluate record = .ok (.number (.ofInt largest)) ∧
      (number (.ofInt largest)).toJson = .integer largest ∧
      (Binary64.ofInt largest).IsInteger largest ∧ (Binary64.ofInt largest).toInt64 = largest := by
  intro largest record negativeZero
  have hinfinity : (Expression.operand "-Infinity").evaluate record =
      .ok (.number (.infinity true)) := rfl
  have hzero : (Expression.operand "-0").evaluate record = .ok (.number negativeZero) := rfl
  have hlargest : (Expression.operand "n").evaluate record = .ok (.number (.ofInt largest)) := rfl
  have hsent : (number (.ofInt largest)).toJson = .integer largest := by
    rw [toJson_eq_integer_iff]
    decide +kernel
  obtain ⟨⟨hnull, -⟩, -⟩ := result_survives_json hinfinity
  obtain ⟨⟨hpositive, hsame⟩, -⟩ := result_survives_json hzero
  obtain ⟨hinteger, hcast⟩ := (result_survives_json hlargest).2 (.ofInt largest) largest
  exact ⟨⟨hinfinity, hnull⟩, ⟨hzero, hpositive, hsame negativeZero rfl⟩, hlargest, hsent,
    (hinteger.mp hsent).1, hcast hsent⟩

end Value

end Rulebook

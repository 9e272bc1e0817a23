import SmartDevice.Uuid
import Mathlib.Data.Int.Notation
import Mathlib.Tactic.IntervalCases

/-! # Where an identifier keeps its time and its random bits

Of the random bits 74 are kept at their places. The version and the variant take the other six. -/

namespace SmartDevice.Uuid

variable (time : ℤ) (random : BitVec 80) {i : ℕ}

/-! ## Single bits -/

theorem freeBits_getLsbD : ∀ i < 128,
    freeBits.getLsbD i = decide (i < 62 ∨ 64 ≤ i ∧ i < 76 ∨ 80 ≤ i) := by
  decide

theorem version7_getLsbD : ∀ i < 128,
    version7.getLsbD i = decide (i = 63 ∨ 76 ≤ i ∧ i < 79) := by
  decide

theorem ofTime_getLsbD (h : i < 128) :
    (ofTime time random).bits.getLsbD i =
      ((decide (80 ≤ i) && (BitVec.ofInt 48 time).getLsbD (i - 80) || random.getLsbD i) &&
          decide (i < 62 ∨ 64 ≤ i ∧ i < 76 ∨ 80 ≤ i) ||
        decide (i = 63 ∨ 76 ≤ i ∧ i < 79)) := by
  have htime : ((BitVec.ofInt 48 time).setWidth 128 <<< 80).getLsbD i =
      (decide (80 ≤ i) && (BitVec.ofInt 48 time).getLsbD (i - 80)) := by
    by_cases hi : i < 80
    · simp [hi, Nat.not_le_of_lt hi]
    · simp [h, hi, Nat.le_of_not_lt hi]
  have hrandom : (random.setWidth 128).getLsbD i = random.getLsbD i := by
    simp [h]
  simp only [ofTime, BitVec.getLsbD_or, BitVec.getLsbD_and, freeBits_getLsbD i h,
    version7_getLsbD i h, htime, hrandom]

/-- Places that neither the time nor the version nor the variant takes. -/
theorem ofTime_getLsbD_of_free (h : i < 62 ∨ 64 ≤ i ∧ i < 76) :
    (ofTime time random).bits.getLsbD i = random.getLsbD i := by
  have hbelow : ¬ 80 ≤ i := by omega
  have hfree : i < 62 ∨ 64 ≤ i ∧ i < 76 ∨ 80 ≤ i := by omega
  have hmark : ¬ (i = 63 ∨ 76 ≤ i ∧ i < 79) := by omega
  rw [ofTime_getLsbD _ _ (by omega), decide_eq_false hbelow, decide_eq_true hfree,
    decide_eq_false hmark, Bool.false_and, Bool.false_or, Bool.and_true, Bool.or_false]

/-! ## Fields -/

theorem version?_eq_seven_iff (id : Uuid) :
    id.version? = some 7 ↔ id.bits.extractLsb' 62 2 = 2#2 ∧ id.bits.extractLsb' 76 4 = 7#4 := by
  unfold version?
  split
  · next hvariant =>
      simp only [Option.some.injEq, hvariant, true_and]
      exact ⟨fun h => BitVec.eq_of_toNat_eq h, fun h => congrArg BitVec.toNat h⟩
  · next hvariant => simp [hvariant]

theorem version?_ofTime : (ofTime time random).version? = some 7 := by
  have hvariant : (ofTime time random).bits.extractLsb' 62 2 = 2#2 := by
    refine BitVec.eq_of_getLsbD_eq fun i hi => ?_
    rw [BitVec.getLsbD_extractLsb', ofTime_getLsbD _ _ (by omega)]
    interval_cases i <;> simp
  have hversion : (ofTime time random).bits.extractLsb' 76 4 = 7#4 := by
    refine BitVec.eq_of_getLsbD_eq fun i hi => ?_
    rw [BitVec.getLsbD_extractLsb', ofTime_getLsbD _ _ (by omega)]
    interval_cases i <;> simp
  rw [version?, if_pos hvariant, hversion]
  rfl

theorem ushiftRight_ofTime :
    (ofTime time random).bits >>> 80 = (BitVec.ofInt 48 time).setWidth 128 := by
  refine BitVec.eq_of_getLsbD_eq fun i hi => ?_
  rw [BitVec.getLsbD_ushiftRight, BitVec.getLsbD_setWidth]
  by_cases htime : i < 48
  · rw [ofTime_getLsbD _ _ (by omega)]
    simp [hi]
    omega
  · rw [BitVec.getLsbD_of_ge _ _ (by omega : 128 ≤ 80 + i),
      BitVec.getLsbD_of_ge _ _ (by omega : 48 ≤ i), Bool.and_false]

/-- Of the time 48 bits are kept. -/
theorem timestamp_ofTime : ((ofTime time random).timestamp : ℤ) = time % 2 ^ 48 := by
  rw [timestamp, ushiftRight_ofTime, BitVec.toNat_setWidth, BitVec.toNat_ofInt]
  omega

theorem extractLsb'_high_ofTime :
    (ofTime time random).bits.extractLsb' 64 12 = random.extractLsb' 64 12 := by
  refine BitVec.eq_of_getLsbD_eq fun i hi => ?_
  rw [BitVec.getLsbD_extractLsb', BitVec.getLsbD_extractLsb',
    ofTime_getLsbD_of_free _ _ (by omega)]

theorem extractLsb'_low_ofTime :
    (ofTime time random).bits.extractLsb' 0 62 = random.extractLsb' 0 62 := by
  refine BitVec.eq_of_getLsbD_eq fun i hi => ?_
  rw [BitVec.getLsbD_extractLsb', BitVec.getLsbD_extractLsb',
    ofTime_getLsbD_of_free _ _ (by omega)]

/-- A version 7 identifier that was made at a time from random bits. -/
structure Carries (id : Uuid) (time : ℤ) (random : BitVec 80) : Prop where
  version : id.version? = some 7
  timestamp : (id.timestamp : ℤ) = time % 2 ^ 48
  high : id.bits.extractLsb' 64 12 = random.extractLsb' 64 12
  low : id.bits.extractLsb' 0 62 = random.extractLsb' 0 62

theorem carries_ofTime : (ofTime time random).Carries time random where
  version := version?_ofTime time random
  timestamp := timestamp_ofTime time random
  high := extractLsb'_high_ofTime time random
  low := extractLsb'_low_ofTime time random

end SmartDevice.Uuid

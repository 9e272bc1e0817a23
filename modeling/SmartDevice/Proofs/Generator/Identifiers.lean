import SmartDevice.Proofs.Generator.Draws
import Mathlib.Data.List.Induction

/-! # New identifiers, bit by bit

The ten random bytes are one number of 80 bits. Of these 74 stay at their places, so two identifiers
of the same time are the same exactly if these bits are. -/

namespace SmartDevice

open Apply

/-! ## The bits of a number in bytes -/

/-- A bit of a number that is given in bytes, the most significant first. -/
def bitOf (bytes : List UInt8) (i : ℕ) : Bool :=
  (bytes.reverse.getD (i / 8) 0).toNat.testBit (i % 8)

theorem testBit_natOfBytes (bytes : List UInt8) (i : ℕ) :
    (Key.natOfBytes bytes).testBit i = bitOf bytes i := by
  induction bytes using List.reverseRecOn generalizing i with
  | nil => simp [Key.natOfBytes, bitOf]
  | append_singleton bytes byte ih =>
      have hlast : Key.natOfBytes (bytes ++ [byte]) =
          2 ^ 8 * Key.natOfBytes bytes + byte.toNat := by
        simp [Key.natOfBytes]
      rw [hlast, Nat.testBit_two_pow_mul_add _ byte.toNat_lt, bitOf, List.reverse_concat]
      split
      · next h => rw [Nat.div_eq_of_lt h, Nat.mod_eq_of_lt h, List.getD_cons_zero]
      · next h =>
          rw [ih, bitOf, show i / 8 = (i - 8) / 8 + 1 by omega, List.getD_cons_succ,
            show i % 8 = (i - 8) % 8 by omega]

namespace Uuid

/-! ## Places -/

/-- The place takes a random bit. -/
def IsRandom (i : ℕ) : Prop := i < 62 ∨ 64 ≤ i ∧ i < 76

variable (time : ℤ) (random other : BitVec 80)

/-- Elsewhere the random bits make no difference. -/
theorem ofTime_getLsbD_of_not_isRandom {i : ℕ} (h : ¬ IsRandom i) :
    (ofTime time random).bits.getLsbD i = (ofTime time other).bits.getLsbD i := by
  unfold IsRandom at h
  by_cases hi : i < 128
  · rw [ofTime_getLsbD _ _ hi, ofTime_getLsbD _ _ hi]
    by_cases htime : 80 ≤ i
    · rw [BitVec.getLsbD_of_ge random i htime, BitVec.getLsbD_of_ge other i htime]
    · have hfree : ¬ (i < 62 ∨ 64 ≤ i ∧ i < 76 ∨ 80 ≤ i) := by omega
      simp only [hfree, decide_false, Bool.and_false]
  · rw [BitVec.getLsbD_of_ge _ i (by omega), BitVec.getLsbD_of_ge _ i (by omega)]

theorem ofTime_eq_iff : ofTime time random = ofTime time other ↔
    ∀ i, IsRandom i → random.getLsbD i = other.getLsbD i := by
  constructor
  · intro h i hi
    rw [← ofTime_getLsbD_of_free time random hi, ← ofTime_getLsbD_of_free time other hi, h]
  · intro h
    have hbits : (ofTime time random).bits = (ofTime time other).bits := by
      refine BitVec.eq_of_getLsbD_eq fun i _ => ?_
      by_cases hi : IsRandom i
      · rw [ofTime_getLsbD_of_free time random hi, ofTime_getLsbD_of_free time other hi, h i hi]
      · exact ofTime_getLsbD_of_not_isRandom time random other hi
    exact (mk.injEq ..).mpr hbits

/-! ## The layout -/

/-- The fields of an identifier from its first bit to its last. -/
structure LaidOut (id : Uuid) (time : ℤ) (bytes : List UInt8) : Prop where
  time : ((id.bits.extractLsb' 80 48).toNat : ℤ) = time % 2 ^ 48
  version : id.bits.extractLsb' 76 4 = 0b0111#4
  high : ∀ i, 64 ≤ i → i < 76 → id.bits.getLsbD i = bitOf bytes i
  variant : id.bits.extractLsb' 62 2 = 0b10#2
  low : ∀ i < 62, id.bits.getLsbD i = bitOf bytes i

theorem getLsbD_natOfBytes (bytes : List UInt8) {i : ℕ} (h : IsRandom i) :
    (BitVec.ofNat 80 (Key.natOfBytes bytes)).getLsbD i = bitOf bytes i := by
  unfold IsRandom at h
  have hi : i < 80 := by omega
  rw [BitVec.getLsbD_ofNat, testBit_natOfBytes, decide_eq_true hi, Bool.true_and]

theorem laidOut_ofTime (bytes : List UInt8) :
    (ofTime time (BitVec.ofNat 80 (Key.natOfBytes bytes))).LaidOut time bytes := by
  have hrandom (i : ℕ) (h : IsRandom i) :
      (ofTime time (BitVec.ofNat 80 (Key.natOfBytes bytes))).bits.getLsbD i = bitOf bytes i := by
    rw [ofTime_getLsbD_of_free _ _ h, getLsbD_natOfBytes bytes h]
  obtain ⟨hvariant, hversion⟩ := (version?_eq_seven_iff _).mp
    (version?_ofTime time (BitVec.ofNat 80 (Key.natOfBytes bytes)))
  refine ⟨?_, hversion, fun i h h' => hrandom i (.inr ⟨h, h'⟩), hvariant,
    fun i h => hrandom i (.inl h)⟩
  rw [← timestamp_ofTime time (BitVec.ofNat 80 (Key.natOfBytes bytes)), timestamp,
    BitVec.extractLsb'_toNat, BitVec.toNat_ushiftRight]
  generalize (ofTime time (BitVec.ofNat 80 (Key.natOfBytes bytes))).bits = bits
  have := bits.isLt
  rw [Nat.mod_eq_of_lt]
  rw [Nat.shiftRight_eq_div_pow]
  omega

/-- The same as a number, in which each field has its weight. -/
theorem toNat_ofTime (n : ℕ) :
    ((ofTime time (BitVec.ofNat 80 n)).bits.toNat : ℤ) =
      time % 2 ^ 48 * 2 ^ 80 + 7 * 2 ^ 76 + (n / 2 ^ 64 % 2 ^ 12 : ℕ) * 2 ^ 64 + 2 * 2 ^ 62 +
        (n % 2 ^ 62 : ℕ) := by
  obtain ⟨hversion, htime, hhigh, hlow⟩ := carries_ofTime time (BitVec.ofNat 80 n)
  obtain ⟨hvariant, hversion⟩ := (version?_eq_seven_iff _).mp hversion
  rw [timestamp, BitVec.toNat_ushiftRight] at htime
  generalize (ofTime time (BitVec.ofNat 80 n)).bits = bits at *
  have hbits := bits.isLt
  rw [← BitVec.toNat_inj] at hvariant hversion hhigh hlow
  simp only [BitVec.extractLsb'_toNat, BitVec.toNat_ofNat, Nat.shiftRight_eq_div_pow]
    at hvariant hversion hhigh hlow htime
  omega

end Uuid

namespace Generator

variable {first second : Generator} {time : ℤ} {bytes others : List UInt8}

/-! ## Making identifiers -/

/-- What a generator is about to use: the time on its clock and the next ten bytes. -/
structure Offers (generator : Generator) (time : ℤ) (bytes : List UInt8) : Prop where
  shown : generator.shown = .ok time
  sound : generator.source.fault = none
  length_eq : bytes.length = 10
  next : bytes <+: generator.source.bytes

theorem uuid_of_offers (h : first.Offers time bytes) :
    ∃ after, uuid first =
      .ok (Uuid.ofTime time (BitVec.ofNat 80 (Key.natOfBytes bytes))) after := by
  obtain ⟨hshown, hsound, hlength, rest, hnext⟩ := h
  have hclock : ∃ clock, readClock first = .ok time { first with clock } := by
    unfold readClock
    unfold shown at hshown
    cases hread : first.clock.read first.time with
    | mk result clock =>
        rw [hread] at hshown
        cases hshown
        exact ⟨clock, rfl⟩
  obtain ⟨clock, hclock⟩ := hclock
  have henough : 10 ≤ first.source.bytes.length := by
    rw [← hnext, List.length_append]
    omega
  have htake : first.source.bytes.take 10 = bytes := by
    rw [← hnext, ← hlength, List.take_left]
  have hdraw : first.source.draw 10 =
      (.ok ⟨bytes, hlength⟩, { first.source with bytes := first.source.bytes.drop 10 }) := by
    unfold RandomSource.draw
    rw [dif_neg (by decide)]
    simp only [hsound, henough, dif_pos, htake]
  unfold uuid
  simp only [bind_apply, hclock, draw, hdraw]
  exact ⟨_, rfl⟩

/-- Two generators that show the same time make version 7 identifiers of 128 bits, with the fields
at their places. The identifiers are the same exactly if the random bits that are kept are, and are
different nowhere but there. -/
theorem uuid_bit_layout (h : first.Offers time bytes) (h' : second.Offers time others) :
    ∃ id other left right, uuid first = .ok id left ∧ uuid second = .ok other right ∧
      id.LaidOut time bytes ∧ id.version? = some 7 ∧ (id.timestamp : ℤ) = time % 2 ^ 48 ∧
      id.bits.toNat < 2 ^ 128 ∧
      (id.bits.toNat : ℤ) = time % 2 ^ 48 * 2 ^ 80 + 7 * 2 ^ 76 +
        (Key.natOfBytes bytes / 2 ^ 64 % 2 ^ 12 : ℕ) * 2 ^ 64 + 2 * 2 ^ 62 +
        (Key.natOfBytes bytes % 2 ^ 62 : ℕ) ∧
      (id = other ↔ ∀ i, Uuid.IsRandom i → bitOf bytes i = bitOf others i) ∧
      ∀ i, id.bits.getLsbD i ≠ other.bits.getLsbD i →
        Uuid.IsRandom i ∧ bitOf bytes i ≠ bitOf others i := by
  obtain ⟨left, hfirst⟩ := uuid_of_offers h
  obtain ⟨right, hsecond⟩ := uuid_of_offers h'
  refine ⟨_, _, left, right, hfirst, hsecond, Uuid.laidOut_ofTime time bytes,
    Uuid.version?_ofTime time _, Uuid.timestamp_ofTime time _, BitVec.isLt _,
    Uuid.toNat_ofTime time _, ?_, fun i hi => ?_⟩
  · rw [Uuid.ofTime_eq_iff]
    refine forall_congr' fun i => imp_congr_right fun hi => ?_
    rw [Uuid.getLsbD_natOfBytes bytes hi, Uuid.getLsbD_natOfBytes others hi]
  · by_cases hrandom : Uuid.IsRandom i
    · rw [Uuid.ofTime_getLsbD_of_free _ _ hrandom, Uuid.ofTime_getLsbD_of_free _ _ hrandom,
        Uuid.getLsbD_natOfBytes bytes hrandom, Uuid.getLsbD_natOfBytes others hrandom] at hi
      exact ⟨hrandom, hi⟩
    · exact absurd (Uuid.ofTime_getLsbD_of_not_isRandom time _ _ hrandom) hi

/-- A generator with just ten bytes and a clock that stands still. -/
def still (time : ℤ) (bytes : List UInt8) : Generator where
  source := { bytes }
  clock := .ticks time []

theorem offers_still (time : ℤ) (h : bytes.length = 10) :
    (still time bytes).Offers time bytes :=
  ⟨rfl, rfl, h, List.prefix_rfl⟩

def allOnes : List UInt8 := List.replicate 10 0xFF

/-- Zeros only where the version and the variant go. -/
def onesButSix : List UInt8 := [0x0F, 0xFF, 0x3F] ++ List.replicate 7 0xFF

/-- The six bits that give way to version and variant make no difference, here one millisecond
before the epoch. -/
theorem replaced_bits_make_no_difference :
    ∃ id left right, uuid (still (-1) allOnes) = .ok id left ∧
      uuid (still (-1) onesButSix) = .ok id right := by
  obtain ⟨id, other, left, right, hfirst, hsecond, -, -, -, -, -, heq, -⟩ :=
    uuid_bit_layout (offers_still (-1) (rfl : allOnes.length = 10))
      (offers_still (-1) (rfl : onesButSix.length = 10))
  have hkept : ∀ i < 76, i < 62 ∨ 64 ≤ i → bitOf allOnes i = bitOf onesButSix i := by
    decide
  obtain rfl : id = other := heq.mpr fun i hi => by
    unfold Uuid.IsRandom at hi
    exact hkept i (by omega) (by omega)
  exact ⟨id, left, right, hfirst, hsecond⟩

end Generator

end SmartDevice

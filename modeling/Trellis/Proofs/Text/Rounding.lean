/-
Decimals are rounded correctly, and shortest decimals are rounded back.

A finite positive number of double precision is `m · 2^e` for one canonical mantissa and exponent
(`Canonical`).  The rationals that should be rounded to it form an interval around it (`RoundsTo`).

A mantissa that is shifted to the right keeps a round bit and a sticky bit, which say where the
exact value lies between two mantissas (`Represents`).  So all that is known of a value when it is
rounded is known exactly, and every decimal in the interval becomes the number (`ofScientific_eq`).

`Binary.contains` asks whether a decimal lies in the interval of a number, in whole numbers only
(`Binary.roundsTo_of_contains`).  The search for a decimal starts at the magnitude of the number,
which is never guessed too high (`Binary.magnitude_le`); a grid with 17 places below it is finer
than half the distance to the next number, so the search ends with a decimal in the interval at the
latest there (`Binary.shortest_roundsTo`).
-/
import Mathlib
import Trellis.Text.Decimal

namespace Trellis.Text

open Float.Model Float.Model.UnpackedFloat

/-- The mantissa and the exponent of a finite positive number of double precision. -/
structure Canonical (m : Nat) (e : Int) : Prop where
  pos : 0 < m
  lt : m < 2 ^ 53
  least : -1074 ≤ e
  most : e ≤ 971
  normal : 2 ^ 52 ≤ m ∨ e = -1074

/-- The rationals that are rounded to `m · 2^e`: those at most half as far away as the next larger
mantissa, or the next smaller one, which is nearer below a power of two. -/
structure RoundsTo (m : Nat) (e : Int) (x : ℚ) : Prop where
  below : ((m : ℚ) - 1 / 2) * 2 ^ e ≤ x
  above : x ≤ ((m : ℚ) + 1 / 2) * 2 ^ e
  narrow : m = 2 ^ 52 → e ≠ -1074 → ((m : ℚ) - 1 / 4) * 2 ^ e ≤ x
  even : x = ((m : ℚ) - 1 / 2) * 2 ^ e ∨ x = ((m : ℚ) + 1 / 2) * 2 ^ e → m % 2 = 0

/-! ### Mantissas with a round bit and a sticky bit -/

/-- What a mantissa and its two bits say of the exact value. -/
def Represents (em : ExtendedMantissa) (y : ℚ) : Prop :=
  match em.roundBit, em.stickyBit with
  | false, false => y = em.mantissa
  | false, true => (em.mantissa : ℚ) < y ∧ y < em.mantissa + 1 / 2
  | true, false => y = em.mantissa + 1 / 2
  | true, true => (em.mantissa : ℚ) + 1 / 2 < y ∧ y < em.mantissa + 1

lemma represents_exact (m : Nat) : Represents (.ofMantissaAndAccuracy m .exact) m := rfl

/-- The quotient of a division and what its remainder says. -/
lemma represents_quotient (n : Nat) {d : Nat} (hd : 0 < d) :
    Represents (.ofMantissaAndAccuracy (n / d) (accuracyOfFraction (n % d) d)) ((n : ℚ) / d) := by
  have hd' : (0 : ℚ) < d := by exact_mod_cast hd
  have hvalue : (n : ℚ) / d = (n / d : ℕ) + (n % d : ℕ) / d := by
    have hsum : (d : ℚ) * (n / d : ℕ) + (n % d : ℕ) = n := by exact_mod_cast Nat.div_add_mod n d
    rw [← hsum, add_div, mul_div_cancel_left₀ _ hd'.ne']
  have hlt : ((n % d : ℕ) : ℚ) / d < 1 := by
    rw [div_lt_one hd']
    exact_mod_cast Nat.mod_lt n hd
  rw [hvalue, accuracyOfFraction]
  split
  · next hzero => simp [hzero, Represents, ExtendedMantissa.ofMantissaAndAccuracy]
  · next hzero =>
    have hpos : (0 : ℚ) < (n % d : ℕ) / d := by
      have : (0 : ℚ) < (n % d : ℕ) := by exact_mod_cast Nat.pos_of_ne_zero hzero
      positivity
    rcases hcmp : compare (2 * (n % d)) d with _ | _ | _
    · have hhalf : ((n % d : ℕ) : ℚ) / d < 1 / 2 := by
        rw [div_lt_iff₀ hd']
        have : (2 * (n % d : ℕ) : ℚ) < d := by exact_mod_cast Nat.compare_eq_lt.1 hcmp
        linarith
      exact ⟨lt_add_of_pos_right _ hpos, (add_lt_add_iff_left _).2 hhalf⟩
    · have hhalf : ((n % d : ℕ) : ℚ) / d = 1 / 2 := by
        rw [div_eq_iff hd'.ne']
        have : (2 * (n % d : ℕ) : ℚ) = d := by exact_mod_cast Nat.compare_eq_eq.1 hcmp
        linarith
      exact congrArg (_ + ·) hhalf
    · have hhalf : (1 : ℚ) / 2 < (n % d : ℕ) / d := by
        rw [lt_div_iff₀ hd']
        have : (d : ℚ) < 2 * (n % d : ℕ) := by exact_mod_cast Nat.compare_eq_gt.1 hcmp
        linarith
      exact ⟨(add_lt_add_iff_left _).2 hhalf, (add_lt_add_iff_left _).2 hlt⟩

namespace Represents

variable {em : ExtendedMantissa} {y : ℚ} {m : Nat}

/-- The mantissa is the whole part of the exact value. -/
lemma floor (h : Represents em y) : (em.mantissa : ℚ) ≤ y ∧ y < em.mantissa + 1 := by
  rcases em with ⟨n, _ | _, _ | _⟩ <;> simp only [Represents] at h ⊢ <;> constructor <;> linarith

lemma shiftRightOne (h : Represents em y) : Represents em.shiftRightOne (y / 2) := by
  rcases em with ⟨n, round, sticky⟩
  have hsum : (2 * (n / 2 : ℕ) + (n % 2 : ℕ) : ℚ) = n := by exact_mod_cast Nat.div_add_mod n 2
  rcases Nat.mod_two_eq_zero_or_one n with
    hn | hn <;> rcases round with _ | _ <;> rcases sticky with _ | _ <;>
    simp only [Represents, ExtendedMantissa.shiftRightOne, hn, Nat.cast_zero, Nat.cast_one,
      bne_self_eq_false,
      show (1 != 0) = true from rfl, Bool.or_true, Bool.or_false] at h hsum ⊢ <;>
    first
    | linarith
    | exact ⟨by linarith, by linarith⟩

/-- Shifting loses nothing that rounding depends on. -/
lemma shiftRight (h : Represents em y) (k : Nat) : Represents (em >>> k) (y / 2 ^ k) := by
  change Represents (Nat.repeat ExtendedMantissa.shiftRightOne k em) (y / 2 ^ k)
  induction k with
  | zero => simpa [Nat.repeat] using h
  | succ k ih =>
    rw [pow_succ, ← div_div]
    exact ih.shiftRightOne

/-- Rounding gives the mantissa next to the exact value, and the even one of two. -/
theorem roundedMantissa (h : Represents em y) (hbelow : (m : ℚ) - 1 / 2 ≤ y)
    (habove : y ≤ m + 1 / 2)
    (heven : y = (m : ℚ) - 1 / 2 ∨ y = m + 1 / 2 → m % 2 = 0) : em.roundedMantissa = m := by
  have hnear : em.mantissa = m ∨ em.mantissa + 1 = m ∧ (em.mantissa : ℚ) + 1 / 2 ≤ y := by
    have hfloor := h.floor
    have hle : em.mantissa ≤ m := by
      by_contra hgt
      have : (m : ℚ) + 1 ≤ em.mantissa := by exact_mod_cast Nat.lt_of_not_le hgt
      linarith
    have hge : m ≤ em.mantissa + 1 := by
      by_contra hgt
      have : (em.mantissa : ℚ) + 2 ≤ m := by exact_mod_cast Nat.lt_of_not_le hgt
      linarith
    rcases Nat.eq_or_lt_of_le hle with heq | hlt
    · exact .inl heq
    · have hnext : em.mantissa + 1 = m := by omega
      have : (em.mantissa : ℚ) + 1 = m := by exact_mod_cast hnext
      exact .inr ⟨hnext, by linarith⟩
  rcases em with ⟨n, round, sticky⟩
  simp only at hnear
  -- one case for each of the two candidates and each reading of the two bits
  rcases hnear with rfl | ⟨rfl, hhalf⟩ <;> rcases round with _ | _ <;> rcases sticky with _ | _ <;>
    simp only [Represents] at h <;>
    simp only [ExtendedMantissa.roundedMantissa, ExtendedMantissa.accuracy,
      Accuracy.roundToNearestEven]
  · have := heven (.inr h)
    omega
  · linarith
  · linarith
  · linarith
  · have hodd : (n + 1) % 2 = 0 := heven (.inl (by push_cast; linarith))
    omega

end Represents

/-! ### Shifting to the exponent of the result -/

section

variable {n : Nat} {k : Int} {a : Accuracy} {x : ℚ}

lemma targetExponent_eq (n : Nat) (k : Int) :
    Format.binary64.targetExponent (totalExponent n k) = max ((n.log2 : Int) + k - 52) (-1074) := by
  simp only [Format.targetExponent, totalExponent, Format.mantissaBits, Format.minExponent]
  norm_num
  omega

/-- A mantissa has enough bits if no bit of the result is missing. -/
def Enough (n : Nat) (k : Int) : Prop := 2 ^ 52 ≤ n ∨ k ≤ -1074

lemma Enough.le_target (h : Enough n k) :
    k ≤ Format.binary64.targetExponent (totalExponent n k) := by
  rw [targetExponent_eq]
  rcases h with h | h
  · have hlog : 52 ≤ n.log2 := (Nat.le_log2 (by omega)).2 h
    omega
  · omega

/-- The exponent of the result is the one that leaves 53 bits, unless it is the least of all. -/
lemma Enough.target (h : Enough n k) (hx : Represents (.ofMantissaAndAccuracy n a) (x / 2 ^ k)) :
    x < 2 ^ (Format.binary64.targetExponent (totalExponent n k) + 53) ∧
      (Format.binary64.targetExponent (totalExponent n k) = -1074 ∨
        2 ^ (Format.binary64.targetExponent (totalExponent n k) + 52) ≤ x) := by
  have hk : (0 : ℚ) < 2 ^ k := by positivity
  have hmantissa : (ExtendedMantissa.ofMantissaAndAccuracy n a).mantissa = n := by
    rcases a with _ | (_ | _ | _) <;> rfl
  obtain ⟨hlow, hhigh⟩ := hx.floor
  rw [hmantissa, le_div_iff₀ hk] at hlow
  rw [hmantissa, div_lt_iff₀ hk] at hhigh
  rw [targetExponent_eq]
  -- a mantissa of zero leaves only what is below the least exponent
  rcases Nat.eq_zero_or_pos n with rfl | hn
  · have hleast : k ≤ -1074 := h.resolve_left (by norm_num)
    have hmax : max ((Nat.log2 0 : Int) + k - 52) (-1074) = -1074 := by simp; omega
    rw [hmax]
    refine ⟨?_, .inl rfl⟩
    calc x < 2 ^ k := by simpa using hhigh
      _ ≤ 2 ^ (-1074 + 53 : Int) := zpow_le_zpow_right₀ (by norm_num) (by omega)
  · have hself : (2 : ℚ) ^ n.log2 ≤ n := by exact_mod_cast Nat.log2_self_le hn.ne'
    have hnext : (n : ℚ) + 1 ≤ 2 ^ (n.log2 + 1) := by exact_mod_cast Nat.lt_log2_self (n := n)
    constructor
    · calc x < ((n : ℚ) + 1) * 2 ^ k := hhigh
        _ ≤ 2 ^ (n.log2 + 1) * 2 ^ k := mul_le_mul_of_nonneg_right hnext hk.le
        _ = 2 ^ ((n.log2 + 1 : ℕ) + k : Int) := by rw [zpow_add₀ (by norm_num), zpow_natCast]
        _ ≤ _ := zpow_le_zpow_right₀ (by norm_num) (by push_cast; omega)
    · rcases max_cases ((n.log2 : Int) + k - 52) (-1074) with ⟨hmax, -⟩ | ⟨hmax, -⟩
      · right
        rw [hmax]
        calc (2 : ℚ) ^ ((n.log2 : Int) + k - 52 + 52) = 2 ^ n.log2 * 2 ^ k := by
              rw [sub_add_cancel, zpow_add₀ (by norm_num), zpow_natCast]
          _ ≤ n * 2 ^ k := mul_le_mul_of_nonneg_right hself hk.le
          _ ≤ x := hlow
      · exact .inl hmax

/-- Shifting to the exponent of the result keeps the exact value. -/
lemma Enough.shift (h : Enough n k) (hx : Represents (.ofMantissaAndAccuracy n a) (x / 2 ^ k)) :
    ∃ em, shiftToTargetExponent Format.binary64 n k a =
        (em, Format.binary64.targetExponent (totalExponent n k)) ∧
      Represents em (x / 2 ^ Format.binary64.targetExponent (totalExponent n k)) := by
  have hle := h.le_target
  set t := Format.binary64.targetExponent (totalExponent n k) with ht
  have hsum : k + ((t - k).toNat : Int) = t := by omega
  refine ⟨ExtendedMantissa.ofMantissaAndAccuracy n a >>> (t - k).toNat, ?_, ?_⟩
  · rw [shiftToTargetExponent, ← ht, shiftToExponent, hsum]
  · have hshift := hx.shiftRight (t - k).toNat
    rwa [div_div, ← zpow_natCast, ← zpow_add₀ (by norm_num), hsum] at hshift

end

/-- A mantissa of at most 53 bits stays as it is. -/
lemma shift_canonical {m : Nat} {e : Int} (hlt : m < 2 ^ 53) (hleast : -1074 ≤ e) :
    shiftToTargetExponent Format.binary64 m e .exact = (⟨m, false, false⟩, e) := by
  have hlog : m.log2 ≤ 52 := by
    by_cases hm : m = 0
    · simp [hm]
    · exact Nat.lt_succ_iff.1 ((Nat.log2_lt hm).2 hlt)
  have hzero : (Format.binary64.targetExponent (totalExponent m e) - e).toNat = 0 := by
    rw [targetExponent_eq]
    omega
  simp [shiftToTargetExponent, shiftToExponent, hzero, HShiftRight.hShiftRight, Nat.repeat,
    ExtendedMantissa.ofMantissaAndAccuracy]

/-- A mantissa that was rounded up to 54 bits loses a zero. -/
lemma shift_carry {e : Int} (hleast : -1074 ≤ e) :
    shiftToTargetExponent Format.binary64 (2 ^ 53) e .exact = (⟨2 ^ 52, false, false⟩, e + 1) := by
  have htarget : Format.binary64.targetExponent (totalExponent (2 ^ 53) e) = e + 1 := by
    rw [targetExponent_eq, Nat.log2_two_pow]
    omega
  rw [shiftToTargetExponent, htarget]
  simp [shiftToExponent, HShiftRight.hShiftRight, Nat.repeat,
    ExtendedMantissa.ofMantissaAndAccuracy,
    ExtendedMantissa.shiftRightOne]

/-! ### Rounding -/

section

variable {m : Nat} {e : Int} {x : ℚ}

namespace Canonical

lemma two_pow_pos (e : Int) : (0 : ℚ) < 2 ^ e := by positivity

/-- What is rounded to a number is positive. -/
lemma pos_of_roundsTo (hc : Canonical m e) (hx : RoundsTo m e x) : 0 < x := by
  have hm : (1 : ℚ) ≤ m := by exact_mod_cast hc.pos
  have : 0 < ((m : ℚ) - 1 / 2) * 2 ^ e := mul_pos (by linarith) (two_pow_pos e)
  exact this.trans_le hx.below

lemma lt_of_roundsTo (hc : Canonical m e) (hx : RoundsTo m e x) : x < 2 ^ (e + 53) := by
  have hm : (m : ℚ) + 1 ≤ 2 ^ 53 := by exact_mod_cast hc.lt
  calc x ≤ ((m : ℚ) + 1 / 2) * 2 ^ e := hx.above
    _ < 2 ^ 53 * 2 ^ e := mul_lt_mul_of_pos_right (by linarith) (two_pow_pos e)
    _ = 2 ^ (e + 53) := by rw [zpow_add₀ (by norm_num), mul_comm]; rfl

end Canonical

/-- What is rounded to a number has the exponent of the number, or is just below a power of two. -/
lemma exponent_of_roundsTo (hc : Canonical m e) (hx : RoundsTo m e x) {t : Int} (hleast : -1074 ≤ t)
    (hlt : x < 2 ^ (t + 53)) (hge : t = -1074 ∨ 2 ^ (t + 52) ≤ x) :
    t = e ∨ (t = e - 1 ∧ m = 2 ^ 52 ∧ e ≠ -1074) := by
  have hupper : t ≤ e := by
    rcases hge with rfl | hge
    · exact hc.least
    · have hpow : (2 : ℚ) ^ (t + 52) < 2 ^ (e + 53) := hge.trans_lt (hc.lt_of_roundsTo hx)
      have := (zpow_lt_zpow_iff_right₀ (by norm_num : (1 : ℚ) < 2)).1 hpow
      omega
  rcases eq_or_ne e (-1074) with rfl | hne
  · exact .inl (by omega)
  have hnormal : (2 ^ 52 : ℚ) ≤ m := by exact_mod_cast hc.normal.resolve_right hne
  have hpow : (2 : ℚ) ^ (e + 51) < 2 ^ (t + 53) := by
    calc (2 : ℚ) ^ (e + 51) = 2 ^ 51 * 2 ^ e := by rw [zpow_add₀ (by norm_num), mul_comm]; rfl
      _ ≤ ((m : ℚ) - 1 / 2) * 2 ^ e :=
        mul_le_mul_of_nonneg_right (by linarith) (Canonical.two_pow_pos e).le
      _ ≤ x := hx.below
      _ < 2 ^ (t + 53) := hlt
  have hlower := (zpow_lt_zpow_iff_right₀ (by norm_num : (1 : ℚ) < 2)).1 hpow
  rcases eq_or_ne t e with rfl | hte
  · exact .inl rfl
  have ht : t = e - 1 := by omega
  refine .inr ⟨ht, ?_, hne⟩
  by_contra hm
  have hnext : (2 ^ 52 : ℚ) + 1 ≤ m := by
    exact_mod_cast Nat.lt_of_le_of_ne (hc.normal.resolve_right hne) (Ne.symm hm)
  have hcontra : x < x := by
    calc x < 2 ^ (t + 53) := hlt
      _ = 2 ^ 52 * 2 ^ e := by
        rw [ht, show e - 1 + 53 = 52 + e by ring, zpow_add₀ (by norm_num)]
        rfl
      _ ≤ ((m : ℚ) - 1 / 2) * 2 ^ e :=
        mul_le_mul_of_nonneg_right (by linarith) (Canonical.two_pow_pos e).le
      _ ≤ x := hx.below
  exact lt_irrefl x hcontra

/-- The mantissa after rounding at the exponent of the number. -/
lemma rounded_same {em : ExtendedMantissa} (hx : RoundsTo m e x) (hem : Represents em (x / 2 ^ e)) :
    em.roundedMantissa = m := by
  have hpos := Canonical.two_pow_pos e
  refine hem.roundedMantissa ?_ ?_ ?_
  · rw [le_div_iff₀ hpos]
    exact hx.below
  · rw [div_le_iff₀ hpos]
    exact hx.above
  · rw [div_eq_iff hpos.ne', div_eq_iff hpos.ne']
    exact hx.even

/-- Below a power of two the mantissa is rounded up to it, one exponent lower. -/
lemma rounded_carry {em : ExtendedMantissa} (hx : RoundsTo (2 ^ 52) e x) (hne : e ≠ -1074)
    (hlt : x < 2 ^ (e + 52)) (hem : Represents em (x / 2 ^ (e - 1))) :
    em.roundedMantissa = 2 ^ 53 := by
  have hpos := Canonical.two_pow_pos (e - 1)
  have hdouble : (2 : ℚ) ^ e = 2 * 2 ^ (e - 1) := by
    rw [mul_comm, ← zpow_add_one₀ (by norm_num), sub_add_cancel]
  have hnarrow := hx.narrow rfl hne
  push_cast at hnarrow
  refine hem.roundedMantissa ?_ ?_ fun _ => by norm_num
  · rw [le_div_iff₀ hpos]
    push_cast
    linarith [hnarrow, hdouble]
  · rw [div_le_iff₀ hpos]
    have : (2 : ℚ) ^ (e + 52) = 2 ^ 53 * 2 ^ (e - 1) := by
      rw [show e + 52 = 53 + (e - 1) by ring, zpow_add₀ (by norm_num)]
      rfl
    push_cast
    linarith

/-- **Correct rounding.** Whatever mantissa and accuracy a value is given with, as long as there are
enough bits, it becomes the number whose interval it lies in. -/
theorem roundWithAccuracy_eq (hc : Canonical m e) (hx : RoundsTo m e x) {n : Nat} {k : Int}
    {a : Accuracy}
    (henough : Enough n k) (hrep : Represents (.ofMantissaAndAccuracy n a) (x / 2 ^ k)) (s : Sign) :
    roundWithAccuracy Format.binary64 s n k a = .finite s m e hc.pos := by
  obtain ⟨em, hshift, hem⟩ := henough.shift hrep
  obtain ⟨hlt, hge⟩ := henough.target hrep
  have hleast : -1074 ≤ Format.binary64.targetExponent (totalExponent n k) := by
    rw [targetExponent_eq]
    omega
  rw [roundWithAccuracy, hshift]
  rcases exponent_of_roundsTo hc hx hleast hlt hge with ht | ⟨ht, rfl, hne⟩
  · rw [ht] at hem ⊢
    simp only [rounded_same hx hem, shift_canonical hc.lt hc.least, hc.pos.ne', dite_false]
  · rw [ht] at hem hlt hleast ⊢
    rw [show e - 1 + 53 = e + 52 by ring] at hlt
    simp only [rounded_carry hx hne hlt hem, shift_carry hleast, sub_add_cancel]
    rfl

/-! ### Decimals -/

/-- A quotient of a long enough numerator has enough bits. -/
lemma enough_quotient {c d : Nat} (hc : c ≠ 0) (hd : d ≠ 0) {k : Nat}
    (hk : (d.log2 : Int) + 53 - c.log2 ≤ k) : 2 ^ 52 ≤ (c <<< k) / d := by
  rw [Nat.le_div_iff_mul_le (Nat.pos_of_ne_zero hd), Nat.shiftLeft_eq]
  calc 2 ^ 52 * d ≤ 2 ^ 52 * 2 ^ (d.log2 + 1) := Nat.mul_le_mul_left _ Nat.lt_log2_self.le
    _ = 2 ^ (52 + (d.log2 + 1)) := (Nat.pow_add 2 52 _).symm
    _ ≤ 2 ^ (c.log2 + k) := Nat.pow_le_pow_right (by norm_num) (by omega)
    _ = 2 ^ c.log2 * 2 ^ k := Nat.pow_add 2 _ k
    _ ≤ c * 2 ^ k := Nat.mul_le_mul_right _ (Nat.log2_self_le hc)

/-- A decimal that is not too large for the search for it. -/
lemma exponent_le_of_roundsTo (hc : Canonical m e) {c : Nat} (hpos : c ≠ 0) {t : Int}
    (hx : RoundsTo m e (c * 10 ^ t)) : t ≤ 2048 := by
  by_contra hgt
  have hone : (1 : ℚ) ≤ c := by exact_mod_cast Nat.one_le_iff_ne_zero.2 hpos
  have hlt : (2 : ℚ) ^ (2048 : Int) < 2 ^ (e + 53) := by
    calc (2 : ℚ) ^ (2048 : Int) ≤ 10 ^ (2048 : Int) :=
          zpow_le_zpow_left₀ (by norm_num) (by norm_num) (by norm_num)
      _ ≤ 10 ^ t := zpow_le_zpow_right₀ (by norm_num) (by omega)
      _ ≤ c * 10 ^ t := le_mul_of_one_le_left (by positivity) hone
      _ < 2 ^ (e + 53) := hc.lt_of_roundsTo hx
  have := (zpow_lt_zpow_iff_right₀ (by norm_num : (1 : ℚ) < 2)).1 hlt
  have := hc.most
  omega

/-- A decimal that is not too small for the search for it. -/
lemma exponent_ge_of_roundsTo (hc : Canonical m e) {c : Nat} {t : Int}
    (hx : RoundsTo m e (c * 10 ^ t)) : -(2048 + (c.log2 : Int)) ≤ t := by
  by_contra hlt
  have hm : (1 : ℚ) ≤ m := by exact_mod_cast hc.pos
  have hnext : (c : ℚ) ≤ 2 ^ (c.log2 + 1) := by exact_mod_cast Nat.lt_log2_self.le
  have hten : (10 : ℚ) ^ t ≤ 2 ^ t := by
    obtain ⟨u, rfl⟩ : ∃ u : ℕ, t = -u := ⟨t.natAbs, by omega⟩
    rw [zpow_neg, zpow_neg, zpow_natCast, zpow_natCast]
    exact inv_anti₀ (by positivity) (pow_le_pow_left₀ (by norm_num) (by norm_num) u)
  have hpow : (2 : ℚ) ^ (e - 1) ≤ 2 ^ ((c.log2 : Int) + 1 + t) := by
    calc (2 : ℚ) ^ (e - 1) = 1 / 2 * 2 ^ e := by rw [zpow_sub_one₀ (by norm_num)]; ring
      _ ≤ ((m : ℚ) - 1 / 2) * 2 ^ e :=
        mul_le_mul_of_nonneg_right (by linarith) (Canonical.two_pow_pos e).le
      _ ≤ c * 10 ^ t := hx.below
      _ ≤ 2 ^ (c.log2 + 1) * 2 ^ t := mul_le_mul hnext hten (by positivity) (by positivity)
      _ = 2 ^ ((c.log2 : Int) + 1 + t) := by
        rw [zpow_add₀ (by norm_num), ← zpow_natCast]
        push_cast
        rfl
  have := (zpow_le_zpow_iff_right₀ (by norm_num : (1 : ℚ) < 2)).1 hpow
  have := hc.least
  omega

/-- Decimals that lie in the interval of a number become that number. -/
theorem ofScientific_eq (hc : Canonical m e) {c : Nat} {t : Int} (hx : RoundsTo m e (c * 10 ^ t)) :
    UnpackedFloat.ofScientific Format.binary64 c t = .finite .positive m e hc.pos := by
  have hpos : c ≠ 0 := by
    rintro rfl
    exact absurd (hc.pos_of_roundsTo hx) (by simp)
  have hlarge := exponent_le_of_roundsTo hc hpos hx
  have hsmall := exponent_ge_of_roundsTo hc hx
  rw [UnpackedFloat.ofScientific, dif_neg hpos, if_neg (by norm_num; omega),
    if_neg (by norm_num; omega)]
  split
  · next ht =>
    obtain ⟨u, rfl⟩ := Int.eq_ofNat_of_zero_le ht
    have hbits : Enough (c <<< 53 * 10 ^ u) (-53) := by
      refine .inl ?_
      rw [Nat.shiftLeft_eq]
      calc 2 ^ 52 ≤ 1 * 2 ^ 53 * 1 := by norm_num
        _ ≤ c * 2 ^ 53 * 10 ^ u :=
          Nat.mul_le_mul (Nat.mul_le_mul_right _ (Nat.pos_of_ne_zero hpos))
            (Nat.pow_pos (by norm_num))
    refine roundWithAccuracy_eq hc hx (a := .exact) hbits ?_ .positive
    have hvalue : (c : ℚ) * (10 : ℚ) ^ (u : Int) / (2 : ℚ) ^ (-53 : Int) =
        ((c <<< 53 * 10 ^ u : ℕ) : ℚ) := by
      rw [Nat.shiftLeft_eq, zpow_natCast]
      push_cast
      norm_num
      ring
    rw [hvalue]
    exact represents_exact _
  · next ht =>
    set d := 10 ^ (-t).toNat with hd
    have hdpos : 0 < d := Nat.pow_pos (by norm_num)
    -- the exponent of the quotient, and how far the numerator is shifted for it
    set k : Int := min (0 - 0)
      (Format.binary64.targetExponent (totalExponent c 0 - totalExponent d 0)) with hk
    have hkle : k ≤ 0 := by omega
    have hbits : Enough ((c <<< (0 - 0 - k).toNat) / d) k := by
      rcases le_or_gt k (-1074) with hle | hgt
      · exact .inr hle
      · refine .inl (enough_quotient hpos hdpos.ne' ?_)
        simp only [Format.targetExponent, totalExponent, Format.mantissaBits,
          Format.minExponent] at hk
        norm_num at hk
        omega
    refine roundWithAccuracy_eq hc hx hbits ?_ .positive
    have hten : (10 : ℚ) ^ t = ((d : ℕ) : ℚ)⁻¹ := by
      rw [hd, Nat.cast_pow, ← zpow_natCast, ← zpow_neg]
      congr 1
      omega
    have htwo : (2 : ℚ) ^ k = ((2 : ℚ) ^ (0 - 0 - k).toNat)⁻¹ := by
      rw [← zpow_natCast, ← zpow_neg]
      congr 1
      omega
    have hvalue : (c : ℚ) * (10 : ℚ) ^ t / (2 : ℚ) ^ k = ((c <<< (0 - 0 - k).toNat : ℕ) : ℚ) /
        (d : ℕ) := by
      rw [hten, htwo, Nat.shiftLeft_eq, div_inv_eq_mul]
      push_cast
      ring
    rw [hvalue]
    exact represents_quotient _ hdpos

end

/-! ### Decimals and their values -/

lemma power_eq (base n : Nat) : power base n = base ^ n := rfl

/-- The number that a decimal stands for. -/
def Decimal.value (d : Decimal) : ℚ := d.digits * 10 ^ d.exponent

/-- The parts of a number of double precision, as they are read off its bits. -/
def Binary.ofParts (m : Nat) (e : Int) : Binary := ⟨m, e, decide (m = 2 ^ 52 ∧ e ≠ -1074)⟩

/-! ### Comparing in whole numbers -/

section

variable (twos tens : Int)

/-- Numerator and denominator stand for `2^twos / 10^tens`. -/
lemma scaleFactor_value :
    ((scaleFactor twos tens).1 : ℚ) * 10 ^ tens = (scaleFactor twos tens).2 * 2 ^ twos := by
  have htwo : ((2 : ℚ) ^ twos.toNat) = 2 ^ (-twos).toNat * 2 ^ twos := by
    rw [← zpow_natCast, ← zpow_natCast, ← zpow_add₀ (by norm_num)]
    congr 1
    omega
  have hten : ((10 : ℚ) ^ tens.toNat) = 10 ^ (-tens).toNat * 10 ^ tens := by
    rw [← zpow_natCast, ← zpow_natCast, ← zpow_add₀ (by norm_num)]
    congr 1
    omega
  simp only [scaleFactor, power_eq]
  push_cast
  rw [htwo, hten]
  ring

lemma scaleFactor_pos : 0 < (scaleFactor twos tens).2 := by
  simp only [scaleFactor, power_eq]
  positivity

/-- Both sides of a comparison in whole numbers are the rationals, times one factor. -/
lemma scaled : ∃ k : ℚ, 0 < k ∧ ∀ a c : Nat,
    ((a * (scaleFactor twos tens).1 : ℕ) : ℚ) = k * (a * 2 ^ twos) ∧
      ((c * (scaleFactor twos tens).2 : ℕ) : ℚ) = k * (c * 10 ^ tens) := by
  have hvalue := scaleFactor_value twos tens
  have hd : (0 : ℚ) < (scaleFactor twos tens).2 := by exact_mod_cast scaleFactor_pos twos tens
  have hten : (0 : ℚ) < 10 ^ tens := by positivity
  refine ⟨(scaleFactor twos tens).2 / 10 ^ tens, by positivity, fun a c => ⟨?_, ?_⟩⟩
  · rw [Nat.cast_mul, div_mul_eq_mul_div, eq_div_iff hten.ne', mul_assoc, hvalue]
    ring
  · rw [Nat.cast_mul, div_mul_eq_mul_div, eq_div_iff hten.ne']
    ring

variable {twos tens} {a c : Nat}

lemma scaled_le : a * (scaleFactor twos tens).1 ≤ c * (scaleFactor twos tens).2 ↔
    (a : ℚ) * 2 ^ twos ≤ c * 10 ^ tens := by
  obtain ⟨k, hk, h⟩ := scaled twos tens
  rw [← @Nat.cast_le ℚ, (h a c).1, (h a c).2, mul_le_mul_iff_right₀ hk]

lemma scaled_ge : c * (scaleFactor twos tens).2 ≤ a * (scaleFactor twos tens).1 ↔
    (c : ℚ) * 10 ^ tens ≤ a * 2 ^ twos := by
  obtain ⟨k, hk, h⟩ := scaled twos tens
  rw [← @Nat.cast_le ℚ, (h a c).1, (h a c).2, mul_le_mul_iff_right₀ hk]

lemma scaled_lt : a * (scaleFactor twos tens).1 < c * (scaleFactor twos tens).2 ↔
    (a : ℚ) * 2 ^ twos < c * 10 ^ tens := by
  rw [← not_le, scaled_ge, not_le]

lemma scaled_gt : c * (scaleFactor twos tens).2 < a * (scaleFactor twos tens).1 ↔
    (c : ℚ) * 10 ^ tens < a * 2 ^ twos := by
  rw [← not_le, scaled_le, not_le]

end

namespace Binary

variable {m : Nat} {e : Int}

/-- A quarter of the distance to the next number. -/
lemma quarter (e : Int) : (2 : ℚ) ^ e = 4 * 2 ^ (e - 2) := by
  rw [show e = 2 + (e - 2) by ring, zpow_add₀ (by norm_num)]
  norm_num

/-- What the test for the interval says. -/
lemma contains_iff {b : Binary} {c : Nat} {tens : Int} : b.contains c tens = true ↔
    if b.mantissa % 2 = 0 then
      ((4 * b.mantissa - (if b.narrow then 1 else 2) : ℕ) : ℚ) * 2 ^ (b.exponent - 2) ≤ c *
      10 ^ tens ∧
        (c : ℚ) * 10 ^ tens ≤ (4 * b.mantissa + 2 : ℕ) * 2 ^ (b.exponent - 2)
    else
      ((4 * b.mantissa - (if b.narrow then 1 else 2) : ℕ) : ℚ) * 2 ^ (b.exponent - 2) < c *
      10 ^ tens ∧
        (c : ℚ) * 10 ^ tens < (4 * b.mantissa + 2 : ℕ) * 2 ^ (b.exponent - 2) := by
  rw [contains]
  simp only [beq_iff_eq]
  by_cases heven : b.mantissa % 2 = 0
  · rw [if_pos heven, if_pos heven, Bool.and_eq_true, decide_eq_true_eq, decide_eq_true_eq,
      scaled_le, scaled_ge]
  · rw [if_neg heven, if_neg heven, Bool.and_eq_true, decide_eq_true_eq, decide_eq_true_eq,
      scaled_lt, scaled_gt]

/-- Decimals that pass the test are rounded to the number. -/
theorem roundsTo_of_contains (hc : Canonical m e) {c : Nat} {tens : Int}
    (h : (ofParts m e).contains c tens = true) : RoundsTo m e (c * 10 ^ tens) := by
  have hpos := hc.pos
  have hp : (0 : ℚ) < 2 ^ (e - 2) := by positivity
  have hquarter := quarter e
  obtain ⟨k, hk, hnarrow, hle⟩ : ∃ k : ℕ, (if (ofParts m e).narrow then 1 else 2) = k ∧
      (m = 2 ^ 52 → e ≠ -1074 → k = 1) ∧ k ≤ 2 :=
    ⟨_, rfl, fun hm he => if_pos (decide_eq_true ⟨hm, he⟩), by split <;> norm_num⟩
  have hlow : ((4 * m - k : ℕ) : ℚ) * 2 ^ (e - 2) = ((m : ℚ) - k / 4) * 2 ^ e := by
    rw [hquarter, Nat.cast_sub (by omega)]
    push_cast
    ring
  have hhigh : ((4 * m + 2 : ℕ) : ℚ) * 2 ^ (e - 2) = ((m : ℚ) + 1 / 2) * 2 ^ e := by
    rw [hquarter]
    push_cast
    ring
  have hhalf : ((m : ℚ) - 1 / 2) * 2 ^ e ≤ ((m : ℚ) - k / 4) * 2 ^ e := by
    have hk2 : (k : ℚ) ≤ 2 := by exact_mod_cast hle
    exact mul_le_mul_of_nonneg_right (by linarith) (by positivity)
  have hmantissa : (ofParts m e).mantissa = m := rfl
  have hexponent : (ofParts m e).exponent = e := rfl
  rw [contains_iff, hk, hmantissa, hexponent, hlow, hhigh] at h
  set x : ℚ := c * 10 ^ tens
  by_cases heven : m % 2 = 0
  · rw [if_pos heven] at h
    refine ⟨hhalf.trans h.1, h.2, fun hm he => ?_, fun _ => heven⟩
    rw [hnarrow hm he, Nat.cast_one] at h
    exact h.1
  · rw [if_neg heven] at h
    refine ⟨hhalf.trans h.1.le, h.2.le, fun hm he => ?_, fun hend => ?_⟩
    · rw [hnarrow hm he, Nat.cast_one] at h
      exact h.1.le
    · rcases hend with hend | hend
      · exact absurd (hhalf.trans_lt h.1) (by rw [hend]; exact lt_irrefl _)
      · exact absurd h.2 (by rw [hend]; exact lt_irrefl _)

/-! ### The magnitude -/

lemma atLeast_iff {b : Binary} {k : Int} : b.atLeast k = true ↔
    (10 : ℚ) ^ k ≤ b.mantissa * 2 ^ b.exponent := by
  have h : 1 * (scaleFactor b.exponent k).2 ≤ b.mantissa * (scaleFactor b.exponent k).1 ↔
      ((1 : ℕ) : ℚ) * 10 ^ k ≤ b.mantissa * 2 ^ b.exponent := scaled_ge
  rw [atLeast, decide_eq_true_eq]
  simpa using h

/-- The logarithm of two to base ten is not guessed too high by more than one. -/
lemma ten_pow_guess {t : Int} (hlow : -1100 ≤ t) (hhigh : t ≤ 1100) :
    (10 : ℚ) ^ (t * 30103 / 100000 - 1) ≤ 2 ^ t := by
  set g := t * 30103 / 100000 - 1 with hg
  rcases le_or_gt 0 g with hge | hlt
  · -- ten to the 59th is at most two to the 196th
    have hpow : ((10 : ℚ) ^ g) ^ 59 ≤ (2 ^ t) ^ 59 := by
      calc ((10 : ℚ) ^ g) ^ 59 = ((10 : ℚ) ^ 59) ^ g := by
            rw [← zpow_natCast, ← zpow_natCast, zpow_comm]
        _ ≤ ((2 : ℚ) ^ 196) ^ g := zpow_le_zpow_left₀ hge (by norm_num) (by norm_num)
        _ = 2 ^ (196 * g) := by rw [zpow_mul, zpow_ofNat]
        _ ≤ 2 ^ (t * 59) := zpow_le_zpow_right₀ (by norm_num) (by omega)
        _ = (2 ^ t) ^ 59 := by rw [zpow_mul, zpow_ofNat]
    rwa [pow_le_pow_iff_left₀ (by positivity) (by positivity) (by norm_num)] at hpow
  · -- two to the 93rd is at most ten to the 28th
    have hpow : ((10 : ℚ) ^ g) ^ 28 ≤ (2 ^ t) ^ 28 := by
      calc ((10 : ℚ) ^ g) ^ 28 = ((10 : ℚ) ^ 28) ^ g := by
            rw [← zpow_natCast, ← zpow_natCast, zpow_comm]
        _ ≤ ((2 : ℚ) ^ 93) ^ g := by
          obtain ⟨j, hj⟩ : ∃ j : ℕ, g = -j := ⟨g.natAbs, by omega⟩
          rw [hj, zpow_neg, zpow_neg, zpow_natCast, zpow_natCast]
          exact inv_anti₀ (by positivity) (pow_le_pow_left₀ (by norm_num) (by norm_num) j)
        _ = 2 ^ (93 * g) := by rw [zpow_mul, zpow_ofNat]
        _ ≤ 2 ^ (t * 28) := zpow_le_zpow_right₀ (by norm_num) (by omega)
        _ = (2 ^ t) ^ 28 := by rw [zpow_mul, zpow_ofNat]
    rwa [pow_le_pow_iff_left₀ (by positivity) (by positivity) (by norm_num)] at hpow

/-- The magnitude is not too high. -/
theorem magnitude_le (hc : Canonical m e) : (10 : ℚ) ^ (ofParts m e).magnitude ≤ m * 2 ^ e := by
  have hlog := (Nat.log2_lt hc.pos.ne').2 hc.lt
  have hleast := hc.least
  have hmost := hc.most
  rw [magnitude]
  split
  · next h => exact (atLeast_iff (b := ofParts m e)).1 h
  · split
    · next h => exact (atLeast_iff (b := ofParts m e)).1 h
    · have hself : (2 : ℚ) ^ m.log2 ≤ m := by exact_mod_cast Nat.log2_self_le hc.pos.ne'
      calc (10 : ℚ) ^ ((e + m.log2) * 30103 / 100000 - 1) ≤ 2 ^ (e + m.log2) :=
            ten_pow_guess (by omega) (by omega)
        _ = 2 ^ m.log2 * 2 ^ e := by rw [zpow_add₀ (by norm_num), zpow_natCast, mul_comm]
        _ ≤ m * 2 ^ e := mul_le_mul_of_nonneg_right hself (by positivity)

/-! ### The search -/

lemma contains_of_onGrid? {b : Binary} {tens : Int} {c : Nat} (h : b.onGrid? tens = some c) :
    b.contains c tens = true := by
  rw [onGrid?] at h
  generalize scaleFactor (b.exponent - 2) tens = factor at h
  rcases factor with ⟨n, d⟩
  simp only at h
  split at h
  · next hboth =>
    rw [Bool.and_eq_true] at hboth
    split at h
    · cases h
      exact hboth.1
    · split at h
      · cases h
        exact hboth.2
      · split at h
        · cases h
          exact hboth.1
        · cases h
          exact hboth.2
  · split at h
    · next hlow =>
      cases h
      exact hlow
    · split at h
      · next hhigh =>
        cases h
        exact hhigh
      · cases h

/-- A point of the grid next to the number that is in the interval is found. -/
lemma isSome_of_contains {b : Binary} {tens : Int} (h : b.contains
      (4 * b.mantissa * (scaleFactor (b.exponent - 2) tens).1 /
      (scaleFactor (b.exponent - 2) tens).2 + 1) tens = true) :
    (b.onGrid? tens).isSome := by
  rw [onGrid?]
  generalize scaleFactor (b.exponent - 2) tens = factor at h
  rcases factor with ⟨n, d⟩
  simp only [h, Bool.and_true, if_true]
  split
  · split
    · rfl
    · split
      · rfl
      · split <;> rfl
  · rfl

/-- On a grid that is finer than half the distance to the next number, the next point of the grid is
in the interval. -/
lemma isSome_onGrid? (hc : Canonical m e) {tens : Int} (hfine : (10 : ℚ) ^ tens < 2 ^ (e - 1)) :
    ((ofParts m e).onGrid? tens).isSome := by
  have hpos := hc.pos
  set below := 4 * m * (scaleFactor (e - 2) tens).1 / (scaleFactor (e - 2) tens).2 with hbelow
  have hp : (0 : ℚ) < 2 ^ (e - 2) := by positivity
  have hd := scaleFactor_pos (e - 2) tens
  -- the point is above the number, by less than the distance between two points
  have hgt : ((4 * m : ℕ) : ℚ) * 2 ^ (e - 2) < (below + 1 : ℕ) * 10 ^ tens := by
    rw [← scaled_lt, hbelow, Nat.add_mul (_ / _), Nat.one_mul]
    exact Nat.lt_div_mul_add hd
  have hle : (below : ℚ) * 10 ^ tens ≤ (4 * m : ℕ) * 2 ^ (e - 2) := by
    rw [← scaled_ge, hbelow]
    exact Nat.div_mul_le_self _ _
  have hhalf : (2 : ℚ) ^ (e - 1) = 2 * 2 ^ (e - 2) := by
    rw [show e - 1 = 1 + (e - 2) by ring, zpow_add₀ (by norm_num), zpow_one]
  have hlow : ∀ k : ℕ, ((4 * m - k : ℕ) : ℚ) * 2 ^ (e - 2) < (below + 1 : ℕ) * 10 ^ tens := by
    intro k
    have hk : ((4 * m - k : ℕ) : ℚ) ≤ (4 * m : ℕ) := by exact_mod_cast Nat.sub_le _ _
    exact (mul_le_mul_of_nonneg_right hk hp.le).trans_lt hgt
  have hhigh : ((below + 1 : ℕ) : ℚ) * 10 ^ tens < (4 * m + 2 : ℕ) * 2 ^ (e - 2) := by
    push_cast at hle ⊢
    linarith
  refine isSome_of_contains (contains_iff.2 ?_)
  split
  · exact ⟨(hlow _).le, hhigh.le⟩
  · exact ⟨hlow _, hhigh⟩

lemma fine_of_magnitude (hc : Canonical m e) : (10 : ℚ) ^ ((ofParts m e).magnitude - 17) <
    2 ^ (e - 1) := by
  have hlt : (m : ℚ) < 2 ^ 53 := by exact_mod_cast hc.lt
  have hp : (0 : ℚ) < 2 ^ e := by positivity
  have hle := magnitude_le hc
  calc (10 : ℚ) ^ ((ofParts m e).magnitude - 17) = 10 ^ (ofParts m e).magnitude / 10 ^ 17 := by
        rw [zpow_sub₀ (by norm_num)]
        rfl
    _ ≤ m * 2 ^ e / 10 ^ 17 := by gcongr
    _ < 2 ^ 53 * 2 ^ e / 10 ^ 17 := by gcongr
    _ ≤ 2 ^ (e - 1) := by
      rw [zpow_sub_one₀ (by norm_num), div_le_iff₀ (by norm_num)]
      linarith

end Binary

/-- Zeros at the end of the digits do not count. -/
lemma Decimal.value_stripZeros (fuel : Nat) (d : Decimal) : (Decimal.stripZeros fuel d).value =
    d.value := by
  induction fuel generalizing d with
  | zero => rfl
  | succ fuel ih =>
    rw [Decimal.stripZeros]
    split
    · next h =>
      rw [ih, value, value]
      simp only [Bool.and_eq_true, beq_iff_eq] at h
      have hten : (10 : ℚ) * (d.digits / 10 : ℕ) = d.digits := by
        exact_mod_cast Nat.mul_div_cancel' (Nat.dvd_of_mod_eq_zero h.2)
      rw [zpow_add_one₀ (by norm_num), ← hten]
      ring
    · rfl

namespace Binary

variable {m : Nat} {e : Int}

/-- The search ends with a decimal in the interval, on the finest grid at the latest. -/
lemma search_roundsTo (hc : Canonical m e) {k : Int} (hfine : (10 : ℚ) ^ (k - 17) < 2 ^ (e - 1))
    (fuel n : Nat) (hn : fuel + n = 17) : RoundsTo m e ((ofParts m e).search k fuel n).value := by
  induction fuel generalizing n with
  | zero =>
    obtain rfl : n = 17 := by omega
    obtain ⟨c, hgrid⟩ := Option.isSome_iff_exists.1 (isSome_onGrid? hc hfine)
    rw [search]
    simp only [Nat.cast_ofNat, hgrid, Option.getD_some]
    exact roundsTo_of_contains hc (contains_of_onGrid? hgrid)
  | succ fuel ih =>
    rw [search]
    split
    · next c hgrid =>
      rw [Decimal.value_stripZeros]
      exact roundsTo_of_contains hc (contains_of_onGrid? hgrid)
    · exact ih (n + 1) (by omega)

/-- **Shortest decimals.**  The shortest decimal of a number is rounded to the number. -/
theorem shortest_roundsTo (hc : Canonical m e) : RoundsTo m e (ofParts m e).shortest.value :=
  search_roundsTo hc (fine_of_magnitude hc) 17 0 rfl

end Binary

end Trellis.Text

/-
Numbers of double precision, bit by bit.

A number is a sign bit, eleven bits of exponent and 52 bits of mantissa; what they say together,
`unpack_cases` lists.  Taking a number apart and putting it together again changes nothing, nor does
the other way round (`unpack_pack`).  So a finite number is a zero or has a sign and a canonical
mantissa and exponent (`finite_cases`), and these are what `binaryOfBits` and `isNegative` read off
its bits.
-/
import Trellis.Proofs.Text.Rounding

namespace Trellis.Text

open Float.Model Float.Model.UnpackedFloat

/-! ### Fields of bits -/

section

variable (b : BitVec Format.binary64.numBits)

lemma toNat_unpackMantissa : (unpackMantissa b).toNat = b.toNat % 2 ^ 52 := by
  simp only [unpackMantissa, BitVec.toNat_cast, BitVec.extractLsb_toNat, Nat.shiftRight_zero]

lemma toNat_unpackExponent : (unpackExponent b).toNat = b.toNat / 2 ^ 52 % 2 ^ 11 := by
  simp only [unpackExponent, BitVec.toNat_cast, BitVec.extractLsb_toNat, Nat.shiftRight_eq_div_pow]

lemma toNat_unpackSign : (unpackSign b).toNat = b.toNat / 2 ^ 63 := by
  have hlt : b.toNat < 2 ^ 64 := b.isLt
  simp only [unpackSign, BitVec.toNat_cast, BitVec.extractLsb_toNat, Nat.shiftRight_eq_div_pow]
  omega

lemma toNat_packComponents (s : Sign) (e : BitVec 11) (m : BitVec 52) :
    (packComponents Format.binary64 s e m).toNat = s.toBitVec.toNat * 2 ^ 63 + e.toNat * 2 ^ 52 +
    m.toNat := by
  have he := e.isLt
  have hm := m.isLt
  rw [packComponents, BitVec.toNat_append, BitVec.toNat_append, ← Nat.shiftLeft_add_eq_or_of_lt hm,
    ← Nat.shiftLeft_add_eq_or_of_lt he, Nat.shiftLeft_eq, Nat.shiftLeft_eq]
  ring

lemma toNat_toBitVec_lt (s : Sign) : s.toBitVec.toNat < 2 := s.toBitVec.isLt

lemma unpackSign_packComponents (s : Sign) (e : BitVec 11) (m : BitVec 52) :
    unpackSign (packComponents Format.binary64 s e m) = s.toBitVec := by
  refine BitVec.eq_of_toNat_eq ?_
  have he := e.isLt
  have hm := m.isLt
  have hs := toNat_toBitVec_lt s
  rw [toNat_unpackSign, toNat_packComponents]
  omega

lemma ofBitVec_toBitVec (s : Sign) : Sign.ofBitVec s.toBitVec = s := by cases s <;> rfl

lemma toBitVec_ofBitVec (c : BitVec 1) : (Sign.ofBitVec c).toBitVec = c := by
  obtain rfl | rfl := BitVec.eq_zero_or_eq_one c <;> rfl

/-- The three fields are all there is. -/
lemma packComponents_unpack :
    packComponents Format.binary64 (Sign.ofBitVec (unpackSign b)) (unpackExponent b)
    (unpackMantissa b) = b := by
  refine BitVec.eq_of_toNat_eq ?_
  have hlt : b.toNat < 2 ^ 64 := b.isLt
  rw [toNat_packComponents, toBitVec_ofBitVec, toNat_unpackSign, toNat_unpackExponent,
    toNat_unpackMantissa]
  omega

/-- What the fields of a number say: infinity or nothing when the exponent is greatest, a zero or a
mantissa that is not normal when it is least, and a normal mantissa in between. -/
inductive Unpacked : UnpackedFloat → Prop
  | infinity (he : (unpackExponent b).toNat = 2047) (s : Sign) : Unpacked (.infinity s)
  | notANumber (he : (unpackExponent b).toNat = 2047) : Unpacked .notANumber
  | zero (he : (unpackExponent b).toNat = 0) (hm : (unpackMantissa b).toNat = 0) :
      Unpacked (.zero (.ofBitVec (unpackSign b)))
  | subnormal (he : (unpackExponent b).toNat = 0) (hm : 0 < (unpackMantissa b).toNat) :
      Unpacked (.finite (.ofBitVec (unpackSign b)) (unpackMantissa b).toNat (-1074) hm)
  | normal (he : 0 < (unpackExponent b).toNat) (hmost : (unpackExponent b).toNat < 2047)
      (hm : 0 < 2 ^ 52 + (unpackMantissa b).toNat) :
      Unpacked (.finite (.ofBitVec (unpackSign b)) (2 ^ 52 + (unpackMantissa b).toNat)
        ((unpackExponent b).toNat - 1075) hm)

lemma finite_congr {s : Sign} {m m' : Nat} {e e' : Int} (hm : m = m') (he : e = e') (hpos : 0 < m) :
    UnpackedFloat.finite s m e hpos = .finite s m' e' (hm ▸ hpos) := by
  subst hm he
  rfl

lemma unpacked : Unpacked b (UnpackedFloat.unpack Format.binary64 b) := by
  have hbias : (Format.binary64.exponentBias : Int) = 1023 := rfl
  rw [UnpackedFloat.unpack]
  simp only
  split
  · next hgreatest =>
    have he : (unpackExponent b).toNat = 2047 := congrArg BitVec.toNat hgreatest
    split
    · exact .infinity he _
    · exact .notANumber he
  · next hgreatest =>
    split
    · next he =>
      have he' : (unpackExponent b).toNat = 0 := congrArg BitVec.toNat he
      split
      · next hm => exact .zero he' (congrArg BitVec.toNat hm)
      · next hm =>
        have hexp : ((unpackExponent b).toNat : Int) -
            ((Format.binary64.exponentBias : Int) +
                (Format.binary64.mantissaBitsWithoutImplicit : Int)) + 1 = -1074 := by
          rw [he', hbias]
          norm_num
        rw [finite_congr rfl hexp]
        exact .subnormal he' _
    · next he =>
      have hpos : 0 < (unpackExponent b).toNat := Nat.pos_of_ne_zero fun hzero =>
        he (BitVec.eq_of_toNat_eq hzero)
      have hlt : (unpackExponent b).toNat < 2047 := by
        have hle : (unpackExponent b).toNat < 2048 := (unpackExponent b).isLt
        have hne : (unpackExponent b).toNat ≠ 2047 :=
          fun hall => hgreatest (BitVec.eq_of_toNat_eq hall)
        omega
      have hmantissa : (1#1 ++ unpackMantissa b).toNat = 2 ^ 52 + (unpackMantissa b).toNat := by
        rw [BitVec.toNat_append, ← Nat.shiftLeft_add_eq_or_of_lt (unpackMantissa b).isLt]
        rfl
      have hexp : ((unpackExponent b).toNat : Int) -
          ((Format.binary64.exponentBias : Int) +
            (Format.binary64.mantissaBitsWithoutImplicit : Int)) =
            (unpackExponent b).toNat - 1075 := by
        rw [hbias]
        norm_num
      rw [finite_congr hmantissa hexp]
      exact .normal hpos hlt _

end

/-! ### Putting together -/

lemma pack_finite {m : Nat} {e : Int} (hc : Canonical m e) (s : Sign) :
    UnpackedFloat.pack Format.binary64 (.finite s m e hc.pos) =
      packComponents Format.binary64 s (BitVec.ofNat 11 (if 2 ^ 52 ≤ m then (e + 1075).toNat
      else 0))
        (BitVec.ofNat 52 m) := by
  have hmost := hc.most
  have hbiased : (e + (Format.binary64.exponentBias : Int) +
    (Format.binary64.mantissaBitsWithoutImplicit : Int)).toNat =
      (e + 1075).toNat := by
    rw [show (Format.binary64.exponentBias : Int) = 1023 from rfl]
    norm_num
    omega
  rw [UnpackedFloat.pack]
  simp only [hbiased]
  rw [if_neg (by norm_num; omega)]
  have hbits : Format.binary64.mantissaBits = 53 := rfl
  by_cases hm : 2 ^ 52 ≤ m
  · have hlog : m.log2 + 1 = Format.binary64.mantissaBits := by
      have := (Nat.le_log2 hc.pos.ne').2 hm
      have := (Nat.log2_lt hc.pos.ne').2 hc.lt
      omega
    rw [if_pos hlog, if_pos hm]
  · have hlog : m.log2 + 1 ≠ Format.binary64.mantissaBits := by
      have := (Nat.log2_lt hc.pos.ne').2 (Nat.lt_of_not_le hm)
      omega
    rw [if_neg hlog, if_neg hm]

/-- Putting a number together loses nothing. -/
theorem unpack_pack {m : Nat} {e : Int} (hc : Canonical m e) (s : Sign) :
    UnpackedFloat.unpack Format.binary64 (UnpackedFloat.pack Format.binary64
    (.finite s m e hc.pos)) =
      .finite s m e hc.pos := by
  have hpos := hc.pos
  have hlt := hc.lt
  have hleast := hc.least
  have hmost := hc.most
  have hnormal := hc.normal
  rw [pack_finite hc]
  set b := packComponents Format.binary64 s (BitVec.ofNat 11 (if 2 ^ 52 ≤ m then (e + 1075).toNat
    else 0))
    (BitVec.ofNat 52 m) with hb
  have hs : Sign.ofBitVec (unpackSign b) = s := by
    rw [hb, unpackSign_packComponents, ofBitVec_toBitVec]
  have hm : (unpackMantissa b).toNat = m % 2 ^ 52 := by
    rw [hb, unpackMantissa_packComponents]
    rfl
  have he : (unpackExponent b).toNat = if 2 ^ 52 ≤ m then (e + 1075).toNat else 0 := by
    rw [hb, unpackExponent_packComponents, BitVec.toNat_ofNat]
    refine Nat.mod_eq_of_lt ?_
    split
    · change (e + 1075).toNat < 2048
      omega
    · norm_num
  have hfields := unpacked b
  generalize UnpackedFloat.unpack Format.binary64 b = u at hfields
  by_cases hge : 2 ^ 52 ≤ m
  · rw [if_pos hge] at he
    cases hfields with
    | normal he' hlt' hpos' =>
      rw [hs]
      exact finite_congr (by omega) (by omega) _
    | _ => omega
  · rw [if_neg hge] at he
    cases hfields with
    | subnormal he' hpos' =>
      rw [hs]
      exact finite_congr (by omega) (by omega) _
    | _ => omega

/-! ### Finite numbers -/

/-- The number that an unpacked one is. -/
def ofUnpacked (u : UnpackedFloat) : Float := .ofModel (.pack u)

lemma toNat_toBits_ofUnpacked (u : UnpackedFloat) :
    (ofUnpacked u).toBits.toNat = (UnpackedFloat.pack Format.binary64 u).toNat := rfl

/-- A finite number is a zero with a sign, or has a sign and a canonical mantissa and exponent. -/
inductive Finite : Float → Prop
  | zero (s : Sign) : Finite (ofUnpacked (.zero s))
  | binary {m : Nat} {e : Int} (hc : Canonical m e) (s : Sign) : Finite
      (ofUnpacked (.finite s m e hc.pos))

/-- Numbers with the same bits are the same. -/
lemma eq_ofUnpacked {x : Float} {u : UnpackedFloat}
    (h : UnpackedFloat.pack Format.binary64 u = x.toModel.toBits.toBitVec) : x = ofUnpacked u := by
  rcases x with ⟨⟨bits, valid⟩⟩
  have hbits : UInt64.ofBitVec (UnpackedFloat.pack Format.binary64 u) = bits := by rw [h]
  subst hbits
  rfl

/-- What is neither infinite nor undefined is finite. -/
theorem finite_of_writable {x : Float} (hnan : x.isNaN = false) (hinf : x.isInf = false) :
    Finite x := by
  set b : BitVec Format.binary64.numBits := x.toModel.toBits.toBitVec with hb
  have hfields := unpacked b
  have hcomponents := packComponents_unpack b
  have hmantissa : (unpackMantissa b).toNat < 2 ^ 52 := (unpackMantissa b).isLt
  change (UnpackedFloat.unpack Format.binary64 b).isNaN = false at hnan
  change (UnpackedFloat.unpack Format.binary64 b).isInf = false at hinf
  generalize UnpackedFloat.unpack Format.binary64 b = u at hfields hnan hinf
  cases hfields with
  | infinity he s => cases hinf
  | notANumber he => cases hnan
  | zero he hm =>
    have he' : unpackExponent b = 0 := BitVec.eq_of_toNat_eq he
    have hm' : unpackMantissa b = 0 := BitVec.eq_of_toNat_eq hm
    rw [he', hm'] at hcomponents
    have hpack : UnpackedFloat.pack Format.binary64 (.zero (.ofBitVec (unpackSign b))) = b :=
      hcomponents
    rw [eq_ofUnpacked hpack]
    exact .zero _
  | subnormal he hm =>
    have hc : Canonical (unpackMantissa b).toNat (-1074) :=
      ⟨hm, by omega, le_rfl, by norm_num, .inr rfl⟩
    have he' : unpackExponent b = 0 := BitVec.eq_of_toNat_eq he
    have hpack := pack_finite hc (.ofBitVec (unpackSign b))
    rw [if_neg (by omega), BitVec.ofNat_toNat, BitVec.setWidth_eq] at hpack
    rw [he'] at hcomponents
    rw [eq_ofUnpacked (hpack.trans hcomponents)]
    exact .binary hc _
  | normal he hlt hm =>
    have hc : Canonical (2 ^ 52 + (unpackMantissa b).toNat) ((unpackExponent b).toNat - 1075) :=
      ⟨hm, by omega, by omega, by omega, .inl (by omega)⟩
    have hexp : BitVec.ofNat 11 (((unpackExponent b).toNat : Int) - 1075 + 1075).toNat =
        unpackExponent b := by
      rw [sub_add_cancel, Int.toNat_natCast, BitVec.ofNat_toNat, BitVec.setWidth_eq]
    have hmod : BitVec.ofNat 52 (2 ^ 52 + (unpackMantissa b).toNat) = unpackMantissa b := by
      refine BitVec.eq_of_toNat_eq ?_
      rw [BitVec.toNat_ofNat]
      omega
    have hpack := pack_finite hc (.ofBitVec (unpackSign b))
    rw [if_pos (by omega), hexp, hmod] at hpack
    rw [eq_ofUnpacked (hpack.trans hcomponents)]
    exact .binary hc _

section

variable {m : Nat} {e : Int} (hc : Canonical m e) (s : Sign)

lemma unpack_ofUnpacked : (ofUnpacked (.finite s m e hc.pos)).toModel.unpack =
    .finite s m e hc.pos := unpack_pack hc s

lemma unpack_ofUnpacked_zero : (ofUnpacked (.zero s)).toModel.unpack = .zero s := by cases s <;> rfl

lemma zero_eq_ofUnpacked : (0 : Float) = ofUnpacked (.zero .positive) := by decide +kernel

/-- A negated number has the other sign. -/
lemma neg_ofUnpacked : -ofUnpacked (.finite s m e hc.pos) = ofUnpacked
    (.finite (-s) m e hc.pos) := by
  change Float.ofModel
    (Float.Model.pack (UnpackedFloat.neg (ofUnpacked (.finite s m e hc.pos)).toModel.unpack)) = _
  rw [unpack_ofUnpacked hc]
  rfl

lemma isNaN_ofUnpacked : (ofUnpacked (.finite s m e hc.pos)).isNaN = false := by
  change UnpackedFloat.isNaN (ofUnpacked (.finite s m e hc.pos)).toModel.unpack = false
  rw [unpack_ofUnpacked hc]
  rfl

lemma isInf_ofUnpacked : (ofUnpacked (.finite s m e hc.pos)).isInf = false := by
  change UnpackedFloat.isInf (ofUnpacked (.finite s m e hc.pos)).toModel.unpack = false
  rw [unpack_ofUnpacked hc]
  rfl

lemma beq_zero_ofUnpacked : (ofUnpacked (.finite s m e hc.pos) == 0) = false := by
  change UnpackedFloat.beq (ofUnpacked (.finite s m e hc.pos)).toModel.unpack
    (0 : Float).toModel.unpack = false
  rw [unpack_ofUnpacked hc, zero_eq_ofUnpacked, unpack_ofUnpacked_zero]
  cases s <;> rfl

lemma toNat_toBits : (ofUnpacked (.finite s m e hc.pos)).toBits.toNat =
    s.toBitVec.toNat * 2 ^ 63 + (if 2 ^ 52 ≤ m then (e + 1075).toNat else 0) * 2 ^ 52 +
    m % 2 ^ 52 := by
  have hmost := hc.most
  have hlt : (if 2 ^ 52 ≤ m then (e + 1075).toNat else 0) < 2 ^ 11 := by
    split
    · omega
    · norm_num
  rw [toNat_toBits_ofUnpacked, pack_finite hc, toNat_packComponents, BitVec.toNat_ofNat,
    BitVec.toNat_ofNat,
    Nat.mod_eq_of_lt hlt]

/-- The sign is the first bit. -/
lemma isNegative_ofUnpacked : isNegative (ofUnpacked (.finite s m e hc.pos)) =
    (s == .negative) := by
  have hbits := toNat_toBits hc s
  have hmost := hc.most
  have hs := toNat_toBitVec_lt s
  have hfirst : ((ofUnpacked (.finite s m e hc.pos)).toBits >>> 63).toNat = s.toBitVec.toNat := by
    rw [UInt64.toNat_shiftRight, hbits]
    change _ >>> 63 = _
    rw [Nat.shiftRight_eq_div_pow]
    split <;> omega
  have hone : ((ofUnpacked (.finite s m e hc.pos)).toBits >>> 63 = 1) ↔ s.toBitVec.toNat = 1 := by
    rw [← UInt64.toNat_inj, hfirst]
    rfl
  rw [isNegative, Bool.eq_iff_iff, beq_iff_eq, hone]
  cases s <;> decide

/-- The other bits are the mantissa and the exponent. -/
theorem binaryOfBits_ofUnpacked : binaryOfBits (ofUnpacked (.finite s m e hc.pos)).toBits =
    ⟨m, e, decide (m = 2 ^ 52 ∧ e ≠ -1074)⟩ := by
  have hbits := toNat_toBits hc s
  have hmost := hc.most
  have hleast := hc.least
  have hlt := hc.lt
  have hnormal := hc.normal
  set bits := (ofUnpacked (.finite s m e hc.pos)).toBits with hb
  have hfraction : (bits &&& 0xFFFFFFFFFFFFF).toNat = m % 2 ^ 52 := by
    rw [UInt64.toNat_and]
    change bits.toNat &&& (2 ^ 52 - 1) = _
    rw [Nat.and_two_pow_sub_one_eq_mod, hbits]
    omega
  have hexponent : ((bits >>> 52) &&& 0x7FF).toNat = if 2 ^ 52 ≤ m then (e + 1075).toNat
      else 0 := by
    rw [UInt64.toNat_and, UInt64.toNat_shiftRight]
    change bits.toNat >>> 52 &&& (2 ^ 11 - 1) = _
    rw [Nat.and_two_pow_sub_one_eq_mod, Nat.shiftRight_eq_div_pow, hbits]
    split <;> omega
  rw [binaryOfBits]
  simp only [hfraction, hexponent]
  by_cases hge : 2 ^ 52 ≤ m
  · have hexp : (e + 1075).toNat ≠ 0 := by omega
    have hm : m % 2 ^ 52 + power 2 52 = m := by
      change m % 2 ^ 52 + 2 ^ 52 = m
      omega
    have he : ((e + 1075).toNat : Int) - 1075 = e := by omega
    have hnarrow : (m % 2 ^ 52 == 0 && decide ((e + 1075).toNat > 1)) = decide (m = 2 ^ 52 ∧
        e ≠ -1074) := by
      rw [Bool.eq_iff_iff]
      simp only [Bool.and_eq_true, beq_iff_eq, decide_eq_true_eq]
      omega
    rw [if_pos hge, if_neg (by simpa using hexp), hm, he, hnarrow]
  · obtain rfl : e = -1074 := hnormal.resolve_left hge
    rw [if_neg hge, if_pos (by rfl), Nat.mod_eq_of_lt (by omega)]
    simp

end

end Trellis.Text

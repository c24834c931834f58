/-
Numbers are read from JSON as they were written.

A number without its sign is a `Numeral`: digits, digits behind a point and an exponent, none of
which need be there but the first.  Reading one stops where it ends, whatever value or bracket comes
next (`numberChars?_chars`), and takes it for the decimal that it says (`readDecimal_chars`).  A
decimal is written as a numeral of its value (`exists_numeral`), so a finite number is read back
(`reads_numberText`): one that is written without point and exponent first becomes a whole number,
and `loose?` makes it a number of double precision again.
-/
import Trellis.Json.Reader
import Trellis.Json.Writer
import Trellis.Proofs.Text.Bits
import Trellis.Proofs.Text.Rounding

namespace Trellis.Json

open Trellis.Expr (digitsValue readDecimal)

/-! ### Digits -/

/-- All characters are decimal digits. -/
def Digits (cs : List Char) : Prop := ∀ c ∈ cs, c.isDigit = true

lemma digits_toDigits (n : Nat) : Digits (Nat.toDigits 10 n) := fun _ hc =>
  Nat.isDigit_of_mem_toDigits (by norm_num) (by norm_num) hc

lemma digitsValue_eq (cs : List Char) : digitsValue cs = Nat.ofDigitChars 10 cs 0 := rfl

lemma digitsValue_toDigits (n : Nat) : digitsValue (Nat.toDigits 10 n) = n :=
  Nat.ofDigitChars_ten_toDigits

/-- Digits of a positive number do not start with a zero. -/
lemma head?_toDigits {n : Nat} (hn : 0 < n) : (Nat.toDigits 10 n).head? ≠ some '0' := by
  induction n using Nat.strong_induction_on with
  | _ n ih =>
    rcases Nat.lt_or_ge n 10 with hlt | hge
    · rw [Nat.toDigits_of_lt_base hlt, List.head?_cons]
      intro hzero
      have hvalue := Nat.toNat_digitChar_sub_48_of_lt_ten hlt
      rw [Option.some.inj hzero] at hvalue
      exact hn.ne hvalue
    · rw [Nat.toDigits_of_base_le (by norm_num) hge,
        List.head?_append_of_ne_nil _ Nat.toDigits_ne_nil]
      exact ih (n / 10) (by omega) (by omega)

/-- What comes next is no digit. -/
def NoDigit (cs : List Char) : Prop := ∀ c ∈ cs.head?, c.isDigit = false

lemma takeWhile_digits {ds rest : List Char} (hds : Digits ds) (hrest : NoDigit rest) :
    (ds ++ rest).takeWhile Char.isDigit = ds ∧ (ds ++ rest).dropWhile Char.isDigit = rest := by
  rw [List.takeWhile_append_of_pos hds, List.dropWhile_append_of_pos hds]
  cases rest with
  | nil => simp
  | cons c cs =>
    have hc := hrest c rfl
    simp [hc]

lemma isDigit_eq (c : Char) : (decide ('0' ≤ c) && decide (c ≤ '9')) = c.isDigit := rfl

lemma digits?_append {ds rest : List Char} (hds : Digits ds) (hne : ds ≠ [])
    (hrest : NoDigit rest) :
    digits? (ds ++ rest) = some (ds, rest) := by
  rw [digits?]
  simp only [isDigit_eq]
  change (if ((ds ++ rest).takeWhile Char.isDigit).isEmpty = true then none
    else some ((ds ++ rest).takeWhile Char.isDigit,
      (ds ++ rest).drop ((ds ++ rest).takeWhile Char.isDigit).length)) = _
  rw [(takeWhile_digits hds hrest).1, if_neg (by simpa using hne), List.drop_left]

/-! ### Numerals -/

/-- What comes next does not go on with a number. -/
def Ends (cs : List Char) : Prop := ∀ c ∈ cs.head?, c.isDigit = false ∧ c ≠ '.' ∧ c ≠ 'e' ∧ c ≠ 'E'

lemma Ends.noDigit {cs : List Char} (h : Ends cs) : NoDigit cs := fun c hc => (h c hc).1

/-- The parts of a number without its sign. -/
structure Numeral where
  whole : List Char
  fraction : List Char
  /-- whether the exponent is negative, and its digits -/
  exponent : Option (Bool × List Char)

namespace Numeral

variable (n : Numeral)

/-- The digits behind the point, with the point. -/
def pointed : List Char := if n.fraction.isEmpty then [] else '.' :: n.fraction

/-- The exponent as it is written. -/
def scaled : List Char :=
  match n.exponent with
  | none => []
  | some (negative, ds) => 'e' :: (if negative then '-' else '+') :: ds

/-- A numeral as it is written. -/
def chars : List Char := n.whole ++ n.pointed ++ n.scaled

/-- The value of the exponent. -/
def power : Int :=
  match n.exponent with
  | none => 0
  | some (negative, ds) => if negative then -(digitsValue ds : Int) else digitsValue ds

/-- The decimal that a numeral stands for. -/
def decimal : Text.Decimal := ⟨digitsValue (n.whole ++ n.fraction), n.power - n.fraction.length⟩

/-- The parts are digits where digits belong, without zeros in front. -/
structure Ok : Prop where
  whole : Digits n.whole
  nonempty : n.whole ≠ []
  lead : n.whole = ['0'] ∨ n.whole.head? ≠ some '0'
  fraction : Digits n.fraction
  exponent : ∀ p ∈ n.exponent, Digits p.2 ∧ p.2 ≠ []

variable {n}

lemma noDigit_scaled {rest : List Char} (hrest : NoDigit rest) : NoDigit (n.scaled ++ rest) := by
  rw [scaled]
  split
  · exact hrest
  · rintro c hc
    cases hc
    rfl

lemma noDigit_pointed {rest : List Char} (hrest : NoDigit rest) :
    NoDigit (n.pointed ++ (n.scaled ++ rest)) := by
  rw [pointed]
  split
  · exact noDigit_scaled hrest
  · rintro c hc
    cases hc
    rfl

lemma pointed_nil (h : n.fraction = []) : n.pointed = [] := by
  rw [pointed, h, List.isEmpty_nil, if_pos rfl]

lemma pointed_cons (h : n.fraction ≠ []) : n.pointed = '.' :: n.fraction := by
  rw [pointed, if_neg (by simpa using h)]

/-- The characters of a numeral in front of some text, part by part. -/
lemma chars_append (rest : List Char) :
    n.chars ++ rest = n.whole ++ (n.pointed ++ (n.scaled ++ rest)) := by
  rw [chars, List.append_assoc, List.append_assoc]

/-- The value of what is written as an exponent. -/
lemma power_eq : (match n.scaled with
      | _ :: '-' :: ds => -(digitsValue ds : Int)
      | _ :: '+' :: ds => (digitsValue ds : Int)
      | _ :: ds => (digitsValue ds : Int)
      | [] => 0) = n.power := by
  rw [scaled, power]
  rcases n.exponent with _ | ⟨_ | _, ds⟩ <;> rfl

/-- A numeral denotes its decimal. -/
theorem readDecimal_chars (hn : n.Ok) : readDecimal n.chars = n.decimal := by
  have hchars : n.chars = n.whole ++ (n.pointed ++ n.scaled) := List.append_assoc _ _ _
  have hscaled : NoDigit n.scaled := by
    rw [← List.append_nil n.scaled]
    exact noDigit_scaled nofun
  have hpointed : NoDigit (n.pointed ++ n.scaled) := by
    rw [← List.append_nil n.scaled]
    exact noDigit_pointed nofun
  obtain ⟨htake, hdrop⟩ := takeWhile_digits hn.whole hpointed
  have hdigit : (fun c : Char => decide ('0' ≤ c) && decide (c ≤ '9')) = Char.isDigit := rfl
  have hpower := congrArg (fun e : Int =>
    Text.Decimal.mk (digitsValue (n.whole ++ n.fraction)) (e - n.fraction.length)) n.power_eq
  rw [readDecimal, decimal]
  simp only [hdigit, hchars, htake, hdrop]
  by_cases hfraction : n.fraction = []
  · have hdot : ∀ more, n.scaled ≠ '.' :: more := by
      intro more h
      rw [scaled] at h
      split at h <;> cases h
    rw [hfraction] at hpower ⊢
    rw [pointed_nil hfraction, List.nil_append]
    split
    · next more h => exact absurd h (hdot more)
    · exact hpower
  · obtain ⟨htake', hdrop'⟩ := takeWhile_digits hn.fraction hscaled
    rw [pointed_cons hfraction, List.cons_append]
    simp only [htake', hdrop']
    exact hpower

/-! ### Reading numerals -/

lemma wholeChars?_append (hn : n.Ok) {rest : List Char} (hrest : NoDigit rest) :
    wholeChars? (n.whole ++ rest) = some (n.whole, rest) := by
  have hdigits := digits?_append hn.whole hn.nonempty hrest
  rw [wholeChars?.eq_def]
  split
  · next after h =>
    rcases hn.lead with hzero | hzero
    · rw [hzero] at h ⊢
      cases h
      rfl
    · have happend : (n.whole ++ rest).head? = n.whole.head? :=
        List.head?_append_of_ne_nil _ hn.nonempty
      rw [← happend, h] at hzero
      exact absurd rfl hzero
  · exact hdigits

lemma fractionChars?_append (hn : n.Ok) {rest : List Char} (hrest : Ends rest) :
    fractionChars? (n.pointed ++ (n.scaled ++ rest)) = some (n.pointed, n.scaled ++ rest) := by
  by_cases hfraction : n.fraction = []
  · rw [pointed_nil hfraction, List.nil_append, fractionChars?.eq_def]
    split
    · next more h =>
      rw [scaled] at h
      split at h
      · exact absurd rfl (hrest '.' (by rw [← List.nil_append rest, h]; rfl)).2.1
      · cases h
    · rfl
  · rw [pointed_cons hfraction, List.cons_append, fractionChars?,
      digits?_append hn.fraction hfraction (noDigit_scaled hrest.noDigit)]
    rfl

lemma exponentChars?_append (hn : n.Ok) {rest : List Char} (hrest : Ends rest) :
    exponentChars? (n.scaled ++ rest) = some (n.scaled, rest) := by
  rcases hexponent : n.exponent with _ | ⟨negative, ds⟩
  · have hscaled : n.scaled = [] := by rw [scaled, hexponent]
    rw [hscaled, List.nil_append, exponentChars?.eq_def]
    split
    · rfl
    · next e more =>
      obtain ⟨-, -, hlower, hupper⟩ := hrest e rfl
      rw [if_neg (by simp [hlower, hupper])]
  · obtain ⟨hds, hne⟩ := hn.exponent (negative, ds) hexponent
    have hscaled : n.scaled = 'e' :: (if negative then '-' else '+') :: ds := by
      rw [scaled, hexponent]
    rw [hscaled, List.cons_append, List.cons_append, exponentChars?, if_pos (by rfl)]
    have hsign : (((if negative then '-' else '+') == '+') ||
        ((if negative then '-' else '+') == '-')) = true := by
      cases negative <;> rfl
    simp only [hsign, if_true, digits?_append hds hne hrest.noDigit, Option.map_some]

/-- A numeral is read as far as it goes. -/
theorem numberChars?_chars (hn : n.Ok) {rest : List Char} (hrest : Ends rest) :
    numberChars? (n.chars ++ rest) = some (n.chars, rest) := by
  rw [numberChars?, chars_append, wholeChars?_append hn (noDigit_pointed hrest.noDigit)]
  simp only [Option.bind_eq_bind, Option.bind_some, fractionChars?_append hn hrest,
    exponentChars?_append hn hrest]
  rfl

/-- A numeral of digits only is one without a fraction and without an exponent. -/
lemma all_isDigit_iff (hn : n.Ok) : n.chars.all Char.isDigit = true ↔ n.fraction = [] ∧
    n.exponent = none := by
  rw [chars, List.all_append, List.all_append, Bool.and_eq_true, Bool.and_eq_true]
  have hwhole : n.whole.all Char.isDigit = true := List.all_eq_true.2 hn.whole
  constructor
  · rintro ⟨⟨-, hpointed⟩, hscaled⟩
    constructor
    · by_contra hfraction
      rw [pointed_cons hfraction] at hpointed
      cases hpointed
    · rw [scaled] at hscaled
      split at hscaled
      · next hnone => exact hnone
      · cases hscaled
  · rintro ⟨hfraction, hexponent⟩
    rw [pointed_nil hfraction, scaled, hexponent]
    exact ⟨⟨hwhole, rfl⟩, rfl⟩

/-- Digits only, as a decimal. -/
lemma decimal_of_digits (hfraction : n.fraction = []) (hexponent : n.exponent = none) :
    n.chars = n.whole ∧ n.decimal = ⟨digitsValue n.whole, 0⟩ := by
  constructor
  · rw [chars, pointed_nil hfraction, scaled, hexponent, List.append_nil, List.append_nil]
  · rw [decimal, power, hexponent, hfraction, List.append_nil]
    rfl

end Numeral

/-! ### Writing numerals -/

/-- The digits of a number, without point and exponent. -/
def Numeral.ofNat (n : Nat) : Numeral := ⟨Nat.toDigits 10 n, [], none⟩

lemma Numeral.ok_ofNat (n : Nat) : (Numeral.ofNat n).Ok where
  whole := digits_toDigits n
  nonempty := Nat.toDigits_ne_nil
  lead := by
    rcases Nat.eq_zero_or_pos n with rfl | hn
    · exact .inl rfl
    · exact .inr (head?_toDigits hn)
  fraction := nofun
  exponent := nofun

lemma digits_zeros (k : Nat) : Digits (Text.zeros k) := fun _ hc => by
  rw [List.eq_of_mem_replicate hc]
  rfl

lemma Digits.append {ds es : List Char} (hds : Digits ds) (hes : Digits es) : Digits (ds ++ es) :=
  fun c hc =>
  (List.mem_append.1 hc).elim (hds c) (hes c)

lemma digitsValue_append (cs ds : List Char) :
    digitsValue (cs ++ ds) = 10 ^ ds.length * digitsValue cs + digitsValue ds := by
  rw [digitsValue_eq, Nat.ofDigitChars_append, Nat.ofDigitChars_eq_ofDigitChars_zero]
  rfl

lemma digitsValue_zeros (k : Nat) : digitsValue (Text.zeros k) = 0 :=
  Nat.ofDigitChars_replicate_zero

/-- A positive decimal is written as a numeral of its value. -/
theorem exists_numeral {d : Text.Decimal} (hd : 0 < d.digits) :
    ∃ n : Numeral, n.Ok ∧ d.text .document = String.ofList n.chars ∧ n.decimal.value = d.value := by
  rcases d with ⟨digits, exponent⟩
  have hdigits := digits_toDigits digits
  have hne : Nat.toDigits 10 digits ≠ [] := Nat.toDigits_ne_nil
  have hhead := head?_toDigits hd
  have hvalue := digitsValue_toDigits digits
  rw [Text.Decimal.text]
  simp only [beq_eq_false_iff_ne.2 hd.ne', Bool.false_eq_true, if_false, Text.NumberStyle.document]
  generalize Nat.toDigits 10 digits = ds at hdigits hne hhead hvalue
  obtain ⟨c, cs, rfl⟩ := List.exists_cons_of_ne_nil hne
  set x : Int := exponent + (c :: cs).length - 1 with hx
  rw [List.length_cons] at hx
  split
  · -- one digit, the others behind the point, and an exponent
    set es := Nat.toDigits 10 x.natAbs with hes
    have hlength : 0 < es.length := List.length_pos_iff.2 Nat.toDigits_ne_nil
    refine ⟨⟨[c], cs, some (decide (x < 0), es)⟩, ⟨?_, List.cons_ne_nil _ _, .inr ?_, ?_, ?_⟩, ?_,
      ?_⟩
    · exact fun b hb => hdigits b (List.mem_cons.2 (.inl (List.mem_singleton.1 hb)))
    · simpa using hhead
    · exact fun b hb => hdigits b (List.mem_cons_of_mem c hb)
    · rintro p ⟨rfl⟩
      exact ⟨digits_toDigits _, Nat.toDigits_ne_nil⟩
    · rw [Numeral.chars, Numeral.pointed, Numeral.scaled, show 1 - es.length = 0 by omega]
      rcases cs with _ | ⟨c', cs⟩ <;> simp [Text.zeros]
    · have hpower : (if decide (x < 0) then -((x.natAbs : ℕ) : Int) else (x.natAbs : ℕ)) -
          (cs.length : Int) = exponent := by
        split
        · next h =>
          rw [decide_eq_true_eq] at h
          omega
        · next h =>
          rw [decide_eq_true_eq] at h
          omega
      rw [Numeral.decimal, Numeral.power]
      simp only [List.singleton_append, hvalue, hes, digitsValue_toDigits, hpower]
  · split
    · next hscaled hneg =>
      -- a zero, and all digits behind the point
      refine ⟨⟨['0'], Text.zeros (-x - 1).toNat ++ c :: cs, none⟩,
        ⟨fun b hb => ?_, List.cons_ne_nil _ _, .inl rfl, (digits_zeros _).append hdigits,
          fun _ hp => by cases hp⟩, ?_, ?_⟩
      · rw [List.mem_singleton.1 hb]
        rfl
      · rw [Numeral.chars, Numeral.pointed_cons (by simp), Numeral.scaled]
        simp
      · have hpower : (0 : Int) - (Text.zeros (-x - 1).toNat ++ c :: cs).length = exponent := by
          rw [List.length_append, Text.zeros, List.length_replicate, List.length_cons]
          omega
        have hzeros : digitsValue (['0'] ++ (Text.zeros (-x - 1).toNat ++ c :: cs)) = digits := by
          rw [digitsValue_append, digitsValue_append, digitsValue_zeros, hvalue]
          simp [digitsValue]
        rw [Numeral.decimal, Numeral.power]
        simp only [hpower, hzeros]
    · split
      · next hscaled hneg hlength =>
        -- all digits, and zeros up to the point
        refine ⟨⟨c :: cs ++ Text.zeros ((x + 1).toNat - (c :: cs).length), [], none⟩,
          ⟨hdigits.append (digits_zeros _), by simp, .inr (by simpa using hhead),
            fun _ hb => absurd hb List.not_mem_nil, fun _ hp => by cases hp⟩, ?_, ?_⟩
        · rw [Numeral.chars, Numeral.pointed_nil rfl, Numeral.scaled, List.append_nil,
            List.append_nil]
        · obtain ⟨k, hk⟩ : ∃ k : ℕ, exponent = k :=
            Int.eq_ofNat_of_zero_le (by rw [List.length_cons] at hlength; omega)
          have hzeros : (x + 1).toNat - (c :: cs).length = k := by
            rw [List.length_cons]
            omega
          rw [Numeral.decimal, Numeral.power, List.append_nil, hzeros, digitsValue_append,
            digitsValue_zeros, hvalue]
          simp [Text.Decimal.value, Text.zeros, hk, mul_comm]
      · next hscaled hneg hlength =>
        -- some digits up to the point, and the others behind it
        rw [List.length_cons] at hlength
        have hdrop : (c :: cs).drop (x + 1).toNat ≠ [] := by
          rw [Ne, List.drop_eq_nil_iff, List.length_cons]
          omega
        refine ⟨⟨(c :: cs).take (x + 1).toNat, (c :: cs).drop (x + 1).toNat, none⟩,
          ⟨fun b hb => hdigits b (List.mem_of_mem_take hb), ?_, .inr ?_, fun b hb =>
            hdigits b (List.mem_of_mem_drop hb),
            fun _ hp => by cases hp⟩, ?_, ?_⟩
        · rw [Ne, List.take_eq_nil_iff]
          simp
          omega
        · rw [List.head?_take, if_neg (by omega)]
          exact hhead
        · rw [Numeral.chars, Numeral.pointed_cons hdrop, Numeral.scaled, List.append_nil]
        · have hpower : (0 : Int) - ((c :: cs).drop (x + 1).toNat).length = exponent := by
            rw [List.length_drop, List.length_cons]
            omega
          rw [Numeral.decimal, Numeral.power]
          simp only [hpower, List.take_append_drop, hvalue]

/-! ### Reading numbers -/

/-- The sign of a number as it is written. -/
def sign (negative : Bool) : List Char := if negative then ['-'] else []

/-- What a numeral with a sign is read as. -/
def Numeral.datum (negative : Bool) (n : Numeral) : Datum :=
  if n.chars.all Char.isDigit && !(negative && n.chars == ['0']) then
    .whole (if negative then -(digitsValue n.chars : Int) else digitsValue n.chars)
  else .number (if negative then -n.decimal.toFloat else n.decimal.toFloat)

/-- A numeral starts with a digit. -/
lemma Numeral.Ok.head?_chars {n : Numeral} (hn : n.Ok) : ∃ c, n.chars.head? = some c ∧
    c.isDigit = true := by
  obtain ⟨c, cs, hcs⟩ := List.exists_cons_of_ne_nil hn.nonempty
  refine ⟨c, ?_, hn.whole c (hcs ▸ List.mem_cons_self)⟩
  rw [chars, hcs]
  rfl

/-- Characters that start as a number does and are read as one, whatever comes next. -/
structure Reads (cs : List Char) (d : Datum) : Prop where
  head : ∃ c ∈ cs.head?, c = '-' ∨ c.isDigit = true
  read : ∀ {rest : List Char}, Ends rest → number? (cs ++ rest) = some (d, rest)

lemma number?_chars {n : Numeral} (hn : n.Ok) (negative : Bool) {rest : List Char}
    (hrest : Ends rest) :
    number? (sign negative ++ n.chars ++ rest) = some (n.datum negative, rest) := by
  have hchars := Numeral.numberChars?_chars hn hrest
  cases negative with
  | true =>
    rw [sign, if_pos rfl, List.append_assoc, List.singleton_append, number?]
    simp only [Option.bind_eq_bind, hchars, Option.bind_some, Numeral.readDecimal_chars hn,
      Numeral.datum]
    split <;> rfl
  | false =>
    obtain ⟨c, hc, hdigit⟩ := hn.head?_chars
    have hminus : ∀ more, n.chars ++ rest = '-' :: more → False := by
      intro more h
      have hhead : (n.chars ++ rest).head? = some c := by
        rw [List.head?_append_of_ne_nil _ fun hnil => by simp [hnil] at hc]
        exact hc
      rw [h] at hhead
      cases hhead
      cases hdigit
    rw [sign, if_neg Bool.false_ne_true, List.nil_append, number?]
    · simp only [Option.bind_eq_bind, hchars, Option.bind_some, Numeral.readDecimal_chars hn,
        Numeral.datum]
      split <;> rfl
    · exact hminus

lemma reads_chars {n : Numeral} (hn : n.Ok) (negative : Bool) : Reads (sign negative ++ n.chars)
    (n.datum negative) where
  head := by
    cases negative with
    | true => exact ⟨'-', rfl, .inl rfl⟩
    | false =>
      obtain ⟨c, hc, hdigit⟩ := hn.head?_chars
      exact ⟨c, hc, .inr hdigit⟩
  read hrest := number?_chars hn negative hrest

/-- Whole numbers are read as they were written. -/
theorem reads_intText (k : Int) : Reads (Text.intText k).toList (.whole k) := by
  have htext : (Text.intText k).toList = sign (decide (k < 0)) ++
      (Numeral.ofNat k.natAbs).chars := by
    rw [Text.intText, (Numeral.decimal_of_digits rfl rfl).1, sign]
    split <;> simp_all [Text.natText, Numeral.ofNat]
  obtain ⟨hchars, -⟩ := Numeral.decimal_of_digits (n := Numeral.ofNat k.natAbs) rfl rfl
  have hwhole : (Numeral.ofNat k.natAbs).whole = Nat.toDigits 10 k.natAbs := rfl
  have hdigits : (Numeral.ofNat k.natAbs).chars.all Char.isDigit = true :=
    (Numeral.all_isDigit_iff (Numeral.ok_ofNat _)).2 ⟨rfl, rfl⟩
  -- a zero is never written with a sign
  have hzero : (decide (k < 0) && (Numeral.ofNat k.natAbs).chars == ['0']) = false := by
    rw [Bool.and_eq_false_iff, decide_eq_false_iff_not, beq_eq_false_iff_ne, hchars, hwhole]
    by_cases hk : k = 0
    · exact .inl (by omega)
    · exact .inr fun h => head?_toDigits (Int.natAbs_pos.2 hk) (by rw [h]; rfl)
  have hvalue : (if decide (k < 0) then -((k.natAbs : ℕ) : Int) else (k.natAbs : ℕ)) = k := by
    split
    · next hk =>
      rw [decide_eq_true_eq] at hk
      omega
    · next hk =>
      rw [decide_eq_true_eq] at hk
      omega
  have hreads := reads_chars (Numeral.ok_ofNat k.natAbs) (decide (k < 0))
  rwa [← htext, Numeral.datum, hdigits, hzero, if_pos (by rfl), hchars, hwhole,
    digitsValue_toDigits, hvalue] at hreads

/-! ### Numbers of double precision -/

open Float.Model.UnpackedFloat (Sign)
open Text

section

variable {m : Nat} {e : Int} (hc : Canonical m e)

/-- A decimal in the interval of a number is taken for the number. -/
lemma toFloat_of_roundsTo {d : Text.Decimal} (hd : RoundsTo m e d.value) :
    d.toFloat = ofUnpacked (.finite .positive m e hc.pos) := by
  rw [Decimal.toFloat, ofUnpacked, Float.Model.ofScientific, ofScientific_eq hc hd]

/-- A positive number is written as a numeral in its interval. -/
lemma exists_numeral_of_canonical : ∃ n : Numeral, n.Ok ∧ RoundsTo m e n.decimal.value ∧
    ∀ s, (numberText (ofUnpacked (.finite s m e hc.pos))).toList = sign (s == .negative) ++
    n.chars := by
  have hshortest := Binary.shortest_roundsTo hc
  have hpos : 0 < (Binary.ofParts m e).shortest.digits := by
    refine Nat.pos_of_ne_zero fun hzero => ?_
    have := hc.pos_of_roundsTo hshortest
    rw [Decimal.value, hzero, Nat.cast_zero, zero_mul] at this
    exact lt_irrefl 0 this
  obtain ⟨n, hn, htext, hvalue⟩ := exists_numeral hpos
  refine ⟨n, hn, hvalue ▸ hshortest, fun s => ?_⟩
  have hbinary : binaryOfBits (ofUnpacked (.finite s m e hc.pos)).toBits = Binary.ofParts m e :=
    binaryOfBits_ofUnpacked hc s
  rw [numberText, floatText, isNaN_ofUnpacked hc, isInf_ofUnpacked hc, beq_zero_ofUnpacked hc,
    isNegative_ofUnpacked hc,
    hbinary, htext]
  simp only [Bool.false_eq_true, if_false, String.toList_append, String.toList_ofList]
  rcases s with _ | _ <;> rfl

/-- A number with its sign. -/
lemma signed_ofUnpacked (s : Sign) :
    (if (s == .negative) = true then -ofUnpacked (.finite .positive m e hc.pos)
    else ofUnpacked (.finite .positive m e hc.pos)) = ofUnpacked (.finite s m e hc.pos) := by
  rcases s with _ | _
  · exact neg_ofUnpacked hc .positive
  · rfl

/-- What a numeral is read as stands for the number in whose interval it lies. -/
lemma loose?_datum {n : Numeral} (hn : n.Ok) (hrounds : RoundsTo m e n.decimal.value) (s : Sign) :
    loose? (n.datum (s == .negative)) = some (.number (ofUnpacked (.finite s m e hc.pos))) := by
  have hfloat := toFloat_of_roundsTo hc hrounds
  have hsigned := signed_ofUnpacked hc s
  rw [Numeral.datum]
  split
  · next hwhole =>
    rw [Bool.and_eq_true, Numeral.all_isDigit_iff hn] at hwhole
    obtain ⟨⟨hfraction, hexponent⟩, -⟩ := hwhole
    obtain ⟨hchars, hdecimal⟩ := Numeral.decimal_of_digits hfraction hexponent
    rw [hdecimal] at hfloat hrounds
    have hpos : 0 < digitsValue n.whole := by
      refine Nat.pos_of_ne_zero fun hzero => ?_
      have := hc.pos_of_roundsTo hrounds
      rw [Decimal.value, hzero, Nat.cast_zero, zero_mul] at this
      exact lt_irrefl 0 this
    set v := digitsValue n.whole with hv
    have hwhole : wholeFloat (if (s == .negative) = true then -(v : Int) else v) = ofUnpacked
        (.finite s m e hc.pos) := by
      rw [← hsigned, ← hfloat, wholeFloat]
      split
      · rw [Int.natAbs_neg, Int.natAbs_natCast, if_pos (by omega)]
      · rw [Int.natAbs_natCast, if_neg (by omega)]
    rw [hchars, loose?, hwhole, isInf_ofUnpacked hc]
    rfl
  · rw [hfloat, hsigned, loose?, isInf_ofUnpacked hc]
    rfl

end

/-- A zero is written with its sign. -/
lemma toList_numberText_zero (s : Sign) :
    (numberText (ofUnpacked (.zero s))).toList = sign (s == .negative) ++
    (Numeral.ofNat 0).chars := by
  cases s <;> decide +kernel

/-- A zero with a sign is no whole number. -/
lemma loose?_datum_zero (s : Sign) :
    loose? ((Numeral.ofNat 0).datum (s == .negative)) = some (.number (ofUnpacked (.zero s))) := by
  have hzero : (Decimal.mk 0 0).toFloat = ofUnpacked (.zero .positive) := by decide +kernel
  have hneg : -ofUnpacked (.zero .positive) = ofUnpacked (.zero .negative) := by decide +kernel
  cases s with
  | negative =>
    have hdatum : (Numeral.ofNat 0).datum true = .number (-(Decimal.mk 0 0).toFloat) := rfl
    have hinf : (ofUnpacked (.zero .negative)).isInf = false := by decide +kernel
    rw [show (Sign.negative == Sign.negative) = true from rfl, hdatum, hzero, hneg, loose?, hinf]
    rfl
  | positive =>
    have hdatum : (Numeral.ofNat 0).datum false = .whole 0 := rfl
    have hinf : (ofUnpacked (.zero .positive)).isInf = false := by decide +kernel
    have hfloat : wholeFloat 0 = ofUnpacked (.zero .positive) := by decide +kernel
    rw [show (Sign.positive == Sign.negative) = false from rfl, hdatum, loose?, hfloat, hinf]
    rfl

/-- **Numbers.** A finite number is read from what it was written as, whatever comes next: it is the
number of double precision next to what was read. -/
theorem reads_numberText {x : Float} (hx : Text.Finite x) :
    ∃ d, Reads (numberText x).toList d ∧ loose? d = some (.number x) := by
  cases hx with
  | zero s =>
    refine ⟨(Numeral.ofNat 0).datum (s == .negative), ?_, loose?_datum_zero s⟩
    rw [toList_numberText_zero]
    exact reads_chars (Numeral.ok_ofNat 0) _
  | binary hc s =>
    obtain ⟨n, hn, hrounds, htext⟩ := exists_numeral_of_canonical hc
    refine ⟨n.datum (s == .negative), ?_, loose?_datum hc hn hrounds s⟩
    rw [htext]
    exact reads_chars hn _

end Trellis.Json

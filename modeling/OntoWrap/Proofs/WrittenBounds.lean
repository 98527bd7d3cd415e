import Mathlib.Data.Nat.Digits.Defs
import OntoWrap.Ontology.Cardinality

/-!
# Which literals set a bound

A literal writes a number as decimal digits, after a plus sign or none and between blanks
(`Writes`).  Reading it gives the bound of this number if that is positive and fits 32 bits, and no
bound for any other literal (`bounds_exact`).

The digits are read into 32 bits.  What carries the induction is that these hold the number of the
digits so far (`foldlM_appendDigit?_eq_some_iff`).  A step succeeds exactly if ten times the number
and the digit fit, and later digits never make a number smaller, so the reading is given up exactly
when the number of all digits does not fit.  Leading zeros do no harm, and a literal is never taken
for the small number that it equals modulo `2 ^ 32`, however long it is.
-/
namespace OntoWrap.Text.Decimal

/-! ## 1. The number that digits write -/

/-- All characters are decimal digits. -/
def AllDigits (cs : List Char) : Prop := ∀ c ∈ cs, c.isDigit = true

instance (cs : List Char) : Decidable (AllDigits cs) :=
  List.decidableBAll (Char.isDigit · = true) cs

/-- The number that digits write: each digit at its power of ten, added up. -/
def numberOf (digits : List Char) : Nat :=
  Nat.ofDigits 10 (digits.reverse.map fun c => c.toNat - '0'.toNat)

variable {n m s : UInt32} {c : Char} {cs : List Char}

theorem numberOf_cons (c : Char) (cs : List Char) :
    numberOf (c :: cs) = (c.toNat - '0'.toNat) * 10 ^ cs.length + numberOf cs := by
  rw [numberOf, List.map_reverse, List.map_cons, Nat.ofDigits_reverse_cons, List.length_map,
    numberOf, List.map_reverse, Nat.mul_comm, Nat.add_comm]

theorem numberOf_replicate_append (zeros : Nat) (cs : List Char) :
    numberOf (List.replicate zeros '0' ++ cs) = numberOf cs := by
  rw [numberOf, List.reverse_append, List.map_append, List.reverse_replicate, List.map_replicate,
    Nat.sub_self, Nat.ofDigits_append_replicate_zero, numberOf]

/-! ## 2. One digit more -/

/-- Ten times a number is given exactly if it fits. -/
theorem timesTen?_eq_some_iff : timesTen? n = some m ↔ m.toNat = n.toNat * 10 := by
  have hm := m.toNat_lt
  have hproduct : (n * 10).toNat = n.toNat * 10 % 2 ^ 32 := UInt32.toNat_mul n 10
  unfold timesTen?
  split
  · rename_i hfits
    have hfits : n.toNat ≤ 429496729 := hfits
    rw [Option.some.injEq, ← UInt32.toNat_inj]
    omega
  · rename_i hlarge
    have hlarge : ¬ n.toNat ≤ 429496729 := hlarge
    simp only [reduceCtorEq, false_iff]
    omega

/-- A sum is given exactly if it fits. -/
theorem add?_eq_some_iff : add? n m = some s ↔ s.toNat = n.toNat + m.toNat := by
  have hn := n.toNat_lt
  have hm := m.toNat_lt
  have hs := s.toNat_lt
  have hsum : (n + m).toNat = (n.toNat + m.toNat) % 2 ^ 32 := UInt32.toNat_add n m
  unfold add?
  split
  · rename_i hwrapped
    have hwrapped : (n + m).toNat < n.toNat := hwrapped
    simp only [reduceCtorEq, false_iff]
    omega
  · rename_i hfits
    have hfits : ¬ (n + m).toNat < n.toNat := hfits
    rw [Option.some.injEq, ← UInt32.toNat_inj]
    omega

theorem digit?_eq_some_iff :
    digit? c = some n ↔ c.isDigit = true ∧ n.toNat = c.toNat - '0'.toNat := by
  unfold digit?
  split
  · rename_i hdigit
    have hlow : '0'.val ≤ c.val := UInt32.le_iff_toNat_le.mpr (Char.isDigit_iff_toNat.mp hdigit).1
    rw [Option.some.injEq, ← UInt32.toNat_inj, UInt32.toNat_sub_of_le _ _ hlow, eq_comm]
    exact (and_iff_right hdigit).symm
  · rename_i hother
    simp [hother]

/-- **One digit more is read exactly if the result fits**, and then it is ten times the number
before and the digit. -/
theorem appendDigit?_eq_some_iff : appendDigit? n c = some m ↔
    c.isDigit = true ∧ m.toNat = n.toNat * 10 + (c.toNat - '0'.toNat) := by
  have hm := m.toNat_lt
  simp only [appendDigit?, Option.bind_eq_bind, Option.bind_eq_some_iff, digit?_eq_some_iff,
    timesTen?_eq_some_iff, add?_eq_some_iff]
  constructor
  · rintro ⟨digit, ⟨hdigit, hvalue⟩, tens, htens, hsum⟩
    exact ⟨hdigit, by rw [hsum, htens, hvalue]⟩
  · rintro ⟨hdigit, hsum⟩
    have hfits : c.toNat - '0'.toNat < 2 ^ 32 ∧ n.toNat * 10 < 2 ^ 32 := by omega
    have hvalue : (UInt32.ofNat (c.toNat - '0'.toNat)).toNat = c.toNat - '0'.toNat :=
      UInt32.toNat_ofNat_of_lt' hfits.1
    have htens : (UInt32.ofNat (n.toNat * 10)).toNat = n.toNat * 10 :=
      UInt32.toNat_ofNat_of_lt' hfits.2
    exact ⟨_, ⟨hdigit, hvalue⟩, _, htens, by rw [hsum, htens, hvalue]⟩

/-! ## 3. All digits -/

/-- **The number read is that of the digits so far**, put behind the number that there was
before. -/
theorem foldlM_appendDigit?_eq_some_iff : cs.foldlM appendDigit? n = some m ↔
    AllDigits cs ∧ m.toNat = n.toNat * 10 ^ cs.length + numberOf cs := by
  induction cs generalizing n with
  | nil =>
    have hnumber : numberOf [] = 0 := rfl
    rw [List.foldlM_nil, Option.pure_def, Option.some.injEq, ← UInt32.toNat_inj, hnumber,
      List.length_nil, Nat.pow_zero, Nat.mul_one, Nat.add_zero, eq_comm]
    exact (and_iff_right fun c hc => nomatch hc).symm
  | cons c cs ih =>
    have hshift (first : Nat) : (n.toNat * 10 + first) * 10 ^ cs.length + numberOf cs =
        n.toNat * 10 ^ (cs.length + 1) + (first * 10 ^ cs.length + numberOf cs) := by ring
    rw [List.foldlM_cons, Option.bind_eq_bind, Option.bind_eq_some_iff, numberOf_cons,
      List.length_cons, ← hshift]
    constructor
    · rintro ⟨next, hnext, hrest⟩
      obtain ⟨hdigit, hvalue⟩ := appendDigit?_eq_some_iff.mp hnext
      obtain ⟨hdigits, hnumber⟩ := ih.mp hrest
      exact ⟨List.forall_mem_cons.mpr ⟨hdigit, hdigits⟩, by rw [hnumber, hvalue]⟩
    · rintro ⟨hdigits, hnumber⟩
      obtain ⟨hdigit, hdigits⟩ := List.forall_mem_cons.mp hdigits
      -- the digits that follow only make the number larger, so it fits before them as well
      have hfits : n.toNat * 10 + (c.toNat - '0'.toNat) < 2 ^ 32 := calc
        n.toNat * 10 + (c.toNat - '0'.toNat)
          ≤ (n.toNat * 10 + (c.toNat - '0'.toNat)) * 10 ^ cs.length :=
            Nat.le_mul_of_pos_right _ (Nat.pow_pos (by decide))
        _ ≤ m.toNat := hnumber ▸ Nat.le_add_right _ _
        _ < 2 ^ 32 := m.toNat_lt
      have hnext := UInt32.toNat_ofNat_of_lt' hfits
      exact ⟨_, appendDigit?_eq_some_iff.mpr ⟨hdigit, hnext⟩,
        ih.mpr ⟨hdigits, by rw [hnext, hnumber]⟩⟩

theorem ofDigits?_eq_some_iff :
    ofDigits? cs = some n ↔ cs ≠ [] ∧ AllDigits cs ∧ n.toNat = numberOf cs := by
  unfold ofDigits?
  split
  · rename_i hnil
    simp [hnil]
  · rename_i hne
    rw [foldlM_appendDigit?_eq_some_iff, UInt32.toNat_zero, Nat.zero_mul, Nat.zero_add]
    exact (and_iff_right hne).symm

end OntoWrap.Text.Decimal

namespace OntoWrap.Cardinality

open Text Text.Decimal

/-! ## 4. Numerals between blanks -/

/-- **A numeral**: one or more digits, after a plus sign or none. -/
inductive Numeral : List Char → Nat → Prop
  | plain {digits : List Char} : digits ≠ [] → AllDigits digits → Numeral digits (numberOf digits)
  | signed {digits : List Char} : digits ≠ [] → AllDigits digits →
      Numeral ('+' :: digits) (numberOf digits)

/-- **A text writes a number** if it is a numeral of it between blanks. -/
def Writes (text : String) (n : Nat) : Prop :=
  ∃ front core back, text.toList = front ++ core ++ back ∧ (∀ c ∈ front, isBlank c = true) ∧
    (∀ c ∈ back, isBlank c = true) ∧ Numeral core n

variable {n : Nat} {c : Char} {cs : List Char} {text : String}

theorem afterPlus_of_allDigits (h : AllDigits cs) : afterPlus cs = cs := by
  unfold afterPlus
  split
  · exact absurd (h '+' List.mem_cons_self) (by decide)
  · rfl

theorem eq_afterPlus (cs : List Char) : cs = '+' :: afterPlus cs ∨ cs = afterPlus cs := by
  unfold afterPlus
  split
  · exact .inl rfl
  · exact .inr rfl

theorem numeral_iff : Numeral cs n ↔
    afterPlus cs ≠ [] ∧ AllDigits (afterPlus cs) ∧ n = numberOf (afterPlus cs) := by
  constructor
  · intro h
    cases h with
    | plain hne hdigits =>
      rw [afterPlus_of_allDigits hdigits]
      exact ⟨hne, hdigits, rfl⟩
    | signed hne hdigits => exact ⟨hne, hdigits, rfl⟩
  · rintro ⟨hne, hdigits, rfl⟩
    rcases eq_afterPlus cs with hsigned | hplain
    · have hnumeral := Numeral.signed hne hdigits
      rwa [← hsigned] at hnumeral
    · rw [← hplain] at hne hdigits ⊢
      exact .plain hne hdigits

/-- A numeral is made of digits and plus signs. -/
theorem Numeral.isDigit_or (h : Numeral cs n) : ∀ c ∈ cs, c.isDigit = true ∨ c = '+' := by
  cases h with
  | plain _ hdigits => exact fun c hc => .inl (hdigits c hc)
  | signed _ hdigits => exact List.forall_mem_cons.mpr ⟨.inr rfl, fun c hc => .inl (hdigits c hc)⟩

theorem Numeral.ne_nil (h : Numeral cs n) : cs ≠ [] := by
  cases h with
  | plain hne _ => exact hne
  | signed _ _ => exact List.cons_ne_nil _ _

theorem isBlank_of_isDigit_or (h : c.isDigit = true ∨ c = '+') : isBlank c = false := by
  rcases h with h | rfl
  · obtain ⟨hlow, hhigh⟩ := Char.isDigit_iff_toNat.mp h
    have hlow : 48 ≤ c.toNat := hlow
    have hhigh : c.toNat ≤ 57 := hhigh
    simp only [isBlank, Bool.or_eq_false_iff, Bool.and_eq_false_iff, decide_eq_false_iff_not,
      beq_eq_false_iff_ne]
    omega
  · decide

/-- **A text writes a number if it is a numeral once it is trimmed.** -/
theorem writes_iff_numeral_trim : Writes text n ↔ Numeral (trim text).toList n := by
  rw [trim, String.toList_ofList]
  constructor
  · rintro ⟨front, core, back, htext, hfront, hback, hnumeral⟩
    rwa [htext, trimChars_append hfront
      (fun c hc => isBlank_of_isDigit_or (hnumeral.isDigit_or c hc)) hnumeral.ne_nil hback]
  · intro hnumeral
    obtain ⟨front, back, htext, hfront, hback⟩ := exists_trimChars text.toList
    exact ⟨front, _, back, htext, hfront, hback, hnumeral⟩

/-- A text writes one number at most. -/
theorem Writes.unique {other : Nat} (h : Writes text n) (hother : Writes text other) :
    n = other := by
  obtain ⟨-, -, hn⟩ := numeral_iff.mp (writes_iff_numeral_trim.mp h)
  obtain ⟨-, -, hother⟩ := numeral_iff.mp (writes_iff_numeral_trim.mp hother)
  rw [hn, hother]

theorem Writes.minus_notMem (h : Writes text n) : '-' ∉ text.toList := by
  obtain ⟨front, core, back, htext, hfront, hback, hnumeral⟩ := h
  have hblank : isBlank '-' ≠ true := by decide
  rw [htext, List.mem_append, List.mem_append]
  rintro ((hmem | hmem) | hmem)
  · exact hblank (hfront _ hmem)
  · have hnone : ¬ ('-'.isDigit = true ∨ '-' = '+') := by decide
    exact hnone (hnumeral.isDigit_or _ hmem)
  · exact hblank (hback _ hmem)

theorem Writes.trim_notMem (h : Writes text n) : trim text ∉ ["", "+"] := by
  obtain ⟨hne, hdigits, -⟩ := numeral_iff.mp (writes_iff_numeral_trim.mp h)
  have hnone : ∀ sign ∈ ["", "+"], afterPlus sign.toList = [] := by decide
  exact fun hsign => hne (hnone _ hsign)

/-! ## 5. Bounds -/

theorem ofNat_eq_bounded_iff {k : Nat} (valid : 0 < n ∧ n < 4294967296) :
    ofNat k = bounded n valid ↔ k = n := by
  unfold ofNat
  split
  · rw [bounded.injEq]
  · rename_i hinvalid
    simp only [reduceCtorEq, false_iff]
    rintro rfl
    exact hinvalid valid

/-- **A literal sets a bound exactly if it writes it.** -/
theorem ofLexical_eq_bounded_iff (valid : 0 < n ∧ n < 4294967296) :
    ofLexical text = bounded n valid ↔ Writes text n := by
  rw [writes_iff_numeral_trim, numeral_iff, trim, String.toList_ofList, ofLexical, ofLexicalChars]
  cases hread : ofDigits? (afterPlus (trimChars text.toList)) with
  | none =>
    simp only [reduceCtorEq, false_iff]
    rintro ⟨hne, hdigits, hnumber⟩
    have hvalue := UInt32.toNat_ofNat_of_lt' valid.2
    rw [ofDigits?_eq_some_iff.mpr ⟨hne, hdigits, hvalue.trans hnumber⟩] at hread
    cases hread
  | some value =>
    obtain ⟨hne, hdigits, hnumber⟩ := ofDigits?_eq_some_iff.mp hread
    rw [ofNat_eq_bounded_iff, hnumber, eq_comm]
    exact ⟨fun hn => ⟨hne, hdigits, hn⟩, fun h => h.2.2⟩

theorem ofLexical_eq_unbounded_iff :
    ofLexical text = unbounded ↔ ∀ n, Writes text n → n = 0 ∨ 4294967295 < n := by
  constructor
  · intro hunbounded n hwrites
    by_contra hbounds
    have valid : 0 < n ∧ n < 4294967296 := by omega
    have hbounded := (ofLexical_eq_bounded_iff valid).mpr hwrites
    rw [hunbounded] at hbounded
    cases hbounded
  · intro hnone
    cases hbound : ofLexical text with
    | unbounded => rfl
    | bounded n valid =>
      have hbounds := hnone n ((ofLexical_eq_bounded_iff valid).mp hbound)
      omega

/-- **A literal sets a bound exactly if it writes a positive number that fits 32 bits**, and then
the bound is this number.

- Any other literal sets none: not one that writes zero or a number of `2 ^ 32` or more, whatever
  its length, and not one that is blank, a plus sign alone, or has a minus sign in it.
- A literal sets the bound of a single value exactly if it writes one.
- A literal writes what is left of it as a numeral once it is trimmed.  Leading zeros do not count.
- What digits are read as is their number and not a remainder of it, and if 32 bits cannot hold the
  number, nothing is read. -/
theorem bounds_exact :
    (∀ text n, (∃ valid, ofLexical text = bounded n valid) ↔
      Writes text n ∧ 1 ≤ n ∧ n ≤ 4294967295) ∧
    (∀ text, ofLexical text = unbounded ↔ ∀ n, Writes text n → n = 0 ∨ 4294967295 < n) ∧
    (∀ text n, Writes text n → n = 0 ∨ 4294967295 < n → ofLexical text = unbounded) ∧
    (∀ text, trim text ∈ ["", "+"] ∨ '-' ∈ text.toList → ofLexical text = unbounded) ∧
    (∀ text, (ofLexical text).isSingle = true ↔ Writes text 1) ∧
    (∀ text n, Writes text n ↔ Numeral (trim text).toList n) ∧
    (∀ zeros digits, numberOf (List.replicate zeros '0' ++ digits) = numberOf digits) ∧
    ∀ digits value, ofDigits? digits = some value ↔
      digits ≠ [] ∧ AllDigits digits ∧ value.toNat = numberOf digits := by
  refine ⟨fun text n => ⟨?_, ?_⟩, fun _ => ofLexical_eq_unbounded_iff, ?_, ?_, ?_,
    fun _ _ => writes_iff_numeral_trim, numberOf_replicate_append, fun _ _ => ofDigits?_eq_some_iff⟩
  · rintro ⟨valid, hbound⟩
    exact ⟨(ofLexical_eq_bounded_iff valid).mp hbound, valid.1, Nat.le_of_lt_succ valid.2⟩
  · rintro ⟨hwrites, hpositive, hfits⟩
    exact ⟨⟨hpositive, Nat.lt_succ_of_le hfits⟩, (ofLexical_eq_bounded_iff _).mpr hwrites⟩
  · intro text n hwrites hbounds
    refine ofLexical_eq_unbounded_iff.mpr fun other hother => ?_
    rwa [hother.unique hwrites]
  · intro text hother
    refine ofLexical_eq_unbounded_iff.mpr fun n hwrites => ?_
    rcases hother with hsign | hminus
    · exact absurd hsign hwrites.trim_notMem
    · exact absurd hminus hwrites.minus_notMem
  · intro text
    rw [isSingle, beq_iff_eq, one]
    exact ofLexical_eq_bounded_iff _

/-- The largest bound behind zeros and a sign, a number that is one modulo `2 ^ 32`, and zero. -/
theorem bounds_exact_edges :
    (Writes "\u2003+0004294967295\n" 4294967295 ∧
      ∃ valid, ofLexical "\u2003+0004294967295\n" = bounded 4294967295 valid) ∧
    (Writes "18446744073709551617" 18446744073709551617 ∧
      ofLexical "18446744073709551617" = unbounded) ∧
    (Writes "00" 0 ∧ ofLexical "00" = unbounded) ∧
      ('-' ∈ "-1".toList ∧ ofLexical "-1" = unbounded) ∧
    Writes "01" 1 ∧ (ofLexical "01").isSingle = true := by
  have hlargest : Writes "\u2003+0004294967295\n" 4294967295 := writes_iff_numeral_trim.mpr
    (numeral_iff.mpr ⟨by decide, by decide, by decide +kernel⟩)
  have hlarge : Writes "18446744073709551617" 18446744073709551617 := writes_iff_numeral_trim.mpr
    (numeral_iff.mpr ⟨by decide, by decide, by decide +kernel⟩)
  have hzero : Writes "00" 0 := writes_iff_numeral_trim.mpr
    (numeral_iff.mpr ⟨by decide, by decide, by decide +kernel⟩)
  have hone : Writes "01" 1 := writes_iff_numeral_trim.mpr
    (numeral_iff.mpr ⟨by decide, by decide, by decide +kernel⟩)
  obtain ⟨hbounded, -, hunbounded, hother, hsingle, -⟩ := bounds_exact
  exact ⟨⟨hlargest, (hbounded _ _).mpr ⟨hlargest, by decide, by decide⟩⟩,
    ⟨hlarge, hunbounded _ _ hlarge (by decide)⟩, ⟨hzero, hunbounded _ _ hzero (by decide)⟩,
    ⟨by decide, hother _ (by decide)⟩, hone, (hsingle _).mpr hone⟩

end OntoWrap.Cardinality

import Mathlib.Data.List.TakeWhile
import TileComposite.Text.Integer

/-! Integers written in decimal. Reading gives back the integer that was written, if it does not
have too many digits. -/
namespace TileComposite.Text
variable {c : Char} {cs : List Char} {n : Int}

/-- An integer with no more decimal digits than are read. -/
def FewDigits (n : Int) : Prop := (toString n.natAbs).length ≤ maxDigits

instance (n : Int) : Decidable (FewDigits n) := Nat.decLe _ _

/-- What a plain digit is to the reader. -/
structure Plain (c : Char) : Prop where
  digitValue_eq : digitValue? c = some (c.toNat - 48)
  baseDigit_eq : baseDigit? c = some (c.toNat - 48)
  lt_ten : c.toNat - 48 < 10
  char_eq : Char.ofNat (48 + (c.toNat - 48)) = c
  ne_underscore : c ≠ '_'
  ne_minus : c ≠ '-'
  ne_plus : c ≠ '+'
  unpadded : isPadding c = false

theorem plain_of_isDigit (digit : c.isDigit = true) : Plain c := by
  have bounds : 48 ≤ c.toNat ∧ c.toNat ≤ 57 := by
    simpa [Char.isDigit, UInt32.le_iff_toNat_le] using digit
  have table : ∀ d < 10, digitValue? (Char.ofNat (48 + d)) = some d ∧
      baseDigit? (Char.ofNat (48 + d)) = some d ∧ Char.ofNat (48 + d) ≠ '_' ∧
      Char.ofNat (48 + d) ≠ '-' ∧ Char.ofNat (48 + d) ≠ '+' ∧
      isPadding (Char.ofNat (48 + d)) = false := by decide
  have value : c.toNat - 48 < 10 := by omega
  have same : Char.ofNat (48 + (c.toNat - 48)) = c := by
    rw [Nat.add_sub_of_le bounds.1, Char.ofNat_toNat]
  obtain ⟨digitValue, baseDigit, underscore, minus, plus, padding⟩ := table _ value
  rw [same] at digitValue baseDigit underscore minus plus padding
  exact ⟨digitValue, baseDigit, value, same, underscore, minus, plus, padding⟩

theorem readDigits_cons (plain : Plain c) (value count : Nat) (afterDigit : Bool) :
    readDigits? 10 value count afterDigit (c :: cs) =
      readDigits? 10 (10 * value + (c.toNat - 48)) (count + 1) true cs := by
  rw [readDigits?, plain.baseDigit_eq]
  · exact if_pos plain.lt_ten
  · exact plain.ne_underscore

theorem readDigits_plain (plain : ∀ c ∈ cs, Plain c) (value count : Nat) :
    readDigits? 10 value count true cs =
      some (Nat.ofDigitChars 10 cs value, count + cs.length) := by
  induction cs generalizing value count with
  | nil => rfl
  | cons c cs ih =>
    rw [readDigits_cons (plain c List.mem_cons_self),
      ih fun d member => plain d (List.mem_cons_of_mem c member), Nat.ofDigitChars_cons,
      List.length_cons, Nat.add_assoc, Nat.add_comm 1]
    rfl

theorem readDigits_digits (plain : ∀ c ∈ cs, Plain c) (nonempty : cs ≠ []) :
    readDigits? 10 0 0 false cs = some (Nat.ofDigitChars 10 cs 0, cs.length) := by
  obtain ⟨c, rest, rfl⟩ := List.exists_cons_of_ne_nil nonempty
  rw [readDigits_cons (plain c List.mem_cons_self),
    readDigits_plain fun d member => plain d (List.mem_cons_of_mem c member), Nat.ofDigitChars_cons,
    List.length_cons, Nat.add_comm (0 + 1)]
  simp

theorem plainDigits_plain (plain : ∀ c ∈ cs, Plain c) : plainDigits cs = cs := by
  refine (List.map_congr_left fun c member => ?_).trans (List.map_id cs)
  rw [(plain c member).digitValue_eq]
  exact (plain c member).char_eq

theorem trim_unpadded (unpadded : ∀ c ∈ cs, isPadding c = false) : trim isPadding cs = cs := by
  have stops {l : List Char} (unpadded : ∀ c ∈ l, isPadding c = false) :
      l.dropWhile isPadding = l := by
    cases l with
    | nil => rfl
    | cons c l => exact List.dropWhile_cons_of_neg (by simp [unpadded c List.mem_cons_self])
  rw [trim, stops unpadded, stops fun c member => unpadded c (List.mem_reverse.mp member),
    List.reverse_reverse]

/-- A sign or none, and digits. -/
theorem readInt_digits (negative : Bool) (plain : ∀ c ∈ cs, Plain c) (nonempty : cs ≠ [])
    (few : cs.length ≤ maxDigits) :
    readInt 10 (if negative then '-' :: cs else cs) =
      .ok (if negative then -(Nat.ofDigitChars 10 cs 0 : Int) else Nat.ofDigitChars 10 cs 0) := by
  have run : cs.takeWhile (fun c => c = '_' || (baseDigit? c).any (· < 10)) = cs := by
    refine List.takeWhile_eq_self_iff.mpr fun c member => ?_
    simp [(plain c member).baseDigit_eq, (plain c member).lt_ten]
  have body : dropBasePrefix 10 cs = cs := by
    unfold dropBasePrefix
    split
    · rename_i letter
      cases letter
    · rfl
  have trimmed : trim isPadding (plainDigits (if negative then '-' :: cs else cs)) =
      if negative then '-' :: cs else cs := by
    cases negative with
    | false =>
      rw [if_neg Bool.false_ne_true, plainDigits_plain plain,
        trim_unpadded fun c member => (plain c member).unpadded]
    | true =>
      have signed : plainDigits ('-' :: cs) = '-' :: cs :=
        congrArg ('-' :: ·) (plainDigits_plain plain)
      rw [if_pos rfl, signed]
      refine trim_unpadded fun c member => ?_
      obtain rfl | member := List.mem_cons.mp member
      · decide
      · exact (plain c member).unpadded
  unfold readInt
  rw [trimmed]
  split
  rename_i sign digits signed
  have signed : sign = negative ∧ digits = cs := by
    cases negative with
    | true =>
      cases signed
      exact ⟨rfl, rfl⟩
    | false =>
      rw [if_neg Bool.false_ne_true] at signed
      split at signed
      · exact absurd rfl (plain _ List.mem_cons_self).ne_minus
      · exact absurd rfl (plain _ List.mem_cons_self).ne_plus
      · cases signed
        exact ⟨rfl, rfl⟩
  obtain ⟨rfl, rfl⟩ := signed
  dsimp only
  rw [body, run, readDigits_digits plain nonempty]
  dsimp only
  rw [if_neg fun long => Nat.not_lt.mpr few long.2, if_neg (Nat.lt_irrefl _)]

/-- An integer is read back from its decimal text. -/
theorem readInt_toString (few : FewDigits n) : readInt 10 (toString n).toList = .ok n := by
  have digits (m : Nat) : (toString m).toList = Nat.toDigits 10 m := by
    rw [Nat.toString_eq_repr, Nat.toList_repr]
  have plain (m : Nat) : ∀ c ∈ Nat.toDigits 10 m, Plain c := fun c member =>
    plain_of_isDigit (Nat.isDigit_of_mem_toDigits (b := 10) (by decide) (by decide) member)
  have few : (Nat.toDigits 10 n.natAbs).length ≤ maxDigits := by
    rw [← digits, String.length_toList]
    exact few
  have read (negative : Bool) := readInt_digits negative (plain n.natAbs) Nat.toDigits_ne_nil few
  simp only [Nat.ofDigitChars_ten_toDigits] at read
  cases n with
  | ofNat m =>
    have text : (toString (Int.ofNat m)).toList = Nat.toDigits 10 m := digits m
    rw [text]
    exact read false
  | negSucc m =>
    have text : (toString (Int.negSucc m)).toList = '-' :: Nat.toDigits 10 (m + 1) := by
      change ("-" ++ toString (m + 1)).toList = _
      rw [String.toList_append, digits]
      rfl
    rw [text]
    exact read true

end TileComposite.Text

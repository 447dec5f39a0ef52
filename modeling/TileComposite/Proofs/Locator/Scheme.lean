import Mathlib.Data.List.TakeWhile
import TileComposite.Locator.Scheme
import TileComposite.Proofs.Failure
import TileComposite.Text.Lower

/-! Schemes of locators. What stands before `://` is the scheme of a locator, in lower case, if
it is a letter followed by letters, digits and three signs. Otherwise it is not: the locator has
another scheme, or none. -/
namespace TileComposite

namespace Text
variable {c : Char} {s : List Char}

/-- Only the first row of the table has plain letters. -/
theorem lowerOffset_ascii {n : Nat} (ascii : n < 128) :
    lowerOffset? n = if 65 ≤ n ∧ n ≤ 90 then some 32 else none := by
  have first : lowerRows.toList = (65, 90, 1, 32) :: lowerRows.toList.tail := rfl
  have later : ∀ row ∈ lowerRows.toList.tail, 128 ≤ row.1 := by decide +kernel
  rw [lowerOffset?, ← Array.find?_toList, first]
  by_cases letter : 65 ≤ n ∧ n ≤ 90
  · rw [List.find?_cons_of_pos (by simp [letter, Nat.mod_one]), if_pos letter]
    rfl
  · rw [List.find?_cons_of_neg (by simp; omega), if_neg letter, Option.map_eq_none_iff,
      List.find?_eq_none]
    intro row member
    have above := later row member
    simp
    omega

theorem toLower_ascii (ascii : c.toNat < 128) :
    c.toLower = if 65 ≤ c.toNat ∧ c.toNat ≤ 90 then Char.ofNat (c.toNat + 32) else c := by
  have table : ∀ n < 128, (Char.ofNat n).toLower =
      if 65 ≤ n ∧ n ≤ 90 then Char.ofNat (n + 32) else Char.ofNat n := by decide +kernel
  simpa using table c.toNat ascii

theorem lowerChar_ascii (ascii : c.toNat < 128) : lowerChar c = c.toLower := by
  unfold lowerChar
  rw [lowerOffset_ascii ascii, toLower_ascii ascii]
  by_cases letter : 65 ≤ c.toNat ∧ c.toNat ≤ 90
  · have moved : ((c.toNat : Int) + 32).toNat = c.toNat + 32 := by omega
    rw [if_pos letter, if_pos letter]
    dsimp only
    rw [moved]
  · rw [if_neg letter, if_neg letter]

theorem lowerFrom_ascii (before : List Char) (ascii : ∀ c ∈ s, c.toNat < 128) :
    lowerFrom before s = s.map Char.toLower := by
  induction s generalizing before with
  | nil => rfl
  | cons c s ih =>
    have first := ascii c List.mem_cons_self
    have dotted : c ≠ 'İ' := by rintro rfl; exact absurd first (by decide)
    have sigma : c ≠ 'Σ' := by rintro rfl; exact absurd first (by decide)
    rw [lowerFrom, if_neg dotted, if_neg sigma, lowerChar_ascii first,
      ih _ fun d member => ascii d (List.mem_cons_of_mem c member)]
    rfl

theorem lower_ascii {t : String} (ascii : ∀ c ∈ t.toList, c.toNat < 128) :
    lower t = String.ofList (t.toList.map Char.toLower) :=
  congrArg String.ofList (lowerFrom_ascii [] ascii)

/-- No character vanishes in lower case. -/
theorem length_le_lowerFrom (before s : List Char) : s.length ≤ (lowerFrom before s).length := by
  induction s generalizing before with
  | nil => exact Nat.le_refl 0
  | cons c s ih =>
    have rest := ih (c :: before)
    rw [lowerFrom]
    split
    · simp only [List.cons_append, List.nil_append, List.length_cons]
      omega
    · split
      · split <;> simpa using rest
      · simpa using rest

end Text

namespace Locator
variable {c : Char} {s rest : List Char}

/-- A scheme as locators have it. -/
structure IsScheme (s : List Char) : Prop where
  head : (s.head?.map Char.isAlpha).getD false = true
  all : s.all isSchemeChar = true

instance (s : List Char) : Decidable (IsScheme s) :=
  decidable_of_iff (_ ∧ _) ⟨fun h => ⟨h.1, h.2⟩, fun h => ⟨h.head, h.all⟩⟩

theorem isSchemeChar_bounds (scheme : isSchemeChar c = true) :
    43 ≤ c.toNat ∧ c.toNat ≤ 122 ∧ c.toNat ≠ 58 := by
  change (decide ('A'.val ≤ c.val ∧ c.val ≤ 'Z'.val) ||
    (decide ('a'.val ≤ c.val) && decide (c.val ≤ 'z'.val)) ||
    (decide ('0'.val ≤ c.val) && decide (c.val ≤ '9'.val)) ||
    c == '+' || c == '-' || c == '.') = true at scheme
  simp only [Bool.or_eq_true, Bool.and_eq_true, decide_eq_true_eq, beq_iff_eq,
    UInt32.le_iff_toNat_le] at scheme
  have value : c.val.toNat = c.toNat := rfl
  rcases scheme with ((((⟨low, high⟩ | ⟨low, high⟩) | ⟨low, high⟩) | rfl) | rfl) | rfl
  case inr | inl.inr | inl.inl.inr => decide
  all_goals
    simp at low high
    omega

theorem IsScheme.ascii (scheme : IsScheme s) : ∀ c ∈ s, c.toNat < 128 := by
  intro c member
  have := isSchemeChar_bounds (List.all_eq_true.mp scheme.all c member)
  omega

/-! ### Cleaning -/

/-- What does not count within a locator. -/
def isIgnored (c : Char) : Bool := c = '\t' || c = '\n' || c = '\r'

theorem clean_eq (cs : List Char) :
    clean cs = (cs.dropWhile fun c => c ≤ ' ').filter fun c => !isIgnored c := by
  unfold clean isIgnored
  congr
  funext c
  simp [Bool.and_assoc]

theorem clean_sublist (cs : List Char) : (clean cs).Sublist cs := by
  rw [clean_eq]
  exact List.filter_sublist.trans (List.dropWhile_sublist _)

/-- A colon is never ignored, nor anything between it and the end of a locator but what is
ignored everywhere. -/
theorem clean_colon (s rest : List Char) :
    clean (s ++ ':' :: rest) = clean s ++ ':' :: rest.filter fun c => !isIgnored c := by
  have stops : (':' :: rest).dropWhile (fun c => decide (c ≤ ' ')) = ':' :: rest := by
    rw [List.dropWhile_cons_of_neg (by decide)]
  have kept : (':' :: rest).filter (fun c => !isIgnored c) =
      ':' :: rest.filter fun c => !isIgnored c := by
    rw [List.filter_cons_of_pos (by decide)]
  rw [clean_eq, clean_eq, List.dropWhile_append, stops]
  split
  · rename_i blank
    rw [List.isEmpty_iff.mp blank, kept]
    rfl
  · rw [List.filter_append, kept]

theorem IsScheme.clean_eq_self (scheme : IsScheme s) : clean s = s := by
  have printed (c : Char) (member : c ∈ s) : 33 ≤ c.toNat := by
    have := isSchemeChar_bounds (List.all_eq_true.mp scheme.all c member)
    omega
  have visible : s.dropWhile (fun c => decide (c ≤ ' ')) = s := by
    cases s with
    | nil => rfl
    | cons c s =>
      refine List.dropWhile_cons_of_neg ?_
      have above := printed c List.mem_cons_self
      have space : c.toNat ≤ 32 ↔ c ≤ ' ' := Iff.rfl
      rw [decide_eq_true_eq, ← space]
      omega
  rw [clean_eq, visible, List.filter_eq_self]
  intro c member
  have above := printed c member
  have tab : c ≠ '\t' := by rintro rfl; exact absurd above (by decide)
  have newline : c ≠ '\n' := by rintro rfl; exact absurd above (by decide)
  have feed : c ≠ '\r' := by rintro rfl; exact absurd above (by decide)
  simp [isIgnored, tab, newline, feed]

/-! ### The text before the first colon -/

/-- What stands before the first colon of a locator that begins with a text and a colon. -/
def stem (s : List Char) : List Char := (clean s).takeWhile (· ≠ ':')

theorem stem_sublist (s : List Char) : (stem s).Sublist s :=
  (List.takeWhile_sublist _).trans (clean_sublist s)

theorem IsScheme.stem_eq (scheme : IsScheme s) : stem s = s := by
  rw [stem, scheme.clean_eq_self, List.takeWhile_eq_self_iff]
  intro c member
  have := isSchemeChar_bounds (List.all_eq_true.mp scheme.all c member)
  have colon : c ≠ ':' := by rintro rfl; exact absurd rfl this.2.2
  exact decide_eq_true colon

theorem takeWhile_colon (s rest : List Char) :
    (clean (s ++ ':' :: rest)).takeWhile (· ≠ ':') = stem s := by
  rw [clean_colon, List.takeWhile_append]
  split
  · rename_i whole
    rw [List.takeWhile_cons_of_neg (by decide), List.append_nil]
    exact ((List.takeWhile_prefix _).eq_of_length whole).symm
  · rfl

theorem splitScheme_colon (s rest : List Char) :
    splitScheme (clean (s ++ ':' :: rest)) = if IsScheme (stem s) then
        (String.ofList ((stem s).map Char.toLower),
          (clean (s ++ ':' :: rest)).drop ((stem s).length + 1))
      else ("", clean (s ++ ':' :: rest)) := by
  have room : (stem s).length < (clean (s ++ ':' :: rest)).length := by
    have short : (stem s).length ≤ (clean s).length := (List.takeWhile_sublist _).length_le
    rw [clean_colon, List.length_append, List.length_cons]
    omega
  unfold splitScheme
  rw [takeWhile_colon]
  dsimp only
  by_cases scheme : IsScheme (stem s)
  · rw [if_pos scheme, scheme.head, scheme.all, decide_eq_true room]
    rfl
  · rw [if_neg scheme, if_neg]
    rintro both
    simp only [Bool.and_eq_true] at both
    exact scheme ⟨both.1.1, both.1.2⟩

/-! ### Schemes -/

/-- The host in what follows `://`. -/
def hostIn (rest : String) : List Char :=
  (rest.toList.filter fun c => !isIgnored c).takeWhile fun c => c ≠ '/' ∧ c ≠ '?' ∧ c ≠ '#'

theorem toList_locator (s rest : String) :
    (s ++ "://" ++ rest).toList = s.toList ++ ':' :: ('/' :: '/' :: rest.toList) := by
  simp

theorem scheme_raises (url : String) :
    Raises (scheme url) fun e => ∃ fault, e = .badHost fault := by
  unfold scheme
  exact (mapError_raises _ _).bind fun _ _ => nofun

/-- The scheme before `://` is that of the locator, unless the host is refused. -/
theorem scheme_eq {s : String} (known : IsScheme s.toList) (rest : String) :
    scheme (s ++ "://" ++ rest) =
      (checkHost (hostIn rest)).mapError .badHost >>= fun _ => .ok (Text.lower s) := by
  have host : (clean (s.toList ++ ':' :: ('/' :: '/' :: rest.toList))).drop (s.toList.length + 1) =
      '/' :: '/' :: rest.toList.filter fun c => !isIgnored c := by
    rw [clean_colon, known.clean_eq_self]
    simp
    rfl
  rw [scheme, toList_locator, splitScheme_colon, known.stem_eq, if_pos known, host,
    Text.lower_ascii known.ascii]
  rfl

/-- A host of plain characters without brackets is in order. -/
theorem checkHost_plain {host : List Char} (plain : ∀ c ∈ host, c.isAlphanum = true) :
    checkHost host = .ok () := by
  have ascii (c : Char) (member : c ∈ host) : c.toNat < 128 := by
    have := isSchemeChar_bounds (c := c) (by simp [isSchemeChar, plain c member])
    omega
  have opening : host.contains '[' = false := by
    simpa using fun member => absurd (plain _ member) (by decide)
  have closing : host.contains ']' = false := by
    simpa using fun member => absurd (plain _ member) (by decide)
  have undisguised : host.any (fun c => disguises.contains c.toNat) = false := by
    have beyond : ∀ n ∈ disguises, 128 ≤ n := by decide
    rw [List.any_eq_false]
    intro c member disguise
    have := beyond _ (List.contains_iff_mem.mp disguise)
    have := ascii c member
    omega
  rw [checkHost, opening, closing, undisguised]
  rfl

theorem checkHost_hostIn {rest : String} (plain : ∀ c ∈ rest.toList, c.isAlphanum = true) :
    checkHost (hostIn rest) = .ok () :=
  checkHost_plain fun c member =>
    plain c ((List.takeWhile_sublist _).trans List.filter_sublist |>.mem member)

/-- A text that is no scheme is never the scheme of a locator that begins with it. -/
theorem scheme_ne {s : String} (nonempty : s ≠ "") (unknown : ¬IsScheme s.toList) (rest : String) :
    scheme (s ++ "://" ++ rest) ≠ .ok (Text.lower s) := by
  intro found
  rw [scheme, toList_locator, splitScheme_colon] at found
  by_cases known : IsScheme (stem s.toList)
  · rw [if_pos known] at found
    obtain ⟨_, _, found⟩ := Except.ok_of_bind found
    have lowered := congrArg String.toList (Except.ok.inj found)
    rw [Text.lower, String.toList_ofList, String.toList_ofList] at lowered
    -- The scheme of the locator is as long as its stem, which is a part of the text.
    have length := Text.length_le_lowerFrom [] s.toList
    rw [← lowered, List.length_map] at length
    have whole := (stem_sublist s.toList).eq_of_length_le length
    exact unknown (whole ▸ known)
  · rw [if_neg known] at found
    obtain ⟨_, _, found⟩ := Except.ok_of_bind found
    have lowered : [] = Text.lowerFrom [] s.toList := by
      simpa [Text.lower] using congrArg String.toList (Except.ok.inj found)
    have length := Text.length_le_lowerFrom [] s.toList
    rw [← lowered] at length
    have none : s.toList = [] := List.eq_nil_of_length_eq_zero (Nat.le_zero.mp length)
    exact nonempty (String.toList_eq_nil_iff.mp none)

end Locator
end TileComposite

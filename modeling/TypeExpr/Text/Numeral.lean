import TypeExpr.Text.Blank
import TypeExpr.Text.Word

/-!
# `TypeExpr.Text.Numeral`: whole numbers in text

Numbers are written in decimal digits with a minus sign in front where they are negative. They are
read more freely: blanks around the number, either sign, decimal digits of any script, and single
underscores between digits.
-/

namespace TypeExpr.Text

/-! ### Writing -/

/-- A natural number in decimal digits. -/
def ofNat (n : Nat) : Text := Nat.toDigits 10 n

/-- An integer in decimal digits, with a minus sign if it is negative. -/
def ofInt : Int → Text
  | .ofNat n => ofNat n
  | .negSucc n => '-' :: ofNat (n + 1)

theorem ofNat_inj {m n : Nat} : ofNat m = ofNat n ↔ m = n := by
  constructor
  · intro h
    have hread := congrArg (fun digits => Nat.ofDigitChars 10 digits 0) h
    simpa only [ofNat, Nat.ofDigitChars_ten_toDigits] using hread
  · exact congrArg ofNat

theorem isDigit_of_mem_ofNat {n : Nat} {c : Char} (h : c ∈ ofNat n) : c.isDigit = true :=
  Nat.isDigit_of_mem_toDigits (by decide) (by decide) h

/-- An integer is written in digits, and with a minus sign if it is negative. -/
theorem eq_minus_or_isDigit_of_mem_ofInt {i : Int} {c : Char} (h : c ∈ ofInt i) :
    c = '-' ∨ c.isDigit = true := by
  cases i with
  | ofNat n => exact .inr (isDigit_of_mem_ofNat h)
  | negSucc n => exact (List.mem_cons.mp h).imp_right isDigit_of_mem_ofNat

theorem minus_not_mem_ofNat (n : Nat) : '-' ∉ ofNat n := fun h =>
  absurd (isDigit_of_mem_ofNat h) (by decide)

/-- Different integers are written differently. -/
theorem ofInt_inj {i j : Int} : ofInt i = ofInt j ↔ i = j := by
  -- a minus sign tells a negative number from any other
  have hsign : ∀ m n, ofNat m ≠ '-' :: ofNat n := fun m n h =>
    minus_not_mem_ofNat m (h ▸ List.mem_cons_self ..)
  refine ⟨fun h => ?_, congrArg ofInt⟩
  cases i with
  | ofNat m =>
    cases j with
    | ofNat n => rw [ofNat_inj.mp h]
    | negSucc n => exact absurd h (hsign m (n + 1))
  | negSucc m =>
    cases j with
    | ofNat n => exact absurd h.symm (hsign n (m + 1))
    | negSucc n => rw [Nat.succ.inj (ofNat_inj.mp (List.cons.inj h).2)]

/-! ### Reading -/

/-- The blanks that may surround a number: all but the information separators. -/
def surroundsNumber (c : Char) : Bool := isBlank c && !(0x1C ≤ c.toNat && c.toNat ≤ 0x1F)

/-- The most digits a number is read with. -/
def maxDigits : Nat := 4300

/-- A natural number in decimal digits of any script, single underscores between them allowed. -/
def readNat? (t : Text) : Option Nat :=
  if (t.splitOn '_').any List.isEmpty then none
  else do
    let digits ← (t.filter (· != '_')).mapM digitValue?
    if digits.length ≤ maxDigits then some (digits.foldl (fun n d => 10 * n + d) 0) else none

/-- A whole number with an optional sign and blanks around it. -/
def readInt? (t : Text) : Option Int :=
  match ((t.dropWhile surroundsNumber).reverse.dropWhile surroundsNumber).reverse with
  | '+' :: digits => (readNat? digits).map Int.ofNat
  | '-' :: digits => (readNat? digits).map fun n => -Int.ofNat n
  | digits => (readNat? digits).map Int.ofNat

end TypeExpr.Text

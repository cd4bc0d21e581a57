import DeliveryRouting.Arithmetic

/-! # Text: decimal numerals

A numeral is a non-empty run of ASCII digits, the most significant first. `value` reads one,
`digits` writes the one without superfluous leading zeros, and `value_digits` says that it is read
back. -/

namespace DeliveryRouting.Numeral

/-- The number an ASCII digit stands for. -/
def digitValue (c : Char) : Nat := c.toNat - '0'.toNat

/-- The number a run of digits writes; nothing writes zero. -/
def value (cs : List Char) : Nat := cs.foldl (fun n c => 10 * n + digitValue c) 0

/-- The text is a numeral. -/
def isNumeral (cs : List Char) : Bool := !cs.isEmpty && cs.all Char.isDigit

/-- The numeral of `n` without superfluous leading zeros. -/
def digits (n : Nat) : List Char :=
  if n < 10 then [n.digitChar] else digits (n / 10) ++ [(n % 10).digitChar]

/-- The numeral of `n`, filled up with leading zeros to `width` digits. -/
def padded (width n : Nat) : List Char :=
  List.replicate (width - (digits n).length) '0' ++ digits n

/-- The numeral of an integer behind its sign, the whole at least `width` characters wide. -/
def signed (width : Nat) : Int → List Char
  | .ofNat n => padded width n
  | .negSucc n => '-' :: padded (width - 1) (n + 1)

/-! ### Reading what is written -/

theorem digitValue_digitChar {d : Nat} (h : d < 10) : digitValue d.digitChar = d := by
  unfold digitValue
  rw [Nat.toNat_digitChar_of_lt_ten h]
  exact Nat.add_sub_cancel_left ..

theorem isDigit_digitChar {d : Nat} (h : d < 10) : d.digitChar.isDigit = true := by
  have all : ∀ d : Fin 10, d.val.digitChar.isDigit = true := by decide
  exact all ⟨d, h⟩

theorem foldl_value (n : Nat) (cs : List Char) :
    cs.foldl (fun n c => 10 * n + digitValue c) n = n * 10 ^ cs.length + value cs := by
  induction cs generalizing n with
  | nil => simp [value]
  | cons c cs ih =>
    simp only [value, List.foldl_cons, List.length_cons] at ih ⊢
    rw [ih, ih (10 * 0 + digitValue c), Nat.pow_succ]
    grind

theorem value_append (cs ds : List Char) :
    value (cs ++ ds) = value cs * 10 ^ ds.length + value ds := by
  rw [value, List.foldl_append]
  exact foldl_value (value cs) ds

/-- What `digits` writes is read back. -/
theorem value_digits (n : Nat) : value (digits n) = n := by
  fun_induction digits n with
  | case1 n h => simp [value, digitValue_digitChar h]
  | case2 n _ ih =>
    rw [value_append, ih]
    simp [value, digitValue_digitChar (Nat.mod_lt n (by decide : 10 > 0))]
    omega

theorem isNumeral_digits (n : Nat) : isNumeral (digits n) = true := by
  fun_induction digits n with
  | case1 n h => simp [isNumeral, isDigit_digitChar h]
  | case2 n _ ih =>
    have h := isDigit_digitChar (Nat.mod_lt n (by decide : 10 > 0))
    simp_all [isNumeral]

end DeliveryRouting.Numeral

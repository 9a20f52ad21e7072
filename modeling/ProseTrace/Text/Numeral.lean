import ProseTrace.Text.Blank
import ProseTrace.Text.DecimalDigit

/-!
# Integers in text

An integer is read from an optional sign and decimal digits of any script; single underscores may
stand between digits, and white space around the whole, except the information separators.  More
than `maxDigits` digits are neither read nor written.
-/

namespace ProseTrace.Text.Numeral

def maxDigits : Nat := 4300

/-- An integer has more digits than that; only the digits of a text were counted. -/
structure TooLong where
  counted : Option Nat
  deriving DecidableEq

def TooLong.message (e : TooLong) : String :=
  let count := match e.counted with
    | some digits => s!": value has {digits} digits"
    | none => ""
  s!"Exceeds the limit ({maxDigits} digits) for integer string conversion{count}; use " ++
    "sys.set_int_max_str_digits() to increase the limit"

def isWritable (n : Int) : Bool := n.natAbs < Nat.pow 10 maxDigits

def write (n : Int) : Except TooLong String :=
  if isWritable n then .ok (toString n) else .error ⟨none⟩

def isMargin (c : Char) : Bool := isBlank c && !(0x1C ≤ c.toNat && c.toNat ≤ 0x1F)

/-- The values of the digits; an underscore only between two of them. -/
def digits? : List Char → Option (List Nat)
  | [] => none
  | [c] => (decimalDigit? c).map ([·])
  | c :: '_' :: rest => do return (← decimalDigit? c) :: (← digits? rest)
  | c :: rest => do return (← decimalDigit? c) :: (← digits? rest)

/-- The number with these decimal digits, most significant first. -/
def ofDigits (digits : List Nat) : Nat := digits.foldl (fun n d => 10 * n + d) 0

private def magnitude? (text : List Char) : Option Nat := do
  let digits ← digits? text
  if digits.length ≤ maxDigits then some (ofDigits digits) else none

def trimmed (text : List Char) : List Char :=
  ((text.dropWhile isMargin).reverse.dropWhile isMargin).reverse

def readInt? (text : String) : Option Int :=
  match trimmed text.toList with
  | '-' :: rest => (magnitude? rest).map fun n => -(n : Int)
  | '+' :: rest => (magnitude? rest).map fun n => (n : Int)
  | rest => (magnitude? rest).map fun n => (n : Int)

theorem exists_decimalDigit?_of_digits? {c : Char} {rest : List Char} {digits : List Nat}
    (h : digits? (c :: rest) = some digits) : ∃ d, decimalDigit? c = some d := by
  cases hc : decimalDigit? c with
  | some d => exact ⟨d, rfl⟩
  | none =>
    unfold digits? at h
    split at h <;> simp_all

private theorem magnitude?_eq {text : List Char} {digits : List Nat}
    (h : digits? text = some digits) :
    magnitude? text = if digits.length ≤ maxDigits then some (ofDigits digits) else none := by
  rw [magnitude?, h]
  rfl

theorem readInt?_of_digits {text : String} {digits : List Nat}
    (h : digits? (trimmed text.toList) = some digits) :
    readInt? text = if digits.length ≤ maxDigits then some (ofDigits digits : Int) else none := by
  unfold readInt?
  split
  next rest htext =>
    obtain ⟨d, hd⟩ := exists_decimalDigit?_of_digits? (htext ▸ h)
    cases hd.symm.trans (show decimalDigit? '-' = none by decide)
  next rest htext =>
    obtain ⟨d, hd⟩ := exists_decimalDigit?_of_digits? (htext ▸ h)
    cases hd.symm.trans (show decimalDigit? '+' = none by decide)
  next =>
    rw [magnitude?_eq h]
    split <;> rfl

/-- Behind a minus the digits are those of the opposite integer. -/
theorem readInt?_of_minus {text : String} {rest : List Char} {digits : List Nat}
    (htext : trimmed text.toList = '-' :: rest) (h : digits? rest = some digits) :
    readInt? text =
      if digits.length ≤ maxDigits then some (-(ofDigits digits : Int)) else none := by
  rw [readInt?, htext]
  simp only [magnitude?_eq h]
  split <;> rfl

end ProseTrace.Text.Numeral

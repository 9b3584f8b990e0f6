/-
What plain scalars of YAML mean.

A plain scalar is missing, a flag, a number or a text, by its spelling alone.
-/
import Switchyard.Document.Content
import Switchyard.Ieee.Decimal
import Switchyard.Text.Split

namespace Switchyard.Yaml

/-! ## Missing values and flags -/

/-- Whether a text spells a missing value. -/
def isNull (cs : List Char) : Bool :=
  String.ofList cs ∈ ["null", "Null", "NULL", "~"]

/-- The flag that a text spells. -/
def flag? (cs : List Char) : Option Bool :=
  let s := String.ofList cs
  if s ∈ ["true", "True", "TRUE"] then some true
  else if s ∈ ["false", "False", "FALSE"] then some false
  else none

/-! ## Integers -/

/-- Whether a character is a sign. -/
def isSign (c : Char) : Bool := c = '+' || c = '-'

/-- The text without a plus sign. -/
def withoutPlus (cs : List Char) : List Char := (Text.after? ['+'] cs).getD cs

/-- Whether a text has a needless zero before its digits; it is then no number. -/
def isPadded (cs : List Char) : Bool :=
  let digits := if cs.head?.any isSign then cs.drop 1 else cs
  1 < digits.length && digits.head? = some '0' && digits.all Char.isDigit

/-- The number behind the mark of a base. -/
def marked? (cs : List Char) : Option Nat :=
  match cs with
  | '0' :: 'x' :: ds => Text.readNat 16 ds
  | '0' :: 'o' :: ds => Text.readNat 8 ds
  | '0' :: 'b' :: ds => Text.readNat 2 ds
  | _ => none

/-- The natural number that a text spells. -/
def natural? (cs : List Char) : Option Nat :=
  let ds := withoutPlus cs
  (marked? ds).or (if isPadded cs then none else Text.readNat 10 ds)

/-- The absolute value of the number that a text with a minus sign spells. -/
def negative? (cs : List Char) : Option Nat :=
  match cs with
  | '-' :: ds => (marked? ds).or (if isPadded cs then none else Text.readNat 10 ds)
  | _ => none

/-! ## Numbers with places -/

/-- The exponent of a number, which may be missing. -/
def exponent? : List Char → Option Int
  | [] => some 0
  | c :: cs =>
    if c ≠ 'e' ∧ c ≠ 'E' then none
    else match cs with
      | '-' :: ds => (Text.readNat 10 ds).map fun n => -(n : Int)
      | '+' :: ds => (Text.readNat 10 ds).map Int.ofNat
      | ds => (Text.readNat 10 ds).map Int.ofNat

/-- The double that digits with places and an exponent spell; digits are needed on one side of the point. -/
def unsignedDouble? (isNegative : Bool) (cs : List Char) : Option Double :=
  let whole := cs.takeWhile Char.isDigit
  let rest := cs.dropWhile Char.isDigit
  let (places, rest) :=
    match rest with
    | '.' :: rest => (rest.takeWhile Char.isDigit, rest.dropWhile Char.isDigit)
    | rest => ([], rest)
  (Text.readNat 10 (whole ++ places)).bind fun m =>
    (exponent? rest).map fun e => Double.ofDecimal isNegative m (e - places.length)

/-- The double that a text spells. -/
def double? (cs : List Char) : Option Double :=
  let ds := withoutPlus cs
  if cs.head? = some '+' && ds.head?.any isSign then none
  else if String.ofList ds ∈ [".inf", ".Inf", ".INF"] then some Double.infinite
  else if String.ofList cs ∈ ["-.inf", "-.Inf", "-.INF"] then some Double.infinite.negated
  else if String.ofList cs ∈ [".nan", ".NaN", ".NAN"] then some Double.undefined
  else
    (match ds with
      | '-' :: ds => unsignedDouble? true ds
      | ds => unsignedDouble? false ds).filter Double.isFinite

/-! ## All -/

/-- The integer that a text spells, as a document; integers of more than 64 bits are refused when they
have at most 128. -/
def integer? (cs : List Char) : Option (Option Content) :=
  match natural? cs, negative? cs with
  | some n, _ =>
    if n < UInt64.size then some (some (.natural n)) else if n < UInt64.size * UInt64.size then some none else none
  | none, some n =>
    if n ≤ 0x8000000000000000 then some (some (.negative n)) else if n ≤ 0x80000000000000000000000000000000 then some none else none
  | none, none => none

/-- What a plain scalar means; nothing when it is an integer that is too large. -/
def meaning (cs : List Char) : Option Content :=
  if cs.isEmpty || isNull cs then some .null
  else match flag? cs, integer? cs with
    | some b, _ => some (.flag b)
    | none, some i => i
    | none, none =>
      match if isPadded cs then none else double? cs with
      | some x => some (.double x)
      | none => some (.text (String.ofList cs))

end Switchyard.Yaml

/-!
# JSON values

Objects keep their members in the order in which they were written.  Numbers without a fraction or
an exponent are integers of any size; the others are kept as the decimals they spell.
-/

namespace AccountRecovery

inductive Json where
  | null
  | bool (b : Bool)
  | int (n : Int)
  /-- The number `mantissa · 10 ^ exponent`, written with a fraction or an exponent. -/
  | decimal (mantissa exponent : Int)
  | notANumber
  | infinity (negative : Bool)
  | text (s : String)
  | array (items : List Json)
  | object (members : List (String × Json))
deriving Repr, Inhabited, BEq

namespace Json

/-- Sets the value of a key: in its place if the key is there, and at the end if it is not. -/
def setMember (key : String) (v : Json) : List (String × Json) → List (String × Json)
  | [] => [(key, v)]
  | m :: ms => if m.1 = key then (key, v) :: ms else m :: setMember key v ms

def member? (key : String) : Json → Option Json
  | object members => members.lookup key
  | _ => none

def text? : Json → Option String
  | text s => some s
  | _ => none

/-- The double nearest to a decimal.  Decimals far outside the range of doubles are settled by the
place of their first digit. -/
def decimalToFloat (mantissa exponent : Int) : Float :=
  let leading := exponent + (mantissa.natAbs.log2 / 4 : Nat)
  let magnitude : Float :=
    if mantissa = 0 ∨ leading < -(400 + mantissa.natAbs.log2 : Nat) then 0
    else if 400 < leading then 1.0 / 0.0
    else Float.ofScientific mantissa.natAbs (exponent < 0) exponent.natAbs
  if mantissa < 0 then -magnitude else magnitude

mutual

/-- Whether a value holds a number that is not finite, at any depth. -/
def hasNonFinite : Json → Bool
  | notANumber => true
  | infinity _ => true
  | decimal m e => (decimalToFloat m e).isInf
  | array items => anyNonFinite items
  | object members => anyMemberNonFinite members
  | _ => false

def anyNonFinite : List Json → Bool
  | [] => false
  | v :: vs => hasNonFinite v || anyNonFinite vs

def anyMemberNonFinite : List (String × Json) → Bool
  | [] => false
  | (_, v) :: ms => hasNonFinite v || anyMemberNonFinite ms

end

end Json

end AccountRecovery

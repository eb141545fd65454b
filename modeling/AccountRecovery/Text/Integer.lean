import AccountRecovery.Text.Blank
import AccountRecovery.Text.Word
/-!
# Integers in text

An integer literal is a row of decimal digits, with single low lines allowed between digits, an
optional sign in front and white space around it.
-/

namespace AccountRecovery.Text

/-- The value of digits of any script, `acc` being the value of those before them.  A low line must
stand between two digits, so `line` says that the last character was one. -/
def digitsValue? : (acc : Nat) → (line : Bool) → List Char → Option Nat
  | acc, line, [] => if line then none else some acc
  | acc, line, c :: cs =>
    match digitValue? c with
    | some d => digitsValue? (10 * acc + d) false cs
    | none => if c = '_' ∧ !line then digitsValue? acc true cs else none

def natural? (cs : List Char) : Option Nat :=
  match cs with
  | [] => none
  | c :: _ => if c = '_' then none else digitsValue? 0 false cs

def integer? (s : String) : Option Int :=
  match trimChars s.toList with
  | '+' :: cs => (natural? cs).map Int.ofNat
  | '-' :: cs => (natural? cs).map fun n => -Int.ofNat n
  | cs => (natural? cs).map Int.ofNat

end AccountRecovery.Text

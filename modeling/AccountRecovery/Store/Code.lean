import AccountRecovery.Dialogue
import AccountRecovery.Text.Quoted
/-!
# Recovery codes

A code is sixteen bytes written in hexadecimal, in five groups.  Two of its fields are fixed: the
version is four, and the variant starts with the bits 10.
-/

namespace AccountRecovery.RecoveryCode

def withVersion (n : Nat) : Nat :=
  let low := n % (1 <<< 62)
  let middle := (n >>> 64) % (1 <<< 12)
  let high := (n >>> 80) % (1 <<< 48)
  (high <<< 80) + (4 <<< 76) + (middle <<< 64) + (1 <<< 63) + low

def groups : List Nat → List Char → List (List Char)
  | [], _ => []
  | n :: ns, cs => cs.take n :: groups ns (cs.drop n)

def ofNat (n : Nat) : String :=
  String.ofList
    (['-'].intercalate (groups [8, 4, 4, 4, 12] (Text.hexDigits 32 (withVersion n))))

/-- Codes from given numbers; after those, from their place in the order of drawing. -/
def source (given : List Nat) : Dialogue.CodeSource :=
  fun n => ofNat (given[n]?.getD (n + 1))

end AccountRecovery.RecoveryCode

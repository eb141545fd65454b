import AccountRecovery.Text.IdentifierTable
import AccountRecovery.Text.WordTable
/-!
# Digits, word characters and identifiers

A decimal digit belongs to one of the Unicode rows of ten digits, whose zero gives its value.  A
word character is a letter, a number or the low line.  An identifier is a word that starts with a
letter or the low line, except that some letters and numbers are in none and that marks go on one.
-/

namespace AccountRecovery.Text

def isWithin (ranges : List (Nat × Nat)) (n : Nat) : Bool :=
  ranges.any fun r => r.1 ≤ n && n ≤ r.2

def digitValue? (c : Char) : Option Nat :=
  let n := c.toNat
  if n < 0x80 then
    if 0x30 ≤ n ∧ n ≤ 0x39 then some (n - 0x30) else none
  else
    (decimalZeros.find? fun z => z ≤ n && n ≤ z + 9).map (n - ·)

def isDigit (c : Char) : Bool :=
  (digitValue? c).isSome

def isAlphanumeric (c : Char) : Bool :=
  let n := c.toNat
  if n < 0x80 then
    c.isAlphanum
  else
    isWithin alphanumericRanges n

def isWord (c : Char) : Bool :=
  c == '_' || isAlphanumeric c

/-- Whether a character goes on an identifier: combining marks do, superscripts do not. -/
def continuesIdentifier (c : Char) : Bool :=
  (isWord c && !isWithin unidentifiedRanges c.toNat) || isWithin continuingRanges c.toNat

def startsIdentifier (c : Char) : Bool :=
  c == '_' || isWithin startingRanges c.toNat ||
    (isAlphanumeric c && !isDigit c && !isWithin unidentifiedRanges c.toNat &&
      !isWithin nonstartingRanges c.toNat)

def isIdentifier : List Char → Bool
  | [] => false
  | c :: cs => startsIdentifier c && cs.all continuesIdentifier

end AccountRecovery.Text

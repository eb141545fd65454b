import AccountRecovery.Json.Value
/-!
# Reading JSON

A reader of JSON texts that reports the place of the first error.  Beyond the standard it reads
`NaN`, `Infinity` and `-Infinity`.  When a key is repeated its last value counts, in the place of
the first.
-/

namespace AccountRecovery.Json

inductive Fault where
  | byteOrderMark
  | expectedValue
  | expectedName
  | expectedColon
  | expectedComma
  | extraData
  | controlCharacter
  | unterminatedText
  | invalidEscape
  | invalidUnicodeEscape
deriving Repr, DecidableEq

structure Error where
  fault : Fault
  position : Nat
deriving Repr, DecidableEq

/-- The characters that are still to be read, and the number of those in front of them. -/
structure Cursor where
  position : Nat
  rest : List Char
deriving Repr

namespace Cursor

def fail {α : Type} (c : Cursor) (f : Fault) : Except Error α :=
  .error ⟨f, c.position⟩

def skip (c : Cursor) (n : Nat) : Cursor :=
  ⟨c.position + n, c.rest.drop n⟩

def isSpace (c : Char) : Bool :=
  c == ' ' || c == '\t' || c == '\n' || c == '\r'

def skipSpace (c : Cursor) : Cursor :=
  ⟨c.position + (c.rest.takeWhile isSpace).length, c.rest.dropWhile isSpace⟩

def startsWith (c : Cursor) (word : String) : Bool :=
  word.toList.isPrefixOf c.rest

end Cursor

def hexValue? (c : Char) : Option Nat :=
  let n := c.toNat
  if 0x30 ≤ n ∧ n ≤ 0x39 then some (n - 0x30)
  else if 0x41 ≤ n ∧ n ≤ 0x46 then some (n - 0x37)
  else if 0x61 ≤ n ∧ n ≤ 0x66 then some (n - 0x57)
  else none

/-- The value of four hexadecimal digits in front of at least one more character. -/
def unicodeEscape? : List Char → Option Nat
  | a :: b :: c :: d :: _ :: _ => do
    let a ← hexValue? a
    let b ← hexValue? b
    let c ← hexValue? c
    let d ← hexValue? d
    return ((a * 16 + b) * 16 + c) * 16 + d
  | _ => none

/-- The character of a code unit.  A unit that is half of a pair has none, and is replaced. -/
def unitChar (n : Nat) : Char :=
  if 0xD800 ≤ n ∧ n ≤ 0xDFFF then Char.ofNat 0xFFFD else Char.ofNat n

def simpleEscape? : Char → Option Char
  | '"' => some '"'
  | '\\' => some '\\'
  | '/' => some '/'
  | 'b' => some (Char.ofNat 8)
  | 'f' => some (Char.ofNat 12)
  | 'n' => some '\n'
  | 'r' => some '\r'
  | 't' => some '\t'
  | _ => none

/-- Reads an escape behind the backslash at `back`: its character and its length.  A high surrogate
joins the low one behind it. -/
def readEscape (start back : Nat) (cs : List Char) : Except Error (Char × Nat) :=
  match cs with
  | [] => .error ⟨.unterminatedText, start⟩
  | 'u' :: digits =>
    match unicodeEscape? digits with
    | none => .error ⟨.invalidUnicodeEscape, back + 1⟩
    | some high =>
      if 0xD800 ≤ high ∧ high ≤ 0xDBFF ∧ 11 ≤ digits.length ∧
          ['\\', 'u'].isPrefixOf (digits.drop 4) then
        match unicodeEscape? (digits.drop 6) with
        | none => .error ⟨.invalidUnicodeEscape, back + 7⟩
        | some low =>
          if 0xDC00 ≤ low ∧ low ≤ 0xDFFF then
            .ok (Char.ofNat (0x10000 + (high - 0xD800) * 0x400 + (low - 0xDC00)), 11)
          else
            .ok (unitChar high, 5)
      else
        .ok (unitChar high, 5)
  | c :: _ =>
    match simpleEscape? c with
    | some e => .ok (e, 1)
    | none => .error ⟨.invalidEscape, back⟩

/-- Reads a text behind its opening quote, which stands at `start`; `skip` characters belong to an
escape already read. -/
def readText (start : Nat) : (skip position : Nat) → List Char → Except Error (List Char × Cursor)
  | _, _, [] => .error ⟨.unterminatedText, start⟩
  | skip + 1, p, _ :: cs => readText start skip (p + 1) cs
  | 0, p, c :: cs =>
    if c = '"' then
      .ok ([], ⟨p + 1, cs⟩)
    else if c = '\\' then do
      let (e, n) ← readEscape start p cs
      let (t, after) ← readText start n (p + 1) cs
      return (e :: t, after)
    else if c.toNat ≤ 0x1F then
      .error ⟨.controlCharacter, p⟩
    else do
      let (t, after) ← readText start 0 (p + 1) cs
      return (c :: t, after)

def digitsToNat (cs : List Char) : Nat :=
  cs.foldl (fun n c => 10 * n + (c.toNat - 0x30)) 0

/-- A number as it is written: its sign, the digits of its whole part, those of its fraction and its
exponent with the sign of that.  A fraction or an exponent that is not written is empty. -/
structure Numeral where
  negative : Bool
  whole : List Char
  fraction : List Char
  exponent : List Char

def exponentOf (cs : List Char) : List Char :=
  match cs with
  | [] => []
  | s :: r =>
    if s = '+' ∨ s = '-' then
      match r.takeWhile Char.isDigit with
      | [] => []
      | ds => s :: ds
    else
      cs.takeWhile Char.isDigit

def numeral? (cs : List Char) : Option Numeral :=
  let negative := cs.head? == some '-'
  let body := if negative then cs.drop 1 else cs
  let whole :=
    match body with
    | '0' :: _ => ['0']
    | _ => body.takeWhile Char.isDigit
  if whole.isEmpty then
    none
  else
    let afterWhole := body.drop whole.length
    let fraction :=
      match afterWhole with
      | '.' :: r => r.takeWhile Char.isDigit
      | _ => []
    let afterFraction :=
      if fraction.isEmpty then afterWhole else afterWhole.drop (fraction.length + 1)
    let exponent :=
      match afterFraction with
      | e :: r => if e = 'e' ∨ e = 'E' then exponentOf r else []
      | [] => []
    some ⟨negative, whole, fraction, exponent⟩

namespace Numeral

def length (n : Numeral) : Nat :=
  (if n.negative then 1 else 0) + n.whole.length +
    (if n.fraction.isEmpty then 0 else n.fraction.length + 1) +
    (if n.exponent.isEmpty then 0 else n.exponent.length + 1)

def exponentValue (n : Numeral) : Int :=
  match n.exponent with
  | '-' :: ds => -(digitsToNat ds : Int)
  | '+' :: ds => digitsToNat ds
  | ds => digitsToNat ds

def toJson (n : Numeral) : Json :=
  let sign : Int := if n.negative then -1 else 1
  if n.fraction.isEmpty && n.exponent.isEmpty then
    .int (sign * digitsToNat n.whole)
  else
    .decimal (sign * digitsToNat (n.whole ++ n.fraction)) (n.exponentValue - n.fraction.length)

end Numeral

/-- Reads a value that is neither a text, an array nor an object. -/
def readScalar (c : Cursor) : Except Error (Json × Cursor) :=
  if c.startsWith "null" then .ok (.null, c.skip 4)
  else if c.startsWith "true" then .ok (.bool true, c.skip 4)
  else if c.startsWith "false" then .ok (.bool false, c.skip 5)
  else if c.startsWith "NaN" then .ok (.notANumber, c.skip 3)
  else if c.startsWith "Infinity" then .ok (.infinity false, c.skip 8)
  else if c.startsWith "-Infinity" then .ok (.infinity true, c.skip 9)
  else
    match numeral? c.rest with
    | some n => .ok (n.toJson, c.skip n.length)
    | none => c.fail .expectedValue

mutual

/-- Reads one value.  Every nested call stands behind at least one character more, so the number of
characters bounds the depth. -/
def readValue : Nat → Cursor → Except Error (Json × Cursor)
  | 0, c => c.fail .expectedValue
  | fuel + 1, c =>
    match c.rest with
    | '"' :: cs => do
      let (t, after) ← readText c.position 0 (c.position + 1) cs
      return (.text (String.ofList t), after)
    | '[' :: _ =>
      let first := (c.skip 1).skipSpace
      match first.rest with
      | ']' :: _ => .ok (.array [], first.skip 1)
      | _ => do
        let (items, after) ← readItems fuel first
        return (.array items, after)
    | '\x7b' :: _ =>
      let first := (c.skip 1).skipSpace
      match first.rest with
      | '\x7d' :: _ => .ok (.object [], first.skip 1)
      | _ => readMembers fuel [] first
    | _ => readScalar c

def readItems : Nat → Cursor → Except Error (List Json × Cursor)
  | 0, c => c.fail .expectedValue
  | fuel + 1, c => do
    let (v, after) ← readValue fuel c
    let next := after.skipSpace
    match next.rest with
    | ']' :: _ => return ([v], next.skip 1)
    | ',' :: _ =>
      let (vs, last) ← readItems fuel (next.skip 1).skipSpace
      return (v :: vs, last)
    | _ => next.fail .expectedComma

def readMembers : Nat → List (String × Json) → Cursor → Except Error (Json × Cursor)
  | 0, _, c => c.fail .expectedName
  | fuel + 1, members, c =>
    match c.rest with
    | '"' :: cs => do
      let (t, afterName) ← readText c.position 0 (c.position + 1) cs
      let colon := afterName.skipSpace
      match colon.rest with
      | ':' :: _ =>
        let (v, after) ← readValue fuel (colon.skip 1).skipSpace
        let members := setMember (String.ofList t) v members
        let next := after.skipSpace
        match next.rest with
        | '\x7d' :: _ => return (.object members, next.skip 1)
        | ',' :: _ => readMembers fuel members (next.skip 1).skipSpace
        | _ => next.fail .expectedComma
      | _ => colon.fail .expectedColon
    | _ => c.fail .expectedName

end

def parse (s : String) : Except Error Json := do
  let start : Cursor := ⟨0, s.toList⟩
  if start.rest.head? == some (Char.ofNat 0xFEFF) then
    start.fail .byteOrderMark
  else
    let (v, after) ← readValue (2 * s.length + 2) start.skipSpace
    let last := after.skipSpace
    if last.rest.isEmpty then
      return v
    else
      last.fail .extraData

/-- Reads a text sent over the wire, where a byte order mark in front is not part of the text. -/
def parseMessage (s : String) : Except Error Json :=
  match s.toList with
  | c :: cs => if c.toNat = 0xFEFF then parse (String.ofList cs) else parse s
  | [] => parse s

end AccountRecovery.Json

import AccountRecovery.Form.Basic
import AccountRecovery.Text.Blank
/-!
# Fields of forms

How the values of fields are read: texts, integers, truth values, names, maps, lists and forms.
Numbers and truth values are also taken from texts that spell them.
-/

namespace AccountRecovery.Form

open Checked

variable {α : Type}

def text (v : Json) : Checked String :=
  match v with
  | .text s => .valid s
  | v => fault .notText v

/-- A text of at least `least` characters, and at most `greatest` if that is given. -/
def boundedText (least : Nat) (greatest : Option Nat) (v : Json) : Checked String :=
  match text v with
  | .valid s =>
    if s.length < least then
      fault (.tooShort least) v
    else
      match greatest with
      | some n => if n < s.length then fault (.tooLong n) v else .valid s
      | none => .valid s
  | .invalid is => .invalid is

def oneOf (names : List String) (ofName? : String → Option α) (v : Json) : Checked α :=
  match v.text?.bind ofName? with
  | some a => .valid a
  | none => fault (.notOneOf names) v

/-- The value of digits with single low lines between them. -/
def digits? : (acc : Nat) → (afterDigit : Bool) → List Char → Option Nat
  | acc, afterDigit, [] => if afterDigit then some acc else none
  | acc, afterDigit, c :: cs =>
    if c.isDigit then digits? (10 * acc + (c.toNat - 0x30)) true cs
    else if c = '_' ∧ afterDigit then digits? acc false cs
    else none

/-- An integer in ASCII digits with an optional sign, and with zeros behind a point or not. -/
def integerOfText? (s : String) : Option Int :=
  let (negative, body) :=
    match Text.trimChars s.toList with
    | '-' :: r => (true, r)
    | '+' :: r => (false, r)
    | r => (false, r)
  let whole := body.takeWhile (· != '.')
  let zeros := (body.drop whole.length).drop 1
  if zeros.all (· == '0') then
    (digits? 0 false whole).map fun n => if negative then -(n : Int) else n
  else
    none

def maxIntegerLength : Nat := 4300

/-- A number with a fraction or an exponent, if it is an integer, and of at most 64 bits. -/
def integerOfDecimal (m e : Int) (v : Json) : Checked Int :=
  let x := Json.decimalToFloat m e
  if x.isInf || x.isNaN then fault .notFinite v
  else if x.floor != x then fault .fraction v
  else if x < 9223372036854775807.0 && -9223372036854775808.0 < x then .valid x.toInt64.toInt
  else fault .hugeInteger v

/-- An integer, also as a text, as a truth value or as a number without a fraction. -/
def integer (v : Json) : Checked Int :=
  match v with
  | .int n => .valid n
  | .bool b => .valid (if b then 1 else 0)
  | .decimal m e => integerOfDecimal m e v
  | .notANumber => fault .notFinite v
  | .infinity _ => fault .notFinite v
  | .text s =>
    if maxIntegerLength < s.length then
      fault .hugeInteger v
    else
      match integerOfText? s with
      | some n => .valid n
      | none => fault .unreadableInteger v
  | v => fault .notInteger v

def truthOfInteger (n : Int) (v : Json) : Checked Bool :=
  if n = 0 then .valid false
  else if n = 1 then .valid true
  else fault .unreadableTruth v

def lowerAscii (s : String) : String :=
  String.ofList (s.toList.map Char.toLower)

/-- A truth value, also as a word or as zero or one. -/
def truth (v : Json) : Checked Bool :=
  match v with
  | .bool b => .valid b
  | .text s =>
    let s := lowerAscii s
    if ["0", "off", "f", "false", "n", "no"].contains s then .valid false
    else if ["1", "on", "t", "true", "y", "yes"].contains s then .valid true
    else fault .unreadableTruth v
  | .int n =>
    if -9223372036854775808 ≤ n ∧ n ≤ 9223372036854775807 then truthOfInteger n v
    else fault .notTruth v
  | .decimal m e =>
    match integerOfDecimal m e v with
    | .valid n => truthOfInteger n v
    | .invalid _ => fault .notTruth v
  | v => fault .notTruth v

/-- An object with values of one kind, as pairs in order. -/
def mapOf (value : Json → Checked α) (v : Json) : Checked (List (String × α)) :=
  match v with
  | .object members =>
    all (members.map fun m => under (.name m.1) ((fun a => (m.1, a)) <$> value m.2))
  | v => fault .notMap v

def listOf (item : Json → Checked α) (v : Json) : Checked (List α) :=
  match v with
  | .array items => all (items.mapIdx fun i w => under (.index i) (item w))
  | v => fault .notList v

/-- The members of an object, where the form with the given title is due. -/
def members (title : String) (v : Json) : Checked (List (String × Json)) :=
  match v with
  | .object ms => .valid ms
  | v => fault (.notForm title) v

def required (key : String) (value : Json → Checked α) (ms : List (String × Json)) : Checked α :=
  under (.name key)
    (match ms.lookup key with
    | some v => value v
    | none => fault .missing (.object ms))

/-- A field with a value to take if it is not there. -/
def optional (key : String) (default : α) (value : Json → Checked α)
    (ms : List (String × Json)) : Checked α :=
  match ms.lookup key with
  | some v => under (.name key) (value v)
  | none => .valid default

end AccountRecovery.Form

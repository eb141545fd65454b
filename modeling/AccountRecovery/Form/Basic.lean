import AccountRecovery.Json.Value
/-!
# Forms

Reading typed values from JSON.  All faults are found, not only the first one: each is an issue,
with the place of the value that it complains of.
-/

namespace AccountRecovery.Form

inductive Complaint where
  | missing
  | notText
  | tooShort (least : Nat)
  | tooLong (greatest : Nat)
  | notInteger
  | unreadableInteger
  | hugeInteger
  | fraction
  | notFinite
  | notTruth
  | unreadableTruth
  | notMap
  | notList
  /-- Not an object, where the form with this title is due. -/
  | notForm (title : String)
  /-- Not an object, where the form of a request is due. -/
  | notRequest
  | notOneOf (names : List String)
  | unexpected
  | notJson
deriving Repr, DecidableEq

def quotedName (s : String) : String :=
  "'" ++ s ++ "'"

/-- Names in a row: commas between them and a word in front of the last. -/
def namesInRow : List String → String
  | [] => ""
  | [a] => quotedName a
  | [a, b] => quotedName a ++ " or " ++ quotedName b
  | a :: rest => quotedName a ++ ", " ++ namesInRow rest

def characters (n : Nat) : String :=
  toString n ++ (if n = 1 then " character" else " characters")

namespace Complaint

def code : Complaint → String
  | missing => "missing"
  | notText => "string_type"
  | tooShort _ => "string_too_short"
  | tooLong _ => "string_too_long"
  | notInteger => "int_type"
  | unreadableInteger => "int_parsing"
  | hugeInteger => "int_parsing_size"
  | fraction => "int_from_float"
  | notFinite => "finite_number"
  | notTruth => "bool_type"
  | unreadableTruth => "bool_parsing"
  | notMap => "dict_type"
  | notList => "list_type"
  | notForm _ => "model_type"
  | notRequest => "model_attributes_type"
  | notOneOf _ => "enum"
  | unexpected => "extra_forbidden"
  | notJson => "json_invalid"

def message : Complaint → String
  | missing => "Field required"
  | notText => "Input should be a valid string"
  | tooShort n => "String should have at least " ++ characters n
  | tooLong n => "String should have at most " ++ characters n
  | notInteger => "Input should be a valid integer"
  | unreadableInteger => "Input should be a valid integer, unable to parse string as an integer"
  | hugeInteger => "Unable to parse input string as an integer, exceeded maximum size"
  | fraction => "Input should be a valid integer, got a number with a fractional part"
  | notFinite => "Input should be a finite number"
  | notTruth => "Input should be a valid boolean"
  | unreadableTruth => "Input should be a valid boolean, unable to interpret input"
  | notMap => "Input should be a valid dictionary"
  | notList => "Input should be a valid list"
  | notForm title => "Input should be a valid dictionary or instance of " ++ title
  | notRequest => "Input should be a valid dictionary or object to extract fields from"
  | notOneOf names => "Input should be " ++ namesInRow names
  | unexpected => "Extra inputs are not permitted"
  | notJson => "JSON decode error"

end Complaint

/-- A step on the way to a value. -/
inductive Key where
  | name (s : String)
  | index (n : Nat)
deriving Repr, DecidableEq

structure Issue where
  complaint : Complaint
  place : List Key
  /-- The value that is at fault. -/
  input : Json
deriving Repr

inductive Checked (α : Type) where
  | valid (a : α)
  | invalid (issues : List Issue)
deriving Repr

namespace Checked

variable {α β : Type}

def fault (c : Complaint) (input : Json) : Checked α :=
  invalid [⟨c, [], input⟩]

def under (k : Key) : Checked α → Checked α
  | valid a => valid a
  | invalid is => invalid (is.map fun i => { i with place := k :: i.place })

def map (f : α → β) : Checked α → Checked β
  | valid a => valid (f a)
  | invalid is => invalid is

/-- A function and its argument, or the issues of both. -/
def app : Checked (α → β) → Checked α → Checked β
  | valid f, valid a => valid (f a)
  | valid _, invalid js => invalid js
  | invalid is, valid _ => invalid is
  | invalid is, invalid js => invalid (is ++ js)

instance : Applicative Checked where
  pure := valid
  map := map
  seq f a := app f (a ())

def andThen (c : Checked α) (f : α → Checked β) : Checked β :=
  match c with
  | valid a => f a
  | invalid is => invalid is

def all : List (Checked α) → Checked (List α)
  | [] => valid []
  | c :: cs => List.cons <$> c <*> all cs

end Checked

end AccountRecovery.Form

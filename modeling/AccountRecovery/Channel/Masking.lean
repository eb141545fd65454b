import AccountRecovery.Channel.Basic
import AccountRecovery.Failure
import AccountRecovery.Pattern.Match
/-!
# Masking channel values

A pattern says which characters of a value are hidden.  Every character of a match is replaced, so a
masked value is as long as the value (`length_hideSpans`).
-/

namespace AccountRecovery

structure Masker where
  email : Pattern
  mobile : Pattern
  mark : Char
deriving Repr, DecidableEq

namespace Masker

/-- Keeps the first character of the local part, the first one of the domain and the top-level
domain. -/
def defaultEmailPattern : String :=
  "(?<=.)[^@](?=[^@]*@)|(?<!@)[^@.](?=[^@]*\\.[^@.]+$)"

/-- Keeps the last four characters. -/
def defaultMobilePattern : String :=
  ".(?=.\x7b4\x7d)"

def defaultMark : String := "*"

def make (email mobile mark : String) (characters : Text.CharacterNames := Text.asciiByName) :
    Except Failure Masker :=
  match mark.toList with
  | [c] => do
    let e ← (Pattern.parse characters email).mapError .ofRejection
    let m ← (Pattern.parse characters mobile).mapError .ofRejection
    return ⟨e, m, c⟩
  | _ => .error (.value .maskingCharacter)

/-- Replaces the characters in the spans; `pos` characters stand in front of the given ones. -/
def hideSpans (mark : Char) (pos : Nat) (spans : List Pattern.Span) : List Char → List Char
  | [] => []
  | c :: cs =>
    (if spans.any fun s => s.first ≤ pos && pos < s.last then mark else c) ::
      hideSpans mark (pos + 1) spans cs

@[simp]
theorem length_hideSpans (mark : Char) (pos : Nat) (spans : List Pattern.Span) (cs : List Char) :
    (hideSpans mark pos spans cs).length = cs.length := by
  induction cs generalizing pos with
  | nil => rfl
  | cons c cs ih => simp [hideSpans, ih]

def hide (mark : Char) (p : Pattern) (value : String) : String :=
  let cs := value.toList
  String.ofList (hideSpans mark 0 (p.spans cs.toArray) cs)

def mask (m : Masker) (type : ChannelType) (value : String) : String :=
  match type with
  | .email => hide m.mark m.email value
  | .sms => hide m.mark m.mobile value
  | .external => value

end Masker

structure ChannelInfo where
  id : Nat
  type : ChannelType
  value : String
  preferred : Bool
deriving Repr, DecidableEq

/-- The channels numbered from `first` on, with their values masked. -/
def channelInfos (m : Masker) : (first : Nat) → List Channel → List ChannelInfo
  | _, [] => []
  | n, c :: cs => ⟨n, c.type, m.mask c.type c.value, c.preferred⟩ :: channelInfos m (n + 1) cs

end AccountRecovery

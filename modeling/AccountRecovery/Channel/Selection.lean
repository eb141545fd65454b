import AccountRecovery.Channel.Basic
import AccountRecovery.Log
import AccountRecovery.Text.Split
/-!
# Stored channel selections

A selection is stored as one line: `TYPE:value,` for each channel, in order.  Values are not
escaped.  On reading, a piece between commas starts a new entry only if it begins with a known type
and a colon; any other piece is joined to the value before it, comma included.
-/

namespace AccountRecovery

structure SelectionEntry where
  type : ChannelType
  value : String
deriving Repr, DecidableEq

namespace Selection

def typeSeparator : Char := ':'

/-- What stands behind every channel. -/
def listSeparator : Char := ','

def entryChars (type : ChannelType) (value : List Char) : List Char :=
  type.name.toList ++ typeSeparator :: value ++ [listSeparator]

def serialize (channels : List Channel) : String :=
  String.ofList (channels.flatMap fun c => entryChars c.type c.value.toList)

/-- A piece that begins with a known type and a colon, taken apart. -/
def entryOf? (piece : List Char) : Option (ChannelType × List Char) :=
  match Text.cut? typeSeparator piece with
  | some (name, value) => (ChannelType.ofName? (String.ofList name)).map fun t => (t, value)
  | none => none

/-- The entries of the pieces behind the start of an entry, that entry included. -/
def entriesAfter (type : ChannelType) (value : List Char) :
    List (List Char) → List SelectionEntry
  | [] => [⟨type, String.ofList value⟩]
  | piece :: pieces =>
    match entryOf? piece with
    | some (t, v) => ⟨type, String.ofList value⟩ :: entriesAfter t v pieces
    | none => entriesAfter type (value ++ listSeparator :: piece) pieces

/-- What reading a stored selection yields: its entries and the number of malformed pieces that
were skipped. -/
structure Reading where
  entries : List SelectionEntry
  skipped : Nat
deriving Repr, DecidableEq

/-- Reads pieces from the start.  Pieces in front of the first entry are skipped; those that are
not empty count as malformed. -/
def readPieces : List (List Char) → Reading
  | [] => ⟨[], 0⟩
  | piece :: pieces =>
    match entryOf? piece with
    | some (t, v) => ⟨entriesAfter t v pieces, 0⟩
    | none =>
      let r := readPieces pieces
      if piece.isEmpty then r else { r with skipped := r.skipped + 1 }

/-- The pieces of a stored selection, without the empty one behind the last separator. -/
def piecesOf (s : String) : List (List Char) :=
  let pieces := Text.fields listSeparator s.toList
  if pieces.getLast? = some [] then pieces.dropLast else pieces

def parse (s : String) : Reading :=
  readPieces (piecesOf s)

def Reading.warnings (r : Reading) : List Log.Entry :=
  List.replicate r.skipped ⟨.warning, .channels, "Skipping malformed channel selection segment"⟩

end Selection

end AccountRecovery

/-!
# Names of characters

The names of all characters are too many to be listed here, so those that are known are given by a
table.  Names are found in either case of their letters.
-/

namespace AccountRecovery.Text

abbrev CharacterNames := String → Option Char

def letterNames (kind : String) : List String :=
  "ABCDEFGHIJKLMNOPQRSTUVWXYZ".toList.map fun c => kind ++ String.singleton c

/-- The names of the printable ASCII characters in their order. -/
def asciiNames : List String :=
  ["SPACE", "EXCLAMATION MARK", "QUOTATION MARK", "NUMBER SIGN", "DOLLAR SIGN", "PERCENT SIGN",
      "AMPERSAND", "APOSTROPHE", "LEFT PARENTHESIS", "RIGHT PARENTHESIS", "ASTERISK", "PLUS SIGN",
      "COMMA", "HYPHEN-MINUS", "FULL STOP", "SOLIDUS", "DIGIT ZERO", "DIGIT ONE", "DIGIT TWO",
      "DIGIT THREE", "DIGIT FOUR", "DIGIT FIVE", "DIGIT SIX", "DIGIT SEVEN", "DIGIT EIGHT",
      "DIGIT NINE", "COLON", "SEMICOLON", "LESS-THAN SIGN", "EQUALS SIGN", "GREATER-THAN SIGN",
      "QUESTION MARK", "COMMERCIAL AT"] ++
    letterNames "LATIN CAPITAL LETTER " ++
    ["LEFT SQUARE BRACKET", "REVERSE SOLIDUS", "RIGHT SQUARE BRACKET", "CIRCUMFLEX ACCENT",
      "LOW LINE", "GRAVE ACCENT"] ++
    letterNames "LATIN SMALL LETTER " ++
    ["LEFT CURLY BRACKET", "VERTICAL LINE", "RIGHT CURLY BRACKET", "TILDE"]

def asciiByName : CharacterNames := fun name =>
  (asciiNames.idxOf? (name.map Char.toUpper)).map fun i => Char.ofNat (0x20 + i)

end AccountRecovery.Text

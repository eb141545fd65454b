import AccountRecovery.Text.CaseTable
/-!
# Upper case, lower case and caseless comparison

Upper-casing follows the full Unicode mapping, in which one character may become several.
Lower-casing and the caseless comparison of single characters follow the simple mappings.
-/

namespace AccountRecovery.Text

def upperChar (c : Char) : List Char :=
  let n := c.toNat
  if n < 0x80 then
    [if 0x61 ≤ n ∧ n ≤ 0x7A then Char.ofNat (n - 0x20) else c]
  else
    match upperExpansions.lookup n with
    | some ns => ns.map Char.ofNat
    | none => [((upperRuns.findSome? (·.map? n)).map Char.ofNat).getD c]

def upper (s : String) : String :=
  String.ofList (s.toList.flatMap upperChar)

def lowerChar (c : Char) : Char :=
  let n := c.toNat
  if n < 0x80 then
    if 0x41 ≤ n ∧ n ≤ 0x5A then Char.ofNat (n + 0x20) else c
  else
    ((lowerRuns.findSome? (·.map? n)).map Char.ofNat).getD c

/-- The lower-case form of a character in running text: a capital I with a dot keeps its dot. -/
def lowerForm (c : Char) : List Char :=
  if c.toNat = 0x130 then ['i', Char.ofNat 0x307] else [lowerChar c]

def lower (s : String) : String :=
  String.ofList (s.toList.flatMap lowerForm)

/-- The lower-case characters that share the upper-case form of a lower-case character, itself
included. -/
def lowerClass (c : Char) : List Char :=
  match lowerClasses.find? (·.contains c.toNat) with
  | some ns => ns.map Char.ofNat
  | none => [c]

def caseVariants (c : Char) : List Char :=
  (lowerClass (lowerChar c)).flatMap fun l =>
    let n := l.toNat
    let ascii := if 0x61 ≤ n ∧ n ≤ 0x7A then [Char.ofNat (n - 0x20)] else []
    l :: ascii ++ (lowerRuns.filterMap (·.preimage? n)).map Char.ofNat

end AccountRecovery.Text

import AccountRecovery.Text.Case
import AccountRecovery.Text.Split
/-!
# Accounts

A directory returns raw names, in which the user store may stand in front of a slash, as in
`PARTNERS/alice`.  An account holds the two apart.  The store is in upper case, so all spellings of
a store are one store, and a name without one belongs to the primary store.
-/

namespace AccountRecovery

structure Account where
  username : String
  tenantDomain : String
  storeDomain : String
deriving Repr, DecidableEq

namespace Account

/-- What separates the user store from the name. -/
def separator : Char := '/'

/-- The store of names that do not carry one. -/
def primaryStore : String := "PRIMARY"

/-- The store that a raw name carries and the name within it. -/
def cutStore? (name : String) : Option (List Char × List Char) :=
  match Text.cut? separator name.toList with
  | some ([], _) => none
  | cut => cut

def storeOf (name : String) : String :=
  match cutStore? name with
  | some (store, _) => Text.upper (String.ofList store)
  | none => primaryStore

def nameWithin (name : String) : String :=
  match cutStore? name with
  | some (_, rest) => String.ofList rest
  | none => name

def ofRawName (name tenantDomain : String) : Account :=
  ⟨nameWithin name, tenantDomain, storeOf name⟩

end Account

end AccountRecovery

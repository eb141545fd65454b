import AccountRecovery.Dialogue
/-!
# In-memory directories

Users and their claims by tenant, with the secondary user stores that a tenant has.  Users of a
secondary store are kept under their raw names, as in `PARTNERS/alice`.
-/

namespace AccountRecovery

abbrev TenantUsers := List (String × ClaimValues)

structure Directory where
  users : List (Int × TenantUsers) := []
  /-- Secondary stores by tenant, in upper case. -/
  secondaryStores : List (Int × List String) := []
deriving Repr, DecidableEq

namespace Directory

/-- The directory with the given users and secondary stores, which may be in any case. -/
def ofUsers (users : List (Int × TenantUsers)) (stores : List (Int × List String)) : Directory :=
  ⟨users, stores.map fun p => (p.1, p.2.map Text.upper)⟩

def usersOf (d : Directory) (tenantId : Int) : TenantUsers :=
  (d.users.lookup tenantId).getD []

def hasStore (d : Directory) (tenantId : Int) (name : String) : Bool :=
  ((d.secondaryStores.lookup tenantId).getD []).contains (Text.upper name)

/-- The users who may be meant by a value, and the value that their claim must have.  A value that
starts with a separator is literal and means users of the primary store; one that starts with the
name of a secondary store means users of that store. -/
def searchScope (d : Directory) (tenantId : Int) (value : String) : TenantUsers × String :=
  let users := d.usersOf tenantId
  match Text.cut? Account.separator value.toList with
  | none => (users, value)
  | some ([], rest) =>
    (users.filter fun u => !u.1.toList.contains Account.separator, String.ofList rest)
  | some (store, rest) =>
    if d.hasStore tenantId (String.ofList store) then
      let front := (Text.upper (String.ofList store)).toList ++ [Account.separator]
      (users.filter fun u => front.isPrefixOf (Text.upper u.1).toList, String.ofList rest)
    else
      (users, value)

def findUsers (d : Directory) (tenantId : Int) (key value : String) : List String :=
  let scope := d.searchScope tenantId value
  (scope.1.filter fun u => u.2.lookup key == some (some scope.2)).map (·.1)

def claimsOf (d : Directory) (tenantId : Int) (username : String) : ClaimValues :=
  ((d.usersOf tenantId).lookup username).getD []

/-- The asked claims of a user that are there, each once. -/
def claimValues (d : Directory) (tenantId : Int) (username : String) (keys : List String) :
    ClaimValues :=
  let claims := d.claimsOf tenantId username
  keys.eraseDups.filterMap fun k => (claims.lookup k).map fun v => (k, v)

end Directory

abbrev TenantRegistry := List (String × Int)

/-- The accounts that are not to be recovered. -/
structure AccountStatuses where
  disabled : List Account := []
  locked : List Account := []
deriving Repr, DecidableEq

def TenantRegistry.idOf (r : TenantRegistry) (domain : String) : Except Failure Int :=
  match r.lookup domain with
  | some id => .ok id
  | none =>
    .error (.recovery ⟨.invalidTenant, some domain, RecoveryFault.invalidTenant.code, none⟩)

end AccountRecovery

import AccountRecovery.Directory.Basic
import AccountRecovery.Json.Reader
import AccountRecovery.Text.Integer
/-!
# Directory seeds

A directory may be read from a JSON text: an object with one member for each tenant, whose name is
the id of the tenant and whose value holds its `users` and its `secondary_domains`.
-/

namespace AccountRecovery.Directory

structure TenantSeed where
  id : Int
  users : Json
  stores : Json

/-- Puts a tenant in, in the place of an earlier one with the same id. -/
def putTenant (t : TenantSeed) : List TenantSeed → List TenantSeed
  | [] => [t]
  | u :: us => if u.id = t.id then t :: us else u :: putTenant t us

def readTenants : List TenantSeed → List (String × Json) → Except Failure (List TenantSeed)
  | tenants, [] => .ok tenants
  | tenants, (name, v) :: members =>
    match Text.integer? name with
    | none => .error (.value (.notAnInteger name))
    | some id =>
      match v with
      | .object fields =>
        readTenants
          (putTenant
            ⟨id, (fields.lookup "users").getD (.object []),
              (fields.lookup "secondary_domains").getD (.array [])⟩
            tenants)
          members
      | _ => .error .noSuchPart

/-- A claim with its text, if its value is one. -/
def claimOf (key : String) (v : Json) : String × Option String :=
  (key, v.text?)

/-- Sets a claim: in its place if it is there, and at the end if it is not. -/
def setClaim (claim : String × Option String) : ClaimValues → ClaimValues
  | [] => [claim]
  | c :: cs => if c.1 = claim.1 then claim :: cs else c :: setClaim claim cs

/-- A member of a list of pairs as a claim.  There is none if the key is not a text, since such a
claim is never asked for. -/
def claimOfPair (index : Nat) (v : Json) : Except Failure (Option (String × Option String)) :=
  match v with
  | .array [.text key, value] => .ok (some (claimOf key value))
  | .array [.array _, _] => .error .wrongType
  | .array [.object _, _] => .error .wrongType
  | .array [_, _] => .ok none
  | .array items => .error (.value (.notAPair index items.length))
  | .text s =>
    match s.toList with
    | [k, v] => .ok (some (String.singleton k, some (String.singleton v)))
    | cs => .error (.value (.notAPair index cs.length))
  | .object [(k, _), (l, _)] => .ok (some (k, some l))
  | .object members => .error (.value (.notAPair index members.length))
  | _ => .error .wrongType

def readPairs : (index : Nat) → ClaimValues → List Json → Except Failure ClaimValues
  | _, claims, [] => .ok claims
  | i, claims, v :: vs => do
    match ← claimOfPair i v with
    | some claim => readPairs (i + 1) (setClaim claim claims) vs
    | none => readPairs (i + 1) claims vs

/-- The claims of a user: an object, or a list of pairs. -/
def readClaims (v : Json) : Except Failure ClaimValues :=
  match v with
  | .object members => .ok (members.map fun m => claimOf m.1 m.2)
  | .array items => readPairs 0 [] items
  | .text s => readPairs 0 [] (s.toList.map fun c => .text (String.singleton c))
  | _ => .error .wrongType

def readUsers (v : Json) : Except Failure TenantUsers :=
  match v with
  | .object members => members.mapM fun m => return (m.1, ← readClaims m.2)
  | _ => .error .noSuchPart

def readStores (v : Json) : Except Failure (List String) :=
  match v with
  | .array items =>
    items.mapM fun item =>
      match item with
      | .text s => .ok s
      | _ => .error .noSuchPart
  | .text s => .ok (s.toList.map String.singleton)
  | .object members => .ok (members.map (·.1))
  | _ => .error .wrongType

def ofTenants (tenants : List TenantSeed) : Except Failure Directory := do
  let users ← tenants.mapM fun t => return (t.id, ← readUsers t.users)
  let stores ← tenants.mapM fun t => return (t.id, ← readStores t.stores)
  return ofUsers users stores

/-- Reads a seed and tells of it under the name of its file. -/
def readSeed (path text : String) : Except Failure Directory × List Log.Entry :=
  match Json.parse text with
  | .error _ => (.error .malformedJson, [])
  | .ok (.object members) =>
    match readTenants [] members with
    | .error e => (.error e, [])
    | .ok tenants =>
      (ofTenants tenants,
        [⟨.info, .directory,
          "Loaded in-memory directory with " ++ toString tenants.length ++ " tenant(s) from " ++
            path⟩])
  | .ok _ => (.error .noSuchPart, [])

end AccountRecovery.Directory

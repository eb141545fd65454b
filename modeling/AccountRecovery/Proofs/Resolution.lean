import AccountRecovery.Proofs.Stages
import Mathlib.Data.Set.Subsingleton
/-!
# Resolving claims to a user

With a directory that does not fail, the search for a user comes to the intersection of what its
usable claims match: one common user is the answer, several are too many, and none is nobody.  So
the order of the claims does not matter (`resolve_perm`).
-/

namespace AccountRecovery

theorem nodup_eraseDups {α : Type} [BEq α] [LawfulBEq α] (l : List α) : l.eraseDups.Nodup := by
  induction hlength : l.length using Nat.strong_induction_on generalizing l with
  | _ k ih =>
      cases l with
      | nil => exact List.nodup_nil
      | cons a l =>
          have hshort : (l.filter fun b => !b == a).length < k := by
            rw [← hlength]
            exact Nat.lt_succ_of_le (List.length_filter_le _ _)
          rw [List.eraseDups_cons, List.nodup_cons, List.mem_eraseDups]
          exact ⟨by simp, ih _ hshort _ rfl⟩

open Dialogue Recovery

namespace Recovery

/-- Whether a user is still among the candidates.  In front of the first claim everyone is. -/
def Among (found : Option (List String)) (u : String) : Prop :=
  ∀ us, found = some us → u ∈ us

theorem mem_narrow {found : Option (List String)} {matched : List String} {u : String} :
    u ∈ narrow found matched ↔ Among found u ∧ u ∈ matched := by
  cases found with
  | none => simp [narrow, Among, List.mem_eraseDups]
  | some us => simp [narrow, Among]

theorem narrow_nil (found : Option (List String)) : narrow found [] = [] := by
  cases found with
  | none => rfl
  | some us => simp [narrow]

theorem nodup_narrow {found : Option (List String)} {matched : List String}
    (h : ∀ us, found = some us → us.Nodup) : (narrow found matched).Nodup := by
  cases found with
  | none => exact nodup_eraseDups matched
  | some us => exact (h us rfl).filter _

theorem candidatesFor_cons (id : Int) (found : Option (List String)) {claim : String × String}
    (claims : Claims) (h : isUsable claim = true) :
    ∃ entry narrowed,
      candidatesFor id found (claim :: claims) =
        .note entry ((matchingUsers id claim.1 claim.2).bind narrowed) ∧
      ∀ us, ∃ entry, narrowed us = .note entry
        (if narrow found us = [] then .fail (refused .noUser)
          else candidatesFor id (some (narrow found us)) claims) := by
  rw [candidatesFor, if_pos h]
  refine ⟨_, _, rfl, fun us => ?_⟩
  by_cases hus : us = []
  · -- A claim that matches nobody leaves nobody.
    rw [hus, narrow_nil]
    exact ⟨_, rfl⟩
  · rw [if_neg (by simpa using hus)]
    by_cases hleft : narrow found us = []
    · rw [if_pos hleft]
      simp only [hleft]
      exact ⟨_, rfl⟩
    · rw [if_neg hleft]
      simp only [List.isEmpty_iff, if_neg hleft]
      exact ⟨_, rfl⟩

theorem candidatesFor_skip (id : Int) (found : Option (List String)) {claim : String × String}
    (claims : Claims) (h : isUsable claim = false) :
    candidatesFor id found (claim :: claims) = candidatesFor id found claims := by
  rw [candidatesFor, if_neg (by simp [h])]

/-- What a search comes to if the usable claims, if any, have these users in common. -/
inductive Finding (searchable : Prop) (common : Set String) : Except Failure String → Prop
  | found {u : String} (search : searchable) (one : common = {u}) :
      Finding searchable common (.ok u)
  | ambiguous (search : searchable) (many : common.Nontrivial) :
      Finding searchable common (.error (refused .multipleUsers))
  | nobody (none : common = ∅ ∨ ¬searchable) :
      Finding searchable common (.error (refused .noUser))

namespace Finding

variable {searchable : Prop} {common : Set String} {result result' : Except Failure String}

theorem eq_ok_iff (h : Finding searchable common result) (u : String) :
    result = .ok u ↔ searchable ∧ common = {u} := by
  cases h with
  | found search one => simp [one, search]
  | ambiguous search many =>
      refine ⟨nofun, ?_⟩
      rintro ⟨-, rfl⟩
      exact (Set.not_nontrivial_singleton many).elim
  | nobody none =>
      refine ⟨nofun, ?_⟩
      rintro ⟨search, rfl⟩
      exact (none.elim (Set.singleton_ne_empty u) (· search)).elim

theorem fault_multipleUsers_iff (h : Finding searchable common result) :
    faultOf result = some .multipleUsers ↔ searchable ∧ common.Nontrivial := by
  cases h with
  | found search one => simp [faultOf, one]
  | ambiguous search many => simp [faultOf, refused, search, many]
  | nobody none =>
      refine ⟨fun h => by simp [faultOf, refused] at h, ?_⟩
      rintro ⟨search, many⟩
      exact (none.elim many.nonempty.ne_empty (· search)).elim

theorem fault_noUser_iff (h : Finding searchable common result) :
    faultOf result = some .noUser ↔ common = ∅ ∨ ¬searchable := by
  cases h with
  | found search one => simp [faultOf, one, search]
  | ambiguous search many => simp [faultOf, refused, search, many.nonempty.ne_empty]
  | nobody none => simp [faultOf, refused, none]

theorem fault_ne (h : Finding searchable common result) :
    faultOf result ≠ some .noClaims ∧ faultOf result ≠ some .invalidTenant := by
  cases h <;> simp [faultOf, refused]

theorem unique (h : Finding searchable common result) (h' : Finding searchable common result') :
    result' = result := by
  cases h with
  | found search one => exact (h'.eq_ok_iff _).2 ⟨search, one⟩
  | ambiguous search many =>
      have hfault := h'.fault_multipleUsers_iff.2 ⟨search, many⟩
      cases h' with
      | ambiguous => rfl
      | _ => simp [faultOf, refused] at hfault
  | nobody none =>
      have hfault := h'.fault_noUser_iff.2 none
      cases h' with
      | nobody => rfl
      | _ => simp [faultOf, refused] at hfault

end Finding

def Searchable (claims : Claims) : Prop :=
  ∃ claim ∈ claims, isUsable claim = true

theorem searchable_cons {claim : String × String} {claims : Claims} :
    Searchable (claim :: claims) ↔ isUsable claim = true ∨ Searchable claims := by
  simp [Searchable]

def pick : Except Failure (Option (List String)) → Except Failure String
  | .ok (some [user]) => .ok user
  | .ok (some (_ :: _ :: _)) => .error (refused .multipleUsers)
  | .ok _ => .error (refused .noUser)
  | .error e => .error e

theorem run_resolveUser {σ : Type} {answer : Handler σ} (codes : CodeSource) (st : σ) (n : Nat)
    {claims : Claims} {tenantDomain : String} {tenantId : Int} (hclaims : claims ≠ [])
    (htenant : (answer (.tenantId tenantDomain) st).1 = .ok tenantId) :
    let search := candidatesFor tenantId none claims
    let st' := (answer (.tenantId tenantDomain) st).2
    (resolveUser claims tenantDomain).exchanges answer codes st n =
        ⟨.tenantId tenantDomain, .ok tenantId⟩ :: search.exchanges answer codes st' n ∧
      ((resolveUser claims tenantDomain).run answer codes st n).result =
        pick (search.run answer codes st' n).result := by
  intro search st'
  rw [resolveUser, if_neg (by simpa using hclaims)]
  simp only [bind_eq, call, Dialogue.bind, run, exchanges, htenant, Dialogue.ofExcept]
  constructor
  · rw [exchanges_bind_of_silent]
    rintro (_ | (_ | ⟨u, (_ | ⟨v, us⟩)⟩)) <;> trivial
  · rw [run_bind, Outcome.andThen]
    rcases (search.run answer codes st' n).result with e | (_ | (_ | ⟨u, (_ | ⟨v, us⟩)⟩)) <;> rfl

end Recovery

/-- A tenant registry and a directory whose lookups do not fail.  Users are listed in any order, and
as often as it pleases the directory. -/
structure Lookups where
  tenants : TenantRegistry
  users : (tenantId : Int) → (key value : String) → List String
  hasStore : (tenantId : Int) → (domain : String) → Bool

namespace Lookups

variable {σ : Type} (l : Lookups)

def answer (behind : Handler σ) : Handler σ
  | .tenantId domain, st => (l.tenants.idOf domain, st)
  | .findUsers tenantId key value, st => (.ok (l.users tenantId key value), st)
  | .secondaryStoreExists tenantId domain, st => (.ok (l.hasStore tenantId domain), st)
  | q, st => behind q st

/-- The value that the directory is asked for: a value with a separator that names no secondary
store gets a separator in front. -/
def sought (tenantId : Int) (value : String) : String :=
  if value.toList.contains Account.separator then
    if l.hasStore tenantId (Account.storeOf value) then value
    else String.ofList (Account.separator :: value.toList)
  else
    value

def matched (tenantId : Int) (claim : String × String) : List String :=
  l.users tenantId claim.1 (l.sought tenantId claim.2)

def common (tenantId : Int) (claims : Claims) : Set String :=
  {u | ∀ claim ∈ claims, isUsable claim = true → u ∈ l.matched tenantId claim}

theorem mem_common_cons {tenantId : Int} {claim : String × String} {claims : Claims} {u : String} :
    u ∈ l.common tenantId (claim :: claims) ↔
      (isUsable claim = true → u ∈ l.matched tenantId claim) ∧ u ∈ l.common tenantId claims := by
  simp [common]

/-- Who is left after a claim and matches all later ones is who matches them all. -/
theorem among_narrow_iff {claim : String × String} (h : isUsable claim = true) (tenantId : Int)
    (found : Option (List String)) (claims : Claims) (u : String) :
    Among (some (narrow found (l.matched tenantId claim))) u ∧ u ∈ l.common tenantId claims ↔
      Among found u ∧ u ∈ l.common tenantId (claim :: claims) := by
  rw [l.mem_common_cons, ← and_assoc]
  simp [Among, mem_narrow, h]

variable (behind : Handler σ) (codes : CodeSource) (st : σ) (n : Nat)

theorem run_matchingUsers (tenantId : Int) (key value : String) :
    let o := (matchingUsers tenantId key value).run (l.answer behind) codes st n
    o.result = .ok (l.matched tenantId (key, value)) ∧ o.state = st ∧ o.drawn = n := by
  unfold matchingUsers lookupValue matched sought
  split <;> exact ⟨rfl, rfl, rfl⟩

def candidates (tenantId : Int) (found : Option (List String)) (claims : Claims) :
    Except Failure (Option (List String)) :=
  ((candidatesFor tenantId found claims).run (l.answer behind) codes st n).result

theorem candidates_cons {tenantId : Int} {found : Option (List String)}
    {claim : String × String} {claims : Claims} (h : isUsable claim = true) :
    l.candidates behind codes st n tenantId found (claim :: claims) =
      if (narrow found (l.matched tenantId claim)).isEmpty then .error (refused .noUser)
      else l.candidates behind codes st n tenantId
        (some (narrow found (l.matched tenantId claim))) claims := by
  obtain ⟨hresult, hstate, hdrawn⟩ :=
    l.run_matchingUsers behind codes st n tenantId claim.1 claim.2
  obtain ⟨entry, narrowed, heq, hnarrowed⟩ := candidatesFor_cons tenantId found claims h
  obtain ⟨entry, hnext⟩ := hnarrowed (l.matched tenantId claim)
  unfold candidates
  rw [heq, run, run_bind, Outcome.andThen, hresult]
  simp only [hstate, hdrawn, hnext, run]
  by_cases hleft : narrow found (l.matched tenantId claim) = []
  · rw [if_pos hleft, if_pos (List.isEmpty_iff.2 hleft)]
    rfl
  · rw [if_neg hleft, if_neg (by simpa using hleft)]

theorem candidates_cons_unusable {tenantId : Int} {found : Option (List String)}
    {claim : String × String} {claims : Claims} (h : isUsable claim = false) :
    l.candidates behind codes st n tenantId found (claim :: claims) =
      l.candidates behind codes st n tenantId found claims := by
  unfold candidates
  rw [candidatesFor_skip tenantId found claims h]

/-- The search keeps the candidates who match every claim so far, and ends when none are left. -/
theorem candidates_cases (tenantId : Int) (found : Option (List String)) (claims : Claims)
    (hfound : ∀ us, found = some us → us.Nodup ∧ us ≠ []) :
    (found = none ∧ ¬Searchable claims ∧
        l.candidates behind codes st n tenantId found claims = .ok none) ∨
      (∃ us, (found ≠ none ∨ Searchable claims) ∧
        l.candidates behind codes st n tenantId found claims = .ok (some us) ∧
          us.Nodup ∧ us ≠ [] ∧ ∀ u, u ∈ us ↔ Among found u ∧ u ∈ l.common tenantId claims) ∨
      (Searchable claims ∧
        l.candidates behind codes st n tenantId found claims = .error (refused .noUser) ∧
          ∀ u, ¬(Among found u ∧ u ∈ l.common tenantId claims)) := by
  induction claims generalizing found with
  | nil =>
      cases found with
      | none => exact .inl ⟨rfl, by simp [Searchable], rfl⟩
      | some us =>
          obtain ⟨hnodup, hne⟩ := hfound us rfl
          exact .inr (.inl ⟨us, .inl (by simp), rfl, hnodup, hne, by simp [Among, common]⟩)
  | cons claim claims ih =>
      cases husable : isUsable claim with
      | false =>
          simp only [l.candidates_cons_unusable behind codes st n husable, searchable_cons,
            l.mem_common_cons, husable]
          simpa using ih found hfound
      | true =>
          have hsearch : Searchable (claim :: claims) := searchable_cons.2 (.inl husable)
          have hleft := l.among_narrow_iff husable tenantId found claims
          rw [l.candidates_cons behind codes st n husable]
          split
          · next hnarrow =>
              rw [List.isEmpty_iff] at hnarrow
              refine .inr (.inr ⟨hsearch, rfl, fun u hu => ?_⟩)
              have hu := ((hleft u).2 hu).1 _ rfl
              rw [hnarrow] at hu
              exact List.not_mem_nil hu
          · next hnarrow =>
              rw [List.isEmpty_iff] at hnarrow
              have hnext : ∀ us, some (narrow found (l.matched tenantId claim)) = some us →
                  us.Nodup ∧ us ≠ [] := by
                rintro us ⟨⟩
                exact ⟨nodup_narrow fun us hus => (hfound us hus).1, hnarrow⟩
              rcases ih _ hnext with
                ⟨h, -⟩ | ⟨us, -, hresult, hnodup, hne, hmem⟩ | ⟨-, hresult, hnone⟩
              · cases h
              · exact .inr (.inl ⟨us, .inr hsearch, hresult, hnodup, hne,
                  fun u => (hmem u).trans (hleft u)⟩)
              · exact .inr (.inr ⟨hsearch, hresult, fun u hu => hnone u ((hleft u).2 hu)⟩)

def resolve (claims : Claims) (tenantDomain : String) : Except Failure String :=
  ((resolveUser claims tenantDomain).run (l.answer behind) codes st n).result

theorem resolve_unknown {claims : Claims} {tenantDomain : String} (hclaims : claims ≠ [])
    (htenant : l.tenants.lookup tenantDomain = none) :
    l.resolve behind codes st n claims tenantDomain =
      .error (.recovery
        ⟨.invalidTenant, some tenantDomain, RecoveryFault.invalidTenant.code, none⟩) := by
  unfold resolve
  rw [resolveUser, if_neg (by simpa using hclaims)]
  simp only [bind_eq, call, Dialogue.bind, run, answer, TenantRegistry.idOf, htenant]
  rfl

theorem resolve_known {claims : Claims} {tenantDomain : String} {tenantId : Int}
    (hclaims : claims ≠ []) (htenant : l.tenants.lookup tenantDomain = some tenantId) :
    l.resolve behind codes st n claims tenantDomain =
      pick (l.candidates behind codes st n tenantId none claims) := by
  refine (run_resolveUser codes st n hclaims ?_).2
  simp only [answer, TenantRegistry.idOf, htenant]

/-- A search in a tenant goes by what the usable claims have in common. -/
theorem finding_resolve {claims : Claims} {tenantDomain : String} {tenantId : Int}
    (hclaims : claims ≠ []) (htenant : l.tenants.lookup tenantDomain = some tenantId) :
    Finding (Searchable claims) (l.common tenantId claims)
      (l.resolve behind codes st n claims tenantDomain) := by
  rw [l.resolve_known behind codes st n hclaims htenant]
  rcases l.candidates_cases behind codes st n tenantId none claims (by simp) with
    ⟨-, hsearch, hresult⟩ | ⟨us, hsearch, hresult, hnodup, hne, hmem⟩ | ⟨hsearch, hresult, hnone⟩
  · rw [hresult]
    exact .nobody (.inr hsearch)
  · have hsearch : Searchable claims := hsearch.resolve_left (by simp)
    have hcommon (u : String) : u ∈ l.common tenantId claims ↔ u ∈ us := by
      simp [hmem, Among]
    rw [hresult]
    match us, hne with
    | [u], _ =>
        refine .found hsearch ?_
        ext v
        simp [hcommon]
    | u :: v :: us, _ =>
        refine .ambiguous hsearch ⟨u, ?_, v, ?_, ?_⟩
        · simp [hcommon]
        · simp [hcommon]
        · rintro rfl
          simp at hnodup
  · rw [hresult]
    refine .nobody (.inl ?_)
    ext u
    simpa [Among] using hnone u

theorem resolve_perm {claims claims' : Claims} (h : claims.Perm claims') (tenantDomain : String) :
    l.resolve behind codes st n claims' tenantDomain =
      l.resolve behind codes st n claims tenantDomain := by
  by_cases hclaims : claims = []
  · rw [hclaims, List.nil_perm] at h
    rw [h, hclaims]
  have hclaims' : claims' ≠ [] := fun hnil => hclaims (hnil ▸ h).eq_nil
  cases htenant : l.tenants.lookup tenantDomain with
  | none =>
      rw [l.resolve_unknown behind codes st n hclaims htenant,
        l.resolve_unknown behind codes st n hclaims' htenant]
  | some tenantId =>
      have hcommon : l.common tenantId claims' = l.common tenantId claims := by
        simp [common, h.mem_iff]
      have hsearch : Searchable claims' = Searchable claims := by
        simp [Searchable, h.mem_iff]
      have hfinding' := l.finding_resolve behind codes st n hclaims' htenant
      rw [hcommon, hsearch] at hfinding'
      exact (l.finding_resolve behind codes st n hclaims htenant).unique hfinding'

/-- The search fails without claims, else in an unknown tenant.  Else it is decided by the users
whom all usable claims have in common, and by whether there is such a claim: the only one is found,
several are too many, and in all other cases there is nobody.  The order of the claims does not
matter. -/
theorem resolve_intersection (claims : Claims) (tenantDomain : String) :
    (faultOf (l.resolve behind codes st n claims tenantDomain) = some .noClaims ↔ claims = []) ∧
      (claims ≠ [] →
        (faultOf (l.resolve behind codes st n claims tenantDomain) = some .invalidTenant ↔
          l.tenants.lookup tenantDomain = none)) ∧
      (∀ tenantId, claims ≠ [] → l.tenants.lookup tenantDomain = some tenantId →
        (∀ u, l.resolve behind codes st n claims tenantDomain = .ok u ↔
          Searchable claims ∧ l.common tenantId claims = {u}) ∧
        (faultOf (l.resolve behind codes st n claims tenantDomain) = some .multipleUsers ↔
          Searchable claims ∧ (l.common tenantId claims).Nontrivial) ∧
        (faultOf (l.resolve behind codes st n claims tenantDomain) = some .noUser ↔
          l.common tenantId claims = ∅ ∨ ¬Searchable claims)) ∧
      ∀ claims', claims.Perm claims' →
        l.resolve behind codes st n claims' tenantDomain =
          l.resolve behind codes st n claims tenantDomain := by
  refine ⟨⟨fun hfault => ?_, ?_⟩, fun hclaims => ⟨fun hfault => ?_, fun htenant => ?_⟩, ?_,
    fun claims' h => l.resolve_perm behind codes st n h tenantDomain⟩
  · by_contra hclaims
    cases htenant : l.tenants.lookup tenantDomain with
    | none => simp [l.resolve_unknown behind codes st n hclaims htenant, faultOf] at hfault
    | some tenantId =>
        exact (l.finding_resolve behind codes st n hclaims htenant).fault_ne.1 hfault
  · rintro rfl
    rfl
  · cases htenant : l.tenants.lookup tenantDomain with
    | none => rfl
    | some tenantId =>
        exact ((l.finding_resolve behind codes st n hclaims htenant).fault_ne.2 hfault).elim
  · rw [l.resolve_unknown behind codes st n hclaims htenant]
    rfl
  · intro tenantId hclaims htenant
    have hfinding := l.finding_resolve behind codes st n hclaims htenant
    exact ⟨hfinding.eq_ok_iff, hfinding.fault_multipleUsers_iff, hfinding.fault_noUser_iff⟩

/-- A directory of one tenant, which lists a user twice and has no secondary stores. -/
def shared : Lookups where
  tenants := [("t", 7)]
  users _ key value :=
    if key = "name" then ["ann", "bob", "ann"]
    else if key = "born" ∧ value = "/1990/01" then ["ann", "carl"]
    else []
  hasStore _ _ := false

/-- Two claims that one user matches; between them is one without a key. -/
def sharedClaims : Claims := [("name", "A"), ("", "x"), ("born", "1990/01")]

theorem common_shared : shared.common 7 sharedClaims = {"ann"} := by
  have hname : shared.matched 7 ("name", "A") = ["ann", "bob", "ann"] := by decide +kernel
  have hborn : shared.matched 7 ("born", "1990/01") = ["ann", "carl"] := by decide +kernel
  ext u
  rw [sharedClaims, mem_common_cons, mem_common_cons, mem_common_cons, hname, hborn]
  constructor
  · rintro ⟨hann, -, hcarl, -⟩
    have hann := hann (by decide +kernel)
    have hcarl := hcarl (by decide +kernel)
    simp only [List.mem_cons, List.not_mem_nil, or_false] at hann hcarl
    rcases hann with rfl | rfl | rfl
    · rfl
    · simp at hcarl
    · rfl
  · rintro rfl
    have hunusable : isUsable ("", "x") = false := by decide +kernel
    exact ⟨fun _ => by simp, by simp [hunusable], fun _ => by simp, by simp [common]⟩

theorem resolve_intersection_shared :
    sharedClaims ≠ [] ∧ shared.tenants.lookup "t" = some 7 ∧
      shared.resolve (fun _ st => (.error .wrongType, st)) (fun _ => "") () 0 sharedClaims "t" =
        .ok "ann" := by
  have hclaims : sharedClaims ≠ [] := by decide
  have htenant : shared.tenants.lookup "t" = some 7 := by decide +kernel
  have hsearch : Searchable sharedClaims :=
    ⟨("name", "A"), by simp [sharedClaims], by decide +kernel⟩
  have h := (shared.resolve_intersection (fun _ st => (.error .wrongType, st)) (fun _ => "") () 0
    sharedClaims "t").2.2.1 7 hclaims htenant
  exact ⟨hclaims, htenant, (h.1 "ann").2 ⟨hsearch, common_shared⟩⟩

end Lookups

end AccountRecovery

import AccountRecovery.Proofs.Consulting
import AccountRecovery.Proofs.LifeCycle
/-!
# What the log tells

The log names the keys of claims, numbers of users and channels, and what becomes of a request.  All
of this is collected in the outline of a recovery, and the log is worked out from the outline
(`entries_resolve`).  For a validation it is worked out from the steps (`entries_validate`).

Main statement: recoveries with one outline are logged alike, whatever the users, the values of
their claims and the codes are, and so are validations (`logs_alike`).
-/

namespace AccountRecovery

open Dialogue Recovery

namespace Recovery

/-! ## The log of a search -/

/-- What is told of a claim: its key, and whether its value is empty. -/
def claimOutline (claim : String × String) : String × Bool :=
  (claim.1, claim.2.isEmpty)

structure Tally where
  matched : Nat
  left : Nat
deriving Repr, DecidableEq

/-- How the search by claims is logged.  There is a tally for each claim that is looked up. -/
def searchLog : List (String × Bool) → List Tally → List Log.Entry
  | [], _ => []
  | _, [] => []
  | (key, blank) :: claims, tally :: tallies =>
    if key.isEmpty || blank then searchLog claims (tally :: tallies)
    else
      ⟨.debug, .claims, "Searching users by claim: " ++ key⟩ ::
        if tally.matched = 0 then
          [⟨.debug, .claims, "No users matched for claim: " ++ key⟩]
        else if tally.left = 0 then
          [⟨.debug, .claims,
            "No common users for claim: " ++ key ++ " with the previously filtered users"⟩]
        else
          ⟨.debug, .claims,
            toString tally.left ++ " candidate(s) remaining after claim: " ++ key⟩ ::
            searchLog claims tallies

def lastLeft (before : Nat) (tallies : List Tally) : Nat :=
  (tallies.getLast?.map Tally.left).getD before

def ambiguityLog (fault : Option RecoveryFault) (tallies : List Tally) : List Log.Entry :=
  if fault = some .multipleUsers then
    [⟨.debug, .claims,
      "Multiple users matched for the given claims: " ++ toString (lastLeft 0 tallies)⟩]
  else []

theorem isUsable_eq (key value : String) :
    isUsable (key, value) = !(key.isEmpty || value.isEmpty) :=
  (Bool.not_or _ _).symm

theorem searchLog_nil (claims : List (String × Bool)) : searchLog claims [] = [] := by
  cases claims <;> rfl

end Recovery

namespace Lookups

variable {σ : Type} (l : Lookups) (behind : Handler σ) (codes : CodeSource) (st : σ) (n : Nat)

def tallies (tenantId : Int) : Option (List String) → Claims → List Tally
  | _, [] => []
  | found, claim :: claims =>
    if isUsable claim then
      let matched := l.matched tenantId claim
      let left := narrow found matched
      ⟨matched.eraseDups.length, left.length⟩ ::
        if left.isEmpty then [] else tallies tenantId (some left) claims
    else tallies tenantId found claims

theorem entries_matchingUsers (tenantId : Int) (key value : String) :
    ((matchingUsers tenantId key value).run (l.answer behind) codes st n).entries = [] := by
  unfold matchingUsers lookupValue
  split <;> rfl

theorem length_eraseDups_eq_zero_iff {us : List String} :
    us.eraseDups.length = 0 ↔ us.isEmpty = true := by
  rw [List.length_eq_zero_iff, List.isEmpty_iff, List.eq_nil_iff_forall_not_mem,
    List.eq_nil_iff_forall_not_mem]
  simp only [List.mem_eraseDups]

theorem entries_candidatesFor (tenantId : Int) (found : Option (List String)) (claims : Claims) :
    ((candidatesFor tenantId found claims).run (l.answer behind) codes st n).entries =
      searchLog (claims.map claimOutline) (l.tallies tenantId found claims) := by
  induction claims generalizing found with
  | nil => rfl
  | cons claim claims ih =>
      obtain ⟨key, value⟩ := claim
      rw [candidatesFor, tallies, isUsable_eq, List.map_cons, claimOutline]
      cases hblank : key.isEmpty || value.isEmpty with
      | true =>
          rw [if_neg (by simp), if_neg (by simp), ih]
          cases l.tallies tenantId found claims with
          | nil => rw [searchLog_nil, searchLog_nil]
          | cons tally tallies => rw [searchLog, if_pos hblank]
      | false =>
          obtain ⟨hresult, hstate, hdrawn⟩ :=
            l.run_matchingUsers behind codes st n tenantId key value
          have hleft : (narrow found (l.matched tenantId (key, value))).length = 0 ↔
              (narrow found (l.matched tenantId (key, value))).isEmpty = true := by
            rw [List.length_eq_zero_iff, List.isEmpty_iff]
          rw [if_pos (by rfl), if_pos (by rfl), searchLog, if_neg (by simp [hblank])]
          simp only [bind_eq, log, Dialogue.bind, run]
          rw [run_bind, Outcome.andThen, hresult]
          simp only [hstate, hdrawn, l.entries_matchingUsers, List.nil_append,
            length_eraseDups_eq_zero_iff, hleft]
          refine congrArg _ ?_
          split
          · rfl
          · split
            · rfl
            · exact congrArg _ (ih _)

/-- As many candidates are left in the end as the last tally tells. -/
theorem length_of_candidates {tenantId : Int} {found : Option (List String)} {claims : Claims}
    {us : List String} (h : l.candidates behind codes st n tenantId found claims = .ok (some us)) :
    us.length = lastLeft (found.elim 0 List.length) (l.tallies tenantId found claims) := by
  induction claims generalizing found with
  | nil =>
      have hfound : found = some us := Except.ok.inj h
      rw [hfound]
      rfl
  | cons claim claims ih =>
      cases husable : isUsable claim with
      | false =>
          rw [l.candidates_cons_unusable behind codes st n husable] at h
          rw [tallies, if_neg (by simp [husable])]
          exact ih h
      | true =>
          rw [l.candidates_cons behind codes st n husable] at h
          rw [tallies, if_pos husable]
          split at h
          · cases h
          · next hleft =>
              simp only [hleft, Bool.false_eq_true, if_false]
              rw [ih h, lastLeft, lastLeft, List.getLast?_cons]
              cases (l.tallies tenantId _ claims).getLast? <;> rfl

end Lookups

/-! ## The log of a recovery -/

namespace Registry

variable (r : Registry)

def tallies (claims : Claims) (tenantDomain : String) : List Tally :=
  (r.tenants.lookup tenantDomain).elim [] fun id => r.lookups.tallies id none claims

theorem chronicle_resolveUser (claims : Claims) (tenantDomain : String) :
    r.chronicle (resolveUser claims tenantDomain) =
      searchLog (claims.map claimOutline) (r.tallies claims tenantDomain) ++
        ambiguityLog (faultOf (r.consult (resolveUser claims tenantDomain)))
          (r.tallies claims tenantDomain) := by
  by_cases hclaims : claims = []
  · rw [hclaims]
    rfl
  unfold chronicle consult
  rw [resolveUser, if_neg (by simpa using hclaims), tallies]
  simp only [bind_eq, call, Dialogue.bind, run, answer, TenantRegistry.idOf]
  cases r.tenants.lookup tenantDomain with
  | none =>
      rw [Option.elim_none, searchLog_nil]
      rfl
  | some id =>
      have hentries := r.lookups.entries_candidatesFor (r.answer .empty) (fun _ => "") () 0 id none
        claims
      have hcases := r.lookups.candidates_cases (r.answer .empty) (fun _ => "") () 0 id none claims
        (by simp)
      have hlength (us : List String) (h : r.lookups.candidates (r.answer .empty) (fun _ => "") () 0
          id none claims = .ok (some us)) :
          us.length = lastLeft 0 (r.lookups.tallies id none claims) :=
        r.lookups.length_of_candidates _ _ _ _ h
      simp only [Lookups.candidates, r.answer_lookups] at hentries hcases hlength
      simp only [Dialogue.ofExcept, Dialogue.bind, Option.elim_some]
      rw [run_bind, Outcome.andThen]
      rcases hcases with ⟨-, -, hresult⟩ | ⟨us, -, hresult, -⟩ | ⟨-, hresult, -⟩
      · simp only [hresult, hentries]
        rfl
      · have hleft := hlength us hresult
        simp only [hresult, hentries]
        rcases us with _ | ⟨u, _ | ⟨v, us⟩⟩
        · rfl
        · rfl
        · rw [ambiguityLog, ← hleft]
          rfl
      · simp only [hresult, hentries]
        exact (List.append_nil _).symm

end Registry

/-- What may be told of a recovery. -/
structure Outline where
  scenario : Scenario
  /-- Whether notifications are sent by the service. -/
  managed : Bool
  claims : List (String × Bool)
  tallies : List Tally
  selfRegistered : Bool
  /-- The number of eligible channels. -/
  eligible : Nat
  succeeded : Bool
  fault : Option RecoveryFault
deriving Repr, DecidableEq

namespace Outline

def isAssessed (o : Outline) : Bool :=
  o.managed && (o.succeeded || o.fault = some .noVerifiedChannels)

def log (o : Outline) : List Log.Entry :=
  searchLog o.claims o.tallies ++ ambiguityLog o.fault o.tallies ++
    (if o.isAssessed then [Registry.assessmentEntry o.selfRegistered o.eligible] else []) ++
    if o.succeeded then
      [⟨.info, .recovery, "Recovery code issued for scenario " ++ o.scenario.name ++ " with " ++
        toString (if o.managed then o.eligible else 1) ++ " channel(s)"⟩]
    else []

end Outline

namespace Installation

variable (i : Installation) (now : Instant) (st : State)

def outline (q : RecoveryRequest) : Outline where
  scenario := q.scenario
  managed := i.service.manages q
  claims := q.claims.map claimOutline
  tallies := i.registry.tallies q.claims q.tenantDomain
  selfRegistered := (i.registry.assessed? i.service q).elim false Prod.fst
  eligible := (i.registry.assessed? i.service q).elim 0 (·.2.length)
  succeeded := (i.resolve now st q).result.isOk
  fault := faultOf (i.resolve now st q).result

theorem entries_approval (q : RecoveryRequest) :
    (i.approval now st q).entries =
      i.registry.chronicle (resolveUser q.claims q.tenantDomain) ++
        (i.registry.assessed? i.service q).elim [] fun assessed =>
          [Registry.assessmentEntry assessed.1 assessed.2.length] := by
  rw [approval, i.registry.entries_of_confined (i.service.confined_approve q),
    (i.registry.consult_approve i.service q).2, Registry.assessed?]
  refine congrArg _ ?_
  cases i.registry.consult (resolveUser q.claims q.tenantDomain) with
  | error e => rfl
  | ok username =>
      simp only [Except.toOption, Option.elim_some, Option.bind_some]
      cases i.registry.consult (clear (.ofRawName username q.tenantDomain)) with
      | error e => rfl
      | ok cleared =>
          simp only [Option.elim_some, Option.bind_some,
            (i.registry.consult_offer i.service q username).2]
          cases i.service.manages q <;> rfl

theorem entries_resolve (q : RecoveryRequest) :
    (i.resolve now st q).entries = (i.outline now st q).log := by
  have hsearch := i.registry.chronicle_resolveUser q.claims q.tenantDomain
  have hcourse := i.registry.course i.service q
  unfold outline Outline.log Outline.isAssessed
  rw [resolve_eq, entries_approval, hsearch]
  generalize i.registry.consult (i.service.approve q) = approved at hcourse
  cases hcourse with
  | unfound find refuses unassessed =>
      obtain ⟨fault, hfault, detail, rfl⟩ := refuses
      have hverified : fault ≠ .noVerifiedChannels := by
        rintro rfl
        simp at hfault
      rw [find, unassessed]
      simp [faultOf, Registry.refusal, Except.isOk, Except.toBool, hverified]
  | @barred username e find refuses unassessed =>
      have hfault : faultOf (α := RecoveryInfo) (.error e) ≠ some .multipleUsers ∧
          faultOf (α := RecoveryInfo) (.error e) ≠ some .noVerifiedChannels := by
        rcases refuses with refuses | rfl
        · exact ⟨refuses.faultOf_ne (by decide), refuses.faultOf_ne (by decide)⟩
        · exact ⟨by simp [faultOf], by simp [faultOf]⟩
      have hfound : faultOf (.ok username) = none := rfl
      rw [find, unassessed]
      simp [hfound, ambiguityLog, Except.isOk, Except.toBool, hfault]
  | unreachable managed find assessed =>
      rw [find, managed, assessed]
      simp [faultOf, Registry.refusal, ambiguityLog, Except.isOk, Except.toBool]
  | offered managed find assessed =>
      rw [find, managed, assessed]
      simp [faultOf, ambiguityLog, Except.isOk, Except.toBool]
  | external unmanaged find unassessed =>
      rw [find, unmanaged, unassessed]
      simp [faultOf, ambiguityLog, Except.isOk, Except.toBool]

/-! ## The log of a validation -/

/-- The step of the record that stands for a code, if that is not too old. -/
def State.stepOf? (code : String) : Option Step :=
  ((st.store.records.lookup code).filter fun r => !st.store.isExpired now r).map Record.step

/-- A validation is logged if the code stands for a record at another step. -/
theorem entries_validate (code : String) (expected : Step) :
    (i.validate now st code expected).entries =
      ((st.stepOf? now code).filter (· ≠ expected)).elim [] fun stored =>
        [⟨.debug, .recovery, "Recovery step mismatch: expected " ++ expected.name ++
          ", stored " ++ stored.name⟩] := by
  unfold validate Service.validateCode Recovery.validate loadRecord State.stepOf?
  simp only [bind_eq, call, rescue, Dialogue.bind, run, Registry.answer, MemoryStore.recordStore,
    MemoryStore.load]
  cases st.store.records.lookup code with
  | none => rfl
  | some record =>
      cases hexpired : st.store.isExpired now record with
      | true =>
          simp only [Option.filter_some, hexpired]
          rfl
      | false =>
          simp only [Option.filter_some, hexpired]
          by_cases hstep : record.step = expected
          · simp [Dialogue.ofExcept, rescue, Dialogue.bind, run, Option.filter_some, hstep]
          · simp [Dialogue.ofExcept, rescue, Dialogue.bind, run, Option.filter_some, hstep, log,
              refuse]

/-- The log tells no values of claims, no users and no codes.  Recoveries with one outline are
logged alike, in whatever installations and states.  So are validations at a step for codes that
both stand for a record at one step, or both for none. -/
theorem logs_alike (i i' : Installation) (now now' : Instant) (st st' : State) :
    (∀ q q', i'.outline now' st' q' = i.outline now st q →
        (i'.resolve now' st' q').entries = (i.resolve now st q).entries) ∧
      ∀ code code' expected, st'.stepOf? now' code' = st.stepOf? now code →
        (i'.validate now' st' code' expected).entries =
          (i.validate now st code expected).entries := by
  constructor
  · intro q q' houtline
    rw [entries_resolve, entries_resolve, houtline]
  · intro code code' expected hstep
    rw [entries_validate, entries_validate, hstep]

/-- Two users of different names are found by different mail addresses.  Their codes differ too, and
are both tried at a later step. -/
theorem logs_alike_oneUser :
    let bobs : Installation := { oneUser with
      registry := ⟨⟨[(4, [("zoe", []), ("bob", [("mail", some "b@c.d")])])], []⟩, [("u", 4)], {}⟩
      codes := fun _ => "third" }
    let bobsRequest : RecoveryRequest := ⟨[("mail", "b@c.d")], "u", .username, []⟩
    let st : State := ⟨⟨3, []⟩, 0⟩
    let bob := bobs.resolve 8 st bobsRequest
    let ann := oneUser.resolve 9 st (oneUserRequest .username)
    bobs.outline 8 st bobsRequest = oneUser.outline 9 st (oneUserRequest .username) ∧
      bob.entries = ann.entries ∧
      bob.after.stepOf? 8 "third" = ann.after.stepOf? 9 "first" ∧
      (bobs.validate 8 bob.after "third" .updatePassword).entries =
        (oneUser.validate 9 ann.after "first" .updatePassword).entries := by
  intro bobs bobsRequest st bob ann
  have houtline :
      bobs.outline 8 st bobsRequest = oneUser.outline 9 st (oneUserRequest .username) := by
    decide +kernel
  have hstep : bob.after.stepOf? 8 "third" = ann.after.stepOf? 9 "first" := by
    decide +kernel
  exact ⟨houtline, (logs_alike oneUser bobs 9 8 st st).1 _ _ houtline, hstep,
    (logs_alike oneUser bobs 9 8 ann.after bob.after).2 _ _ _ hstep⟩

end Installation

end AccountRecovery

import AccountRecovery.Proofs.Clearance
import AccountRecovery.Proofs.Reports
/-!
# Attribution of failures

A failed search for users is told with the key of its claim.  Which claim that is can be seen from
the exchanges: the usable claims are searched for in order, and each search that does not fail lists
users once (`countP_search`).  So the claim is the one after as many as there are lists of users
(`AsksFor`).  With this, a failure of a collaborator can be told from the answer of the service and
the other way round (`Service.failures_reported`).
-/

namespace AccountRecovery

open Dialogue Recovery

/-! ## The claim that could not be looked up -/

namespace Recovery

def listsUsers : Exchange → Bool
  | ⟨.findUsers .., .ok _⟩ => true
  | _ => false

def searchesFor (id : Int) (key value : String) (q : Call) : Prop :=
  q = .secondaryStoreExists id (Account.storeOf value) ∨ ∃ sought, q = .findUsers id key sought

/-- The question is about the usable claim with this key that comes after those of which the
directory has listed the users. -/
def AsksFor (claims : Claims) (trace : List Exchange) (q : Call) (key : String) : Prop :=
  ∃ before value after id, claims = before ++ (key, value) :: after ∧
    isUsable (key, value) = true ∧ (before.filter isUsable).length = trace.countP listsUsers ∧
      searchesFor id key value q

def searchFailed (key : String) (c : CollaboratorError) : Failure :=
  .recovery ⟨.claimLookup, some key, RecoveryFault.claimLookup.code, some c⟩

section Search

variable {σ : Type} (answer : Handler σ) (codes : CodeSource) (st : σ) (n : Nat)
  (tenantId : Int) (key value : String)

theorem matchingUsers_eq :
    ∃ guard, matchingUsers tenantId key value = (search tenantId key value).rescue guard ∧
      (∀ e, (guard e).Confined fun _ => False) ∧
      ∀ m, ∃ entry, guard (.directory m) =
        .note entry (.fail (searchFailed key (.directory m))) := by
  refine ⟨_, rfl, fun e => ?_, fun _ => ⟨_, rfl⟩⟩
  split
  · exact Confined.bind (confined_log _ _ _) fun _ => trivial
  · trivial

theorem confined_lookupValue :
    (lookupValue tenantId value).Confined
      (· = .secondaryStoreExists tenantId (Account.storeOf value)) := by
  unfold lookupValue
  split
  · exact Confined.bind (confined_call rfl) fun known => trivial
  · trivial

theorem searchesFor_of_mem_matchingUsers {x : Exchange}
    (hx : x ∈ (matchingUsers tenantId key value).exchanges answer codes st n) :
    searchesFor tenantId key value x.call := by
  obtain ⟨guard, heq, hsilent, -⟩ := matchingUsers_eq tenantId key value
  rw [heq, exchanges_rescue_of_silent _ _ _ _ _ hsilent] at hx
  have hsearch : (search tenantId key value).Confined (searchesFor tenantId key value) :=
    Confined.bind ((confined_lookupValue tenantId value).mono fun _ => .inl) fun sought =>
      confined_call (.inr ⟨sought, rfl⟩)
  exact hsearch.exchanges answer codes st n x hx

theorem countP_findUsers (sought : String) :
    ((call (.findUsers tenantId key sought)).exchanges answer codes st n).countP listsUsers =
      ((call (.findUsers tenantId key sought)).run answer codes st n).result.isOk.toNat := by
  rw [exchanges_call, (run_call _ answer codes st n).1]
  cases (answer (.findUsers tenantId key sought) st).1 <;> rfl

theorem countP_search :
    ((search tenantId key value).exchanges answer codes st n).countP listsUsers =
      ((search tenantId key value).run answer codes st n).result.isOk.toNat := by
  have hzero :
      ((lookupValue tenantId value).exchanges answer codes st n).countP listsUsers = 0 := by
    rw [List.countP_eq_zero]
    rintro ⟨q, r⟩ hx
    have hq : q = _ := (confined_lookupValue tenantId value).exchanges answer codes st n _ hx
    subst hq
    exact Bool.false_ne_true
  unfold search
  rw [exchanges_bind, List.countP_append, hzero, Nat.zero_add, run_bind, Outcome.andThen,
    Outcome.exchangesAfter]
  cases ((lookupValue tenantId value).run answer codes st n).result with
  | error e => rfl
  | ok sought => exact countP_findUsers answer codes _ _ tenantId key sought

/-- The users of a claim are listed once, or the directory has failed and is told with the key. -/
theorem matchingUsers_cases (honest : Honest answer) :
    (∃ us, ((matchingUsers tenantId key value).run answer codes st n).result = .ok us ∧
        ((matchingUsers tenantId key value).exchanges answer codes st n).countP listsUsers = 1 ∧
        ∀ x ∈ (matchingUsers tenantId key value).exchanges answer codes st n, ∀ c, ¬x.Raises c) ∨
      ∃ c, ((matchingUsers tenantId key value).run answer codes st n).result =
          .error (searchFailed key c) ∧
        ((matchingUsers tenantId key value).exchanges answer codes st n).countP listsUsers = 0 ∧
        ∀ x ∈ (matchingUsers tenantId key value).exchanges answer codes st n, ∀ c',
          x.Raises c' → c' = c := by
  obtain ⟨guard, heq, hsilent, hguard⟩ := matchingUsers_eq tenantId key value
  obtain ⟨hcalls, hfails⟩ := bare_search tenantId key value σ answer codes st n
  have hcount := countP_search answer codes st n tenantId key value
  rw [heq, exchanges_rescue_of_silent _ _ _ _ _ hsilent, run_rescue, Outcome.orElse]
  cases hresult : ((search tenantId key value).run answer codes st n).result with
  | ok us =>
      rw [hresult] at hcount hfails
      refine .inl ⟨us, hresult, hcount, fun x hx c hc => ?_⟩
      cases (hfails _).2 ⟨x, hx, hc⟩
  | error e =>
      rw [hresult] at hcount hfails
      obtain ⟨x, hx, he⟩ := (hfails e).1 rfl
      obtain ⟨m, rfl⟩ := Call.covers_of_declares (honest.declares codes st n _ hx he) (hcalls x hx)
      obtain ⟨entry, htells⟩ := hguard m
      refine .inr ⟨.directory m, by simp only [htells]; rfl, hcount, fun y hy c' hc' => ?_⟩
      cases (hfails _).2 ⟨y, hy, hc'⟩
      rfl

end Search

/-- With honest collaborators, a search that fails is told with the key of its claim. -/
def NamesClaim {α : Type} (claims : Claims) (d : Dialogue α) : Prop :=
  ∀ (σ : Type) (answer : Handler σ), Honest answer → ∀ (codes : CodeSource) (s : σ) (n : Nat),
    ∀ x ∈ d.exchanges answer codes s n, x.call.fault? = some .claimLookup → ∀ c, x.Raises c →
      ∃ key, AsksFor claims (d.exchanges answer codes s n) x.call key ∧
        (d.run answer codes s n).result = .error (searchFailed key c)

variable {α β : Type} {claims : Claims}

theorem namesClaim_of_silent {d : Dialogue α} (hd : d.Confined fun _ => False) :
    NamesClaim claims d :=
  fun _ answer _ codes s n x hx => (hd.exchanges answer codes s n x hx).elim

theorem NamesClaim.skip {claim : String × String} (hclaim : ¬isUsable claim = true)
    {d : Dialogue α} (hd : NamesClaim claims d) : NamesClaim (claim :: claims) d := by
  intro σ answer honest codes s n x hx hfault c hc
  obtain ⟨key, ⟨before, value, after, id, rfl, husable, hcount, hasks⟩, hresult⟩ :=
    hd σ answer honest codes s n x hx hfault c hc
  refine ⟨key, ⟨claim :: before, value, after, id, rfl, husable, ?_, hasks⟩, hresult⟩
  rw [List.filter_cons_of_neg hclaim, hcount]

theorem NamesClaim.after_search {id : Int} {key value : String}
    (husable : isUsable (key, value) = true) {f : List String → Dialogue α}
    (hf : ∀ us, NamesClaim claims (f us)) :
    NamesClaim ((key, value) :: claims) ((matchingUsers id key value).bind f) := by
  intro σ answer honest codes s n x hx hfault c hc
  rw [mem_exchanges_bind] at hx
  rcases matchingUsers_cases answer codes s n id key value honest with
    ⟨us, hok, hcount, hnone⟩ | ⟨c', herror, hcount, honly⟩
  · rw [exchanges_bind_of_ok answer codes s n hok, run_bind, Outcome.andThen, hok]
    rcases hx with hx | ⟨us', hok', hx⟩
    · exact (hnone x hx c hc).elim
    · rw [hok] at hok'
      cases hok'
      obtain ⟨key', ⟨before, value', after, id', rfl, husable', hcount', hasks⟩, hresult⟩ :=
        hf us σ answer honest codes _ _ x hx hfault c hc
      refine ⟨key', ⟨(key, value) :: before, value', after, id', rfl, husable', ?_, hasks⟩, hresult⟩
      rw [List.filter_cons_of_pos husable, List.length_cons, List.countP_append, hcount, hcount']
      omega
  · rw [exchanges_bind, run_bind, Outcome.andThen, Outcome.exchangesAfter, herror, List.append_nil]
    rcases hx with hx | ⟨us, hok, -⟩
    · cases honly x hx c hc
      exact ⟨key, ⟨[], value, claims, id, rfl, husable, hcount.symm,
        searchesFor_of_mem_matchingUsers answer codes s n id key value hx⟩, rfl⟩
    · rw [herror] at hok
      cases hok

theorem NamesClaim.after_tenantId (domain : String) {f : Int → Dialogue α}
    (hf : ∀ id, NamesClaim claims (f id)) :
    NamesClaim claims ((call (.tenantId domain)).bind f) := by
  intro σ answer honest codes s n x hx hfault c hc
  rcases exchanges_call_bind answer codes s n (.tenantId domain) f with
    ⟨e, -, htrace⟩ | ⟨id, hid, htrace⟩
  · rw [htrace, List.mem_singleton] at hx
    subst hx
    cases hfault
  · rw [htrace, List.mem_cons] at hx
    rcases hx with rfl | hx
    · cases hfault
    · obtain ⟨key, ⟨before, value, after, id', rfl, husable, hcount, hasks⟩, hresult⟩ :=
        hf id σ answer honest codes _ n x hx hfault c hc
      refine ⟨key, ⟨before, value, after, id', rfl, husable, ?_, hasks⟩, ?_⟩
      · rw [htrace, hcount]
        exact (List.countP_cons_of_neg Bool.false_ne_true).symm
      · obtain ⟨hcall, hstate, hdrawn⟩ := run_call (.tenantId domain) answer codes s n
        rw [run_bind, Outcome.andThen, hcall, hid, hstate, hdrawn]
        exact hresult

theorem NamesClaim.bind {d : Dialogue α} {f : α → Dialogue β} (hd : NamesClaim claims d)
    (hf : ∀ a (σ : Type) (answer : Handler σ) (codes : CodeSource) (s : σ) (n : Nat),
      ∀ x ∈ (f a).exchanges answer codes s n, x.call.fault? ≠ some .claimLookup) :
    NamesClaim claims (d.bind f) := by
  intro σ answer honest codes s n x hx hfault c hc
  rcases (mem_exchanges_bind answer codes s n).1 hx with hx | ⟨a, -, hx⟩
  · obtain ⟨key, hasks, hresult⟩ := hd σ answer honest codes s n x hx hfault c hc
    rw [exchanges_bind, run_bind, Outcome.andThen, Outcome.exchangesAfter, hresult,
      List.append_nil]
    exact ⟨key, hasks, rfl⟩
  · exact (hf a σ answer codes _ _ x hx hfault).elim

theorem namesClaim_candidatesFor (id : Int) (found : Option (List String)) (claims : Claims) :
    NamesClaim claims (candidatesFor id found claims) := by
  induction claims generalizing found with
  | nil => exact namesClaim_of_silent trivial
  | cons claim claims ih =>
      unfold candidatesFor
      split
      · next husable =>
          -- A note in front of a dialogue changes neither its exchanges nor its result.
          refine NamesClaim.after_search husable fun matched => ?_
          split
          · exact namesClaim_of_silent trivial
          · dsimp only
            split
            · exact namesClaim_of_silent trivial
            · exact ih _
      · next husable => exact (ih found).skip husable

theorem namesClaim_resolveUser (claims : Claims) (tenantDomain : String) :
    NamesClaim claims (resolveUser claims tenantDomain) := by
  unfold resolveUser
  split
  · exact namesClaim_of_silent trivial
  · refine NamesClaim.after_tenantId _ fun id => (namesClaim_candidatesFor _ _ _).bind ?_
    intro found σ answer codes s n x hx
    split at hx <;> cases hx

theorem fault?_of_asksStatusOf {a : Account} {q : Call} (h : q.asksStatusOf a) :
    q.fault? ≠ some .claimLookup := by
  rcases h with rfl | rfl <;> simp [Call.fault?]

theorem fault?_of_asksChannelsOf {s : Selector} {username tenantDomain : String} {q : Call}
    (h : q.asksChannelsOf s username tenantDomain) : q.fault? ≠ some .claimLookup := by
  rcases h with rfl | ⟨id, rfl⟩ <;> simp [Call.fault?]

theorem fault?_of_concernsRecords {q : Call} (h : q.concernsRecords = true) :
    q.fault? ≠ some .claimLookup := by
  cases q <;> first | exact absurd h Bool.false_ne_true | simp [Call.fault?]

def loadFailure (e : StoreError) : RecoveryError :=
  match e.fault with
  | .unknownCode => ⟨.invalidCode, none, RecoveryFault.invalidCode.code, some (.store e)⟩
  | .expiredCode => ⟨.expiredCode, none, RecoveryFault.expiredCode.code, some (.store e)⟩
  | .general =>
    ⟨.storeFailure, some e.message, qualifyCode e.code recoveryScenario, some (.store e)⟩

theorem verdict_store (expected : Step) (e : StoreError) :
    verdict expected (.error (.store e)) = .error (.recovery (loadFailure e)) := by
  unfold loadFailure
  simp only [verdict, Failure.store]
  cases e.fault <;> rfl

theorem verdict_ok {expected : Step} {found : Option Record} {e : Failure}
    (h : verdict expected (.ok found) = .error e) :
    e = refused .noRecoveryData ∨ e = refused .invalidCode := by
  cases found with
  | none =>
      cases h
      exact .inl rfl
  | some record =>
      simp only [verdict] at h
      split at h
      · cases h
      · cases h
        exact .inr rfl

end Recovery

namespace Service

variable {σ : Type} {answer : Handler σ}

theorem namesClaim_recover (s : Service) (q : RecoveryRequest) :
    NamesClaim q.claims (s.recover q) := by
  rw [recover_stages]
  refine (namesClaim_resolveUser _ _).bind fun u σ answer codes st n x hx => ?_
  rcases (mem_exchanges_bind _ _ _ _).1 hx with hx | ⟨_, -, hx⟩
  · exact fault?_of_asksStatusOf ((confined_clear _).exchanges _ _ _ _ x hx)
  · rcases (mem_exchanges_bind _ _ _ _).1 hx with hx | ⟨channels, -, hx⟩
    · exact fault?_of_asksChannelsOf ((s.confined_offer q u).exchanges _ _ _ _ x hx)
    · exact fault?_of_concernsRecords (s.concernsRecords_of_mem_conclude _ _ _ _ q hx)

/-- With collaborators that fail only as they declare, and roles that are separated by something,
recoveries and validations end in a value or in an error of the service.  That of a recovery is on
the server's side if and only if a directory, a status provider or a store has failed meanwhile; it
then has the fault of the question, and the failure as its cause, and if it was a search for users,
it tells the key of the claim.  That of a validation tells how the look-up failed, or it is a
refusal. -/
theorem failures_reported (honest : Honest answer) (codes : CodeSource) (st : σ) (n : Nat)
    {s : Service} (separator : s.selector.roleSeparator ≠ "") (q : RecoveryRequest) (code : String)
    (expected : Step) :
    let trace := (s.recover q).exchanges answer codes st n
    let recovered := ((s.recover q).run answer codes st n).result
    let loaded := (answer (.load code) st).1
    let validated := ((s.validateCode code expected).run answer codes st n).result
    (∀ e, recovered = .error e → ∃ r, e = .recovery r) ∧
      ((∃ r, recovered = .error (.recovery r) ∧ r.fault.side = .server) ↔
        ∃ x ∈ trace, ∃ c, x.Raises c) ∧
      (∀ x ∈ trace, ∀ c, x.Raises c → ∃ fault detail, x.call.fault? = some fault ∧
        recovered = .error (.recovery ⟨fault, detail, fault.code, some c⟩) ∧
        (fault = .claimLookup → ∃ key, detail = some key ∧ AsksFor q.claims trace x.call key)) ∧
      (∀ e, validated = .error e → ∃ r, e = .recovery r) ∧
      (∀ e, loaded = .error (.store e) → validated = .error (.recovery (loadFailure e))) ∧
      ((∃ found, loaded = .ok found) → ∀ r, validated = .error (.recovery r) →
        r.fault.side = .client ∧ r.cause = none) := by
  intro trace recovered loaded validated
  obtain ⟨closed, raised, told⟩ := reporting_recover separator q σ answer honest codes st n
  have hvalidated : validated = verdict expected loaded :=
    (run_validate answer codes st n code expected).1
  have hdeclared : ∀ e, loaded = .error e → ∃ e', e = .store e' := honest (.load code) st
  refine ⟨closed, ⟨?_, ?_⟩, fun x hx c hc => ?_, fun e he => ?_, fun e he => ?_, ?_⟩
  · rintro ⟨r, hr, hserver⟩
    exact raised r hr hserver
  · rintro ⟨x, hx, c, hc⟩
    obtain ⟨fault, detail, hfault, hresult⟩ := told x hx c hc
    exact ⟨_, hresult, Call.side_of_fault? hfault⟩
  · obtain ⟨fault, detail, hfault, hresult⟩ := told x hx c hc
    refine ⟨fault, detail, hfault, hresult, ?_⟩
    rintro rfl
    obtain ⟨key, hasks, hnamed⟩ :=
      s.namesClaim_recover q σ answer honest codes st n x hx hfault c hc
    rw [hresult] at hnamed
    cases hnamed
    exact ⟨key, rfl, hasks⟩
  · rw [hvalidated] at he
    cases hloaded : loaded with
    | error e' =>
        obtain ⟨e', rfl⟩ := hdeclared e' hloaded
        rw [hloaded, verdict_store] at he
        cases he
        exact ⟨_, rfl⟩
    | ok found =>
        rw [hloaded] at he
        rcases verdict_ok he with rfl | rfl <;> exact ⟨_, rfl⟩
  · rw [hvalidated, he, verdict_store]
  · rintro ⟨found, hfound⟩ r hr
    rw [hvalidated, hfound] at hr
    rcases verdict_ok hr with h | h <;>
    · cases h
      exact ⟨rfl, rfl⟩

/-- Collaborators that know one user, of a directory whose secondary stores cannot be listed. -/
def faltering : Handler Unit
  | .secondaryStoreExists .., st => (.error (.directory "store registry unavailable"), st)
  | q, st => obliging q st

theorem honest_faltering : Honest faltering := by
  intro q st e h
  cases q with
  | secondaryStoreExists id domain =>
      cases h
      exact ⟨_, rfl⟩
  | _ => cases h

/-- The second claim has a separator in its value, so the stores are asked for. -/
theorem failures_reported_faltering :
    let s : Service := ⟨{}, ⟨.empty, .empty, '*'⟩, true⟩
    let q : RecoveryRequest := ⟨[("name", "A"), ("born", "1990/01")], "t", .username, []⟩
    ((s.recover q).run faltering (fun _ => "code") () 0).result =
      .error (.recovery ⟨.claimLookup, some "born", "UAR-15001",
        some (.directory "store registry unavailable")⟩) := by
  intro s q
  let x : Exchange :=
    ⟨.secondaryStoreExists 1 "1990", .error (.directory "store registry unavailable")⟩
  have htrace : (s.recover q).exchanges faltering (fun _ => "code") () 0 =
      [⟨.tenantId "t", .ok 1⟩, ⟨.findUsers 1 "name" "A", .ok ["ann"]⟩, x] := rfl
  obtain ⟨-, -, told, -⟩ := failures_reported honest_faltering (fun _ => "code") () 0
    (s := s) (by decide) q "code" .sendInformation
  obtain ⟨fault, detail, hfault, hresult, hdetail⟩ :=
    told x (by rw [htrace]; simp) (.directory "store registry unavailable") rfl
  cases hfault
  obtain ⟨key, rfl, before, value, after, id, hclaims, -, hcount, -⟩ := hdetail rfl
  -- Users have been listed once, so one claim comes before that of the failure.
  rw [htrace] at hcount
  rcases before with _ | ⟨claim, _ | ⟨claim', before⟩⟩
  · cases hcount
  · cases hclaims
    exact hresult
  · simp [q] at hclaims

end Service

end AccountRecovery

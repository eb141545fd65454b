import AccountRecovery.Proofs.Stages
/-!
# No code without clearance

The exchanges of one recovery, however its collaborators answer.  Each stage has few shapes
(`clear_exchanges`, `selectChannels_exchanges`, `conclude_exchanges`); a question of a later stage
comes after all earlier ones are done.  So the records of an account are touched only when its user
is found, the account is neither disabled nor locked, and there is a channel.
-/

namespace AccountRecovery

open Dialogue Recovery

def Call.isStatus : Call → Bool
  | isDisabled _ => true
  | isLocked _ => true
  | _ => false

def Call.isInvalidate : Call → Bool
  | invalidate _ => true
  | _ => false

def Call.isStore : Call → Bool
  | store _ => true
  | _ => false

def Call.isClaimValues : Call → Bool
  | claimValues .. => true
  | _ => false

variable {σ : Type} (answer : Handler σ) (codes : CodeSource) (st : σ) (n : Nat)

/-! ## The exchanges of each stage -/

namespace Recovery

/-- The lock of an account is asked for only if it is answered not to be disabled. -/
theorem statusOf_exchanges (a : Account) :
    (∃ r, r = (answer (.isDisabled a) st).1 ∧ r ≠ .ok false ∧
        (statusOf a).exchanges answer codes st n = [⟨.isDisabled a, r⟩]) ∨
      (statusOf a).exchanges answer codes st n = [⟨.isDisabled a, .ok false⟩,
        ⟨.isLocked a, (answer (.isLocked a) (answer (.isDisabled a) st).2).1⟩] := by
  unfold statusOf
  rw [exchanges_rescue_of_silent, bind_eq]
  · rcases exchanges_call_bind answer codes st n (.isDisabled a) _ with ⟨e, he, h⟩ | ⟨d, hd, h⟩
    · exact .inl ⟨.error e, he.symm, nofun, h⟩
    · cases d with
      | true => exact .inl ⟨.ok true, hd.symm, nofun, h⟩
      | false =>
          refine .inr (h.trans ?_)
          rw [if_neg Bool.false_ne_true, bind_eq, exchanges_bind_of_silent, exchanges_call]
          exact fun _ => trivial
  · intro e
    split
    · exact Confined.bind (confined_log _ _ _) fun _ => trivial
    · trivial

theorem clear_exchanges (a : Account) :
    (∃ r, r = (answer (.isDisabled a) st).1 ∧ r ≠ .ok false ∧
        (clear a).exchanges answer codes st n = [⟨.isDisabled a, r⟩]) ∨
      (clear a).exchanges answer codes st n = [⟨.isDisabled a, .ok false⟩,
        ⟨.isLocked a, (answer (.isLocked a) (answer (.isDisabled a) st).2).1⟩] := by
  unfold clear
  rw [bind_eq, exchanges_bind_of_silent]
  · exact statusOf_exchanges answer codes st n a
  · intro status
    split <;> trivial

theorem answers_of_cleared {a : Account}
    (h : ((clear a).run answer codes st n).result = .ok ()) :
    (answer (.isDisabled a) st).1 = .ok false ∧
      (answer (.isLocked a) (answer (.isDisabled a) st).2).1 = .ok false := by
  obtain ⟨status, hstatus, hclear⟩ := run_bind_eq_ok_iff.1 h
  have hfalse : status = (false, false) := by
    split at hclear
    · cases hclear
    · cases hclear
    · rfl
  unfold statusOf at hstatus
  rw [hfalse, run_rescue_eq_ok_iff] at hstatus
  · obtain ⟨d, hd, hlocked⟩ := run_bind_eq_ok_iff.1 hstatus
    obtain ⟨hresult, hstate, hdrawn⟩ := run_call (.isDisabled a) answer codes st n
    rw [hresult] at hd
    rw [hstate, hdrawn] at hlocked
    cases d with
    | true => cases hlocked
    | false =>
        obtain ⟨l, hl, hdone⟩ := run_bind_eq_ok_iff.1 hlocked
        rw [(run_call (.isLocked a) answer codes _ n).1] at hl
        cases hdone
        exact ⟨hd, hl⟩
  · intro e s n
    split
    · exact nofun
    · exact nofun

theorem clear_exchanges_of_ok {a : Account}
    (h : ((clear a).run answer codes st n).result = .ok ()) :
    (clear a).exchanges answer codes st n =
      [⟨.isDisabled a, .ok false⟩, ⟨.isLocked a, .ok false⟩] := by
  obtain ⟨hdisabled, hlocked⟩ := answers_of_cleared answer codes st n h
  rcases clear_exchanges answer codes st n a with ⟨r, rfl, hne, -⟩ | hexchanges
  · exact (hne hdisabled).elim
  · rw [hexchanges, hlocked]

theorem channelClaims_exchanges (s : Selector) (username tenantDomain : String) :
    (∃ r, (channelClaims s username tenantDomain).exchanges answer codes st n =
        [⟨.tenantId tenantDomain, r⟩]) ∨
      ∃ id r, (channelClaims s username tenantDomain).exchanges answer codes st n =
        [⟨.tenantId tenantDomain, .ok id⟩, ⟨.claimValues id username s.requiredClaims, r⟩] := by
  unfold channelClaims
  rw [bind_eq]
  rcases exchanges_call_bind answer codes st n (.tenantId tenantDomain) _ with
    ⟨e, -, h⟩ | ⟨id, -, h⟩
  · exact .inl ⟨.error e, h⟩
  · refine .inr ⟨id, (answer (.claimValues id username s.requiredClaims)
      (answer (.tenantId tenantDomain) st).2).1, ?_⟩
    rw [h, exchanges_rescue_of_silent, exchanges_call]
    intro e
    split
    · exact Confined.bind (confined_log _ _ _) fun _ => trivial
    · trivial

theorem selectChannels_exchanges (s : Selector) (username tenantDomain : String) (managed : Bool) :
    (selectChannels s username tenantDomain managed).exchanges answer codes st n =
      if managed then (channelClaims s username tenantDomain).exchanges answer codes st n
      else [] := by
  unfold selectChannels
  split
  · refine exchanges_bind_of_silent answer codes st n _ fun values => ?_
    split
    · exact confined_refuse _ _
    · refine Confined.bind (confined_ofExcept _) fun selfRegistered =>
        Confined.bind (confined_log _ _ _) fun _ => ?_
      split <;> trivial
  · rfl

theorem selectChannels_ne_nil {s : Selector} {username tenantDomain : String} {managed : Bool}
    {channels : List Channel}
    (h : ((selectChannels s username tenantDomain managed).run answer codes st n).result =
      .ok channels) : channels ≠ [] := by
  unfold selectChannels at h
  split at h
  · obtain ⟨values, -, h⟩ := run_bind_eq_ok_iff.1 h
    split at h
    · cases h
    · obtain ⟨selfRegistered, -, h⟩ := run_bind_eq_ok_iff.1 h
      obtain ⟨⟨⟩, -, h⟩ := run_bind_eq_ok_iff.1 h
      split at h
      · cases h
      · next heligible =>
          cases h
          rwa [List.isEmpty_iff] at heligible
  · cases h
    exact List.cons_ne_nil _ _

theorem issue_exchanges (username tenantDomain : String) (channels : List Channel)
    (scenario : Scenario) :
    ∃ record r stored, record.account = .ofRawName username tenantDomain ∧
      (issue username tenantDomain channels scenario).exchanges answer codes st n =
        ⟨.invalidate record.account, r⟩ :: stored ∧
      (stored = [] ∨ r = .ok () ∧ ∃ r', stored = [⟨.store record, r'⟩]) := by
  let record : Record := ⟨.ofRawName username tenantDomain, codes n, scenario, .sendInformation,
    Selection.serialize channels, none⟩
  have hissue : (issue username tenantDomain channels scenario).exchanges answer codes st n =
      ((call (.invalidate record.account)).bind fun _ => call (.store record)).exchanges
        answer codes st (n + 1) := by
    unfold issue
    rw [bind_eq]
    change Dialogue.exchanges answer codes (Dialogue.bind (Dialogue.rescue _ _) _) st (n + 1) = _
    rw [exchanges_bind_of_silent, exchanges_rescue_of_silent]
    · rfl
    · intro e
      split
      · exact Confined.bind (confined_log _ _ _) fun _ => trivial
      · trivial
    · exact fun _ => Confined.bind (confined_log _ _ _) fun _ => trivial
  rcases exchanges_call_bind answer codes st (n + 1) (.invalidate record.account)
    (fun _ => call (.store record)) with ⟨e, -, h⟩ | ⟨⟨⟩, -, h⟩
  · exact ⟨record, .error e, [], rfl, hissue.trans h, .inl rfl⟩
  · refine ⟨record, .ok (), _, rfl, hissue.trans h, .inr ⟨rfl, ?_⟩⟩
    rw [exchanges_call]
    exact ⟨_, rfl⟩

end Recovery

/-! ## The stages in order -/

namespace Service

variable (s : Service) (q : RecoveryRequest)

theorem recover_stages :
    s.recover q = (resolveUser q.claims q.tenantDomain).bind fun u =>
      (clear (.ofRawName u q.tenantDomain)).bind fun _ =>
        (s.offer q u).bind fun channels => s.conclude q (u, channels) := by
  simp only [recover_eq, approve, bind_bind]
  rfl

theorem conclude_exchanges (approved : String × List Channel) :
    ∃ record r stored, record.account = .ofRawName approved.1 q.tenantDomain ∧
      (s.conclude q approved).exchanges answer codes st n =
        ⟨.invalidate record.account, r⟩ :: stored ∧
      (stored = [] ∨ r = .ok () ∧ ∃ r', stored = [⟨.store record, r'⟩]) := by
  unfold conclude
  rw [exchanges_bind_of_silent]
  · exact issue_exchanges answer codes st n _ _ _ _
  · exact fun _ => trivial

theorem concernsRecords_of_mem_conclude {approved : String × List Channel} {x : Exchange}
    (hx : x ∈ (s.conclude q approved).exchanges answer codes st n) :
    x.call.concernsRecords = true := by
  obtain ⟨record, r, stored, -, h, hstored⟩ := s.conclude_exchanges answer codes st n q approved
  rw [h, List.mem_cons] at hx
  rcases hx with rfl | hx
  · rfl
  · rcases hstored with rfl | ⟨-, r', rfl⟩
    · cases hx
    · rw [List.mem_singleton.1 hx]
      rfl

/-- An approved user has been found and cleared, in this order, and is offered a channel. -/
theorem exchanges_of_approved {u : String} {channels : List Channel}
    (h : ((s.approve q).run answer codes st n).result = .ok (u, channels)) :
    ((resolveUser q.claims q.tenantDomain).run answer codes st n).result = .ok u ∧
      channels ≠ [] ∧
      ∃ offered, (s.approve q).exchanges answer codes st n =
        (resolveUser q.claims q.tenantDomain).exchanges answer codes st n ++
          ⟨.isDisabled (.ofRawName u q.tenantDomain), .ok false⟩ ::
            ⟨.isLocked (.ofRawName u q.tenantDomain), .ok false⟩ :: offered := by
  obtain ⟨u, hfound, h⟩ := run_bind_eq_ok_iff.1 h
  obtain ⟨⟨⟩, hcleared, h⟩ := run_bind_eq_ok_iff.1 h
  obtain ⟨channels, hoffered, h⟩ := run_bind_eq_ok_iff.1 h
  cases h
  refine ⟨hfound, selectChannels_ne_nil _ _ _ _ hoffered, ?_⟩
  unfold approve
  rw [exchanges_bind_of_ok _ _ _ _ hfound, exchanges_bind_of_ok _ _ _ _ hcleared,
    clear_exchanges_of_ok _ _ _ _ hcleared]
  exact ⟨_, rfl⟩

variable {s q} {answer codes st n} {before after : List Exchange}

theorem split_invalidate {a : Account} {r : (Call.invalidate a).Answer}
    (h : (s.recover q).exchanges answer codes st n = before ++ ⟨.invalidate a, r⟩ :: after) :
    ∃ u channels, ((s.approve q).run answer codes st n).result = .ok (u, channels) ∧
      a = .ofRawName u q.tenantDomain ∧ before = (s.approve q).exchanges answer codes st n := by
  -- The stages before may not ask for this, so it is an exchange of the last stage: its first one.
  rw [recover_eq] at h
  obtain ⟨⟨u, channels⟩, rest, happroved, hbefore, hrest⟩ :=
    (s.confined_approve q).split_bind answer codes st n (by simp [Call.concernsRecords]) h
  obtain ⟨record, r', stored, haccount, hconclude, hstored⟩ :=
    s.conclude_exchanges answer codes _ _ q (u, channels)
  rw [hconclude] at hrest
  cases rest with
  | nil =>
      cases hrest
      exact ⟨u, channels, happroved, haccount, by rw [hbefore, List.append_nil]⟩
  | cons x rest =>
      rw [List.cons_append, List.cons.injEq] at hrest
      rcases hstored with rfl | ⟨-, r'', rfl⟩
      · simp at hrest
      · cases rest <;> simp at hrest

theorem split_store {record : Record} {r : (Call.store record).Answer}
    (h : (s.recover q).exchanges answer codes st n = before ++ ⟨.store record, r⟩ :: after) :
    ∃ earlier, before = earlier ++ [⟨.invalidate record.account, .ok ()⟩] := by
  rw [recover_eq] at h
  obtain ⟨⟨u, channels⟩, rest, -, hbefore, hrest⟩ :=
    (s.confined_approve q).split_bind answer codes st n (by simp [Call.concernsRecords]) h
  obtain ⟨record', r', stored, -, hconclude, hstored⟩ :=
    s.conclude_exchanges answer codes _ _ q (u, channels)
  rw [hconclude] at hrest
  cases rest with
  | nil => simp at hrest
  | cons x rest =>
      rw [List.cons_append, List.cons.injEq] at hrest
      obtain ⟨hx, hrest⟩ := hrest
      rcases hstored with rfl | ⟨rfl, r'', rfl⟩
      · simp at hrest
      · cases rest with
        | nil =>
            cases hrest
            exact ⟨_, by rw [hbefore, ← hx]⟩
        | cons y rest => simp at hrest

theorem split_claimValues {id : Int} {u : String} {keys : List String}
    {r : (Call.claimValues id u keys).Answer}
    (h : (s.recover q).exchanges answer codes st n =
      before ++ ⟨.claimValues id u keys, r⟩ :: after) :
    s.manages q = true ∧
      ((resolveUser q.claims q.tenantDomain).run answer codes st n).result = .ok u ∧
        ∃ rest, before = (resolveUser q.claims q.tenantDomain).exchanges answer codes st n ++
          ⟨.isDisabled (.ofRawName u q.tenantDomain), .ok false⟩ ::
            ⟨.isLocked (.ofRawName u q.tenantDomain), .ok false⟩ :: rest := by
  -- Neither of the first two stages may ask for this; the last one does not either.
  rw [recover_stages] at h
  obtain ⟨v, rest, hfound, hbefore, h⟩ :=
    (confined_resolveUser _ _).split_bind answer codes st n (by simp [Call.isLookup]) h
  obtain ⟨⟨⟩, rest', hcleared, hrest, h⟩ :=
    (confined_clear _).split_bind answer codes _ _ (by simp [Call.asksStatusOf]) h
  have hmem : ⟨.claimValues id u keys, r⟩ ∈ rest' ++ ⟨.claimValues id u keys, r⟩ :: after := by simp
  rw [← h, mem_exchanges_bind] at hmem
  rcases hmem with hmem | ⟨channels, -, hmem⟩
  · have hcall := (s.confined_offer q v).exchanges answer codes _ _ _ hmem
    have hv : u = v := by
      rcases hcall with hcall | ⟨id, hcall⟩
      · cases hcall
      · cases hcall
        rfl
    subst hv
    refine ⟨?_, hfound, rest', ?_⟩
    · rw [offer, selectChannels_exchanges] at hmem
      split at hmem
      · next hmanages => exact hmanages
      · cases hmem
    · rw [hbefore, hrest, clear_exchanges_of_ok _ _ _ _ hcleared]
      rfl
  · cases concernsRecords_of_mem_conclude answer codes _ _ s q hmem

/-- The status of an account is asked for in the second stage only. -/
theorem mem_clear_of_mem_recover {x : Exchange} (hx : x ∈ (s.recover q).exchanges answer codes st n)
    (hstatus : x.call.isStatus = true) :
    ∃ u, ((resolveUser q.claims q.tenantDomain).run answer codes st n).result = .ok u ∧
      x ∈ (clear (.ofRawName u q.tenantDomain)).exchanges answer codes
        ((resolveUser q.claims q.tenantDomain).run answer codes st n).state
        ((resolveUser q.claims q.tenantDomain).run answer codes st n).drawn := by
  rw [recover_stages, mem_exchanges_bind] at hx
  rcases hx with hx | ⟨u, hfound, hx⟩
  · have hlookup := (confined_resolveUser _ _).exchanges answer codes st n x hx
    cases hcall : x.call <;> simp [hcall, Call.isStatus, Call.isLookup] at hstatus hlookup
  · refine ⟨u, hfound, ?_⟩
    rw [mem_exchanges_bind] at hx
    rcases hx with hx | ⟨⟨⟩, hcleared, hx⟩
    · exact hx
    · rw [mem_exchanges_bind] at hx
      rcases hx with hx | ⟨channels, -, hx⟩
      · rcases (s.confined_offer q u).exchanges answer codes _ _ x hx with hcall | ⟨id, hcall⟩
        · simp [hcall, Call.isStatus] at hstatus
        · simp [hcall, Call.isStatus] at hstatus
      · have hrecords := concernsRecords_of_mem_conclude answer codes _ _ s q hx
        cases hcall : x.call <;>
          simp [hcall, Call.isStatus, Call.concernsRecords] at hstatus hrecords

theorem isLocked_notMem {a b : Account} {r : (Call.isLocked b).Answer}
    (hdisabled : ⟨.isDisabled a, .ok true⟩ ∈ (s.recover q).exchanges answer codes st n) :
    ⟨.isLocked b, r⟩ ∉ (s.recover q).exchanges answer codes st n := by
  intro hlocked
  obtain ⟨u, hu, hdisabled⟩ := mem_clear_of_mem_recover hdisabled rfl
  obtain ⟨v, hv, hlocked⟩ := mem_clear_of_mem_recover hlocked rfl
  rw [hu, Except.ok.injEq] at hv
  subst hv
  rcases clear_exchanges answer codes _ _ (.ofRawName u q.tenantDomain) with
    ⟨r, -, -, hexchanges⟩ | hexchanges
  · rw [hexchanges] at hlocked
    simp at hlocked
  · rw [hexchanges] at hdisabled
    simp at hdisabled

/-! ## How often the stages ask -/

theorem atMost_conclude (approved : String × List Channel) :
    (s.conclude q approved).AtMost (·.call.isInvalidate) 1 ∧
      (s.conclude q approved).AtMost (·.call.isStore) 1 := by
  constructor
  all_goals
    intro σ answer codes st n
    obtain ⟨record, r, stored, -, hconclude, hstored⟩ :=
      s.conclude_exchanges answer codes st n q approved
    rw [hconclude]
    rcases hstored with rfl | ⟨-, r', rfl⟩
    · exact List.countP_le_length
    · exact Nat.le_refl 1

theorem atMost_offer (u : String) :
    (s.offer q u).AtMost (·.call.isClaimValues) 1 := by
  intro σ answer codes st n
  rw [offer, selectChannels_exchanges]
  split
  · rcases channelClaims_exchanges answer codes st n s.selector u q.tenantDomain with
      ⟨r, hclaims⟩ | ⟨id, r, hclaims⟩
    · rw [hclaims]
      exact List.countP_le_length
    · rw [hclaims]
      exact Nat.le_refl 1
  · exact Nat.zero_le 1

/-- What only the last stage may ask is asked as often as there. -/
theorem atMost_of_atMost_conclude {kind : Exchange → Bool} {k : Nat}
    (hkind : ∀ x, x.call.concernsRecords = false → kind x = false)
    (hconclude : ∀ approved, (s.conclude q approved).AtMost kind k) :
    (s.recover q).AtMost kind k := by
  rw [recover_eq, ← Nat.zero_add k]
  exact AtMost.bind ((s.confined_approve q).atMost hkind) hconclude

theorem atMost_recover :
    (s.recover q).AtMost (·.call.isInvalidate) 1 ∧ (s.recover q).AtMost (·.call.isStore) 1 ∧
      (s.recover q).AtMost (·.call.isClaimValues) 1 := by
  refine ⟨?_, ?_, ?_⟩
  · refine atMost_of_atMost_conclude (fun x hx => ?_) fun approved => (atMost_conclude approved).1
    cases hcall : x.call <;> simp [hcall, Call.concernsRecords, Call.isInvalidate] at hx ⊢
  · refine atMost_of_atMost_conclude (fun x hx => ?_) fun approved => (atMost_conclude approved).2
    cases hcall : x.call <;> simp [hcall, Call.concernsRecords, Call.isStore] at hx ⊢
  · rw [recover_stages]
    refine AtMost.bind (k := 1) (Confined.atMost (confined_resolveUser _ _) fun x hx => ?_) fun u =>
      AtMost.bind (k := 1) (Confined.atMost (confined_clear _) fun x hx => ?_) fun _ =>
        AtMost.bind (k := 0) (atMost_offer u) fun channels => ?_
    · cases hcall : x.call <;> simp [hcall, Call.isLookup, Call.isClaimValues] at hx ⊢
    · rcases hx with hcall | hcall <;> simp [hcall, Call.isClaimValues]
    · intro σ answer codes st n
      rw [Nat.le_zero, List.countP_eq_zero]
      intro x hx
      have hrecords := concernsRecords_of_mem_conclude answer codes st n s q hx
      cases hcall : x.call <;> simp [hcall, Call.concernsRecords, Call.isClaimValues] at hrecords ⊢

/-! ## All of it -/

/-- A recovery that is not approved leaves the records alone. -/
theorem recover_of_not_approved {e : Failure}
    (h : ((s.approve q).run answer codes st n).result = .error e) :
    ((s.recover q).run answer codes st n).result = .error e ∧
      (s.recover q).exchanges answer codes st n = (s.approve q).exchanges answer codes st n ∧
      ((s.recover q).run answer codes st n).state =
        ((s.approve q).run answer codes st n).state := by
  rw [recover_eq, run_bind, exchanges_bind, Outcome.andThen, Outcome.exchangesAfter, h]
  exact ⟨rfl, List.append_nil _, rfl⟩

/-- However the collaborators answer, the records of an account are invalidated only after the user
is found, the account is answered to be neither disabled nor locked, and a channel is offered; a
record is stored only right after.  Both happen at most once, and for this account.  The lock of an
account that is disabled is not asked for.  The claims of the user are asked for at most once, by a
service that sends notifications, and after the status.  If any of the stages before fails, so does
the recovery, and nothing that only the store's questions could change is changed. -/
theorem no_code_without_clearance (answer : Handler σ) (codes : CodeSource) (st : σ) (n : Nat)
    (s : Service) (q : RecoveryRequest) :
    let trace := (s.recover q).exchanges answer codes st n
    let search := (resolveUser q.claims q.tenantDomain).run answer codes st n
    let approved := (s.approve q).run answer codes st n
    let concluded := (s.recover q).run answer codes st n
    (∀ before a r after, trace = before ++ ⟨.invalidate a, r⟩ :: after →
      ∃ u channels, search.result = .ok u ∧
        (resolveUser q.claims q.tenantDomain).exchanges answer codes st n <+: before ∧
        a = .ofRawName u q.tenantDomain ∧
        ⟨.isDisabled a, .ok false⟩ ∈ before ∧ ⟨.isLocked a, .ok false⟩ ∈ before ∧
        approved.result = .ok (u, channels) ∧ channels ≠ [] ∧
        before = (s.approve q).exchanges answer codes st n) ∧
      (∀ before record r after, trace = before ++ ⟨.store record, r⟩ :: after →
        ∃ earlier, before = earlier ++ [⟨.invalidate record.account, .ok ()⟩]) ∧
      trace.countP (·.call.isInvalidate) ≤ 1 ∧ trace.countP (·.call.isStore) ≤ 1 ∧
      (∀ a b r, ⟨.isDisabled a, .ok true⟩ ∈ trace → ⟨.isLocked b, r⟩ ∉ trace) ∧
      trace.countP (·.call.isClaimValues) ≤ 1 ∧
      (∀ before id u keys r after, trace = before ++ ⟨.claimValues id u keys, r⟩ :: after →
        s.manages q = true ∧ search.result = .ok u ∧
          ⟨.isDisabled (.ofRawName u q.tenantDomain), .ok false⟩ ∈ before ∧
          ⟨.isLocked (.ofRawName u q.tenantDomain), .ok false⟩ ∈ before) ∧
      ∀ e, approved.result = .error e →
        concluded.result = .error e ∧ (∀ x ∈ trace, x.call.concernsRecords = false) ∧
          ∀ {ρ : Type} (view : σ → ρ),
            (∀ call s, call.concernsRecords = false → view (answer call s).2 = view s) →
              view concluded.state = view st := by
  dsimp only
  refine ⟨fun before a r after h => ?_, fun before record r after h => split_store h,
    atMost_recover.1 answer codes st n, atMost_recover.2.1 answer codes st n,
    fun a b r => isLocked_notMem, atMost_recover.2.2 answer codes st n,
    fun before id u keys r after h => ?_, fun e h => ?_⟩
  · obtain ⟨u, channels, happroved, rfl, rfl⟩ := split_invalidate h
    obtain ⟨hfound, hchannels, offered, hexchanges⟩ :=
      s.exchanges_of_approved answer codes st n q happroved
    refine ⟨u, channels, hfound, ?_, rfl, ?_, ?_, happroved, hchannels, rfl⟩
    · rw [hexchanges]
      exact List.prefix_append _ _
    · simp [hexchanges]
    · simp [hexchanges]
  · obtain ⟨hmanages, hfound, rest, rfl⟩ := split_claimValues h
    exact ⟨hmanages, hfound, by simp, by simp⟩
  · obtain ⟨hresult, hexchanges, hstate⟩ := recover_of_not_approved h
    rw [hexchanges, hstate]
    exact ⟨hresult, (s.confined_approve q).exchanges answer codes st n,
      fun view keeps => (s.confined_approve q).view_run keeps codes st n⟩

/-- Collaborators that know one user, who has a telephone. -/
def obliging : Handler Unit
  | .tenantId _, st => (.ok 1, st)
  | .findUsers .., st => (.ok ["ann"], st)
  | .claimValues .., st => (.ok [("urn:identity:claims:mobile", some "5550100")], st)
  | .secondaryStoreExists .., st => (.ok false, st)
  | .isDisabled _, st => (.ok false, st)
  | .isLocked _, st => (.ok false, st)
  | .load _, st => (.ok none, st)
  | .store _, st => (.ok (), st)
  | .invalidate _, st => (.ok (), st)

/-- Six questions come before the records of the user are touched. -/
theorem no_code_without_clearance_obliging :
    let s : Service := ⟨{}, ⟨.empty, .empty, '*'⟩, true⟩
    let q : RecoveryRequest := ⟨[("name", "A")], "t", .username, []⟩
    let ann : Account := .ofRawName "ann" "t"
    ∃ before after, (s.recover q).exchanges obliging (fun _ => "code") () 0 =
        before ++ ⟨.invalidate ann, .ok ()⟩ :: after ∧
      before.length = 6 ∧ after.length = 1 ∧ ⟨.isLocked ann, .ok false⟩ ∈ before := by
  intro s q ann
  let trace := (s.recover q).exchanges obliging (fun _ => "code") () 0
  have htrace : trace = trace.take 6 ++ ⟨.invalidate ann, .ok ()⟩ :: trace.drop 7 := rfl
  obtain ⟨u, channels, -, -, -, -, hlocked, -⟩ :=
    (no_code_without_clearance obliging (fun _ => "code") () 0 s q).1 _ _ _ _ htrace
  exact ⟨_, _, htrace, rfl, rfl, hlocked⟩

end Service

end AccountRecovery

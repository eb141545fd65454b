import AccountRecovery.Proofs.Session
import Mathlib.Data.Set.Function
/-!
# The life of a recovery code

A code lives from the recovery that issued it until another recovery of the account succeeds, or
until it is asked for when it is too old.  The store holds exactly the records of the codes that
live (`Faithful`), in every state of every run.
-/

namespace AccountRecovery

open Recovery

/-- A recovery that succeeded, at a reading of the clock. -/
structure Issue where
  now : Instant
  request : RecoveryRequest
  info : RecoveryInfo

namespace Issue

def event (x : Issue) : Event :=
  .resolved x.now x.request (.ok x.info)

def account (x : Issue) : Account :=
  .ofRawName x.info.username x.request.tenantDomain

def record (x : Issue) (channels : List Channel) : Record :=
  ⟨x.account, x.info.code, x.request.scenario, .sendInformation, Selection.serialize channels,
    some x.now⟩

theorem event_inj {x y : Issue} (h : x.event = y.event) : x = y := by
  cases x
  cases y
  simp_all [event]

end Issue

/-- Since the issue no other recovery of its account has succeeded, and its code has never been
asked for when it was too old. -/
def Standing (ttl : Int) (history : List Event) (x : Issue) : Prop :=
  ∃ later earlier, history = later ++ x.event :: earlier ∧
    (∀ y : Issue, y.event ∈ later → y.account ≠ x.account) ∧
      ∀ now step result, .validated now x.info.code step result ∈ later → now - x.now ≤ ttl

variable {ttl : Int} {history : List Event} {x : Issue}

theorem not_standing_nil : ¬Standing ttl [] x := by
  rintro ⟨later, earlier, h, -⟩
  simp at h

theorem Standing.event_mem (h : Standing ttl history x) : x.event ∈ history := by
  obtain ⟨later, earlier, rfl, -⟩ := h
  simp

/-- An event is the issue itself, or it neither supersedes the code nor finds it too old. -/
theorem standing_cons {e : Event} :
    Standing ttl (e :: history) x ↔
      e = x.event ∨
        (Standing ttl history x ∧ (∀ y : Issue, e = y.event → y.account ≠ x.account) ∧
          ∀ now step result, e = .validated now x.info.code step result → now - x.now ≤ ttl) := by
  constructor
  · rintro ⟨later, earlier, h, hissues, hvalidations⟩
    rw [List.cons_eq_append_iff] at h
    rcases h with ⟨rfl, h⟩ | ⟨later, rfl, rfl⟩
    · exact .inl (List.cons_eq_cons.1 h).1.symm
    · refine .inr ⟨⟨later, earlier, rfl, fun y hy => hissues y (List.mem_cons_of_mem _ hy),
        fun now step result h => hvalidations now step result (List.mem_cons_of_mem _ h)⟩, ?_, ?_⟩
      · rintro y rfl
        exact hissues y List.mem_cons_self
      · rintro now step result rfl
        exact hvalidations now step result List.mem_cons_self
  · rintro (rfl | ⟨⟨later, earlier, rfl, hissues, hvalidations⟩, hissue, hvalidation⟩)
    · exact ⟨[], history, rfl, by simp, by simp⟩
    · refine ⟨e :: later, earlier, rfl, fun y hy => ?_, fun now step result h => ?_⟩
      · rcases List.mem_cons.1 hy with hy | hy
        · exact hissue y hy.symm
        · exact hissues y hy
      · rcases List.mem_cons.1 h with h | h
        · exact hvalidation now step result h.symm
        · exact hvalidations now step result h

theorem standing_cons_error {now : Instant} {q : RecoveryRequest} {e : Failure} :
    Standing ttl (.resolved now q (.error e) :: history) x ↔ Standing ttl history x := by
  simp [standing_cons, Issue.event]

theorem standing_cons_event {y : Issue} :
    Standing ttl (y.event :: history) x ↔
      y = x ∨ (Standing ttl history x ∧ x.account ≠ y.account) := by
  rw [standing_cons]
  refine or_congr ⟨Issue.event_inj, congrArg _⟩ (and_congr_right fun _ => ?_)
  constructor
  · exact fun h => (h.1 y rfl).symm
  · intro h
    refine ⟨fun z hz => ?_, fun now step result hz => nomatch hz⟩
    rw [← Issue.event_inj hz]
    exact h.symm

theorem standing_cons_validated {now : Instant} {code : String} {step : Step}
    {result : Except Failure Record} :
    Standing ttl (.validated now code step result :: history) x ↔
      Standing ttl history x ∧ (x.info.code = code → now - x.now ≤ ttl) := by
  rw [standing_cons]
  constructor
  · rintro (h | ⟨h, -, hvalidation⟩)
    · cases h
    · refine ⟨h, ?_⟩
      rintro rfl
      exact hvalidation now step result rfl
  · rintro ⟨h, hvalidation⟩
    refine .inr ⟨h, fun y hy => (nomatch hy), fun now' step' result' heq => ?_⟩
    cases heq
    exact hvalidation rfl

namespace Installation

def Offered (i : Installation) (x : Issue) (channels : List Channel) : Prop :=
  i.registry.consult (i.service.offer x.request x.info.username) = .ok channels

/-- The records are those of the issues that stand, and every code has been drawn. -/
structure Faithful (i : Installation) (ttl : Int) (history : List Event) (st : State) : Prop where
  wf : st.store.WellFormed
  ttl_eq : st.store.ttl = ttl
  drawn : ∀ x : Issue, x.event ∈ history → ∃ n < st.drawn, i.codes n = x.info.code
  mem_iff : ∀ p, p ∈ st.store.records ↔
    ∃ x channels, Standing ttl history x ∧ i.Offered x channels ∧
      p = (x.info.code, x.record channels)
  offered : ∀ x : Issue, x.event ∈ history → ∃ channels, i.Offered x channels
  nodup_accounts : (st.store.records.map fun p => p.2.account).Nodup

variable {i : Installation} {st : State}

theorem faithful_start : i.Faithful ttl [] ⟨⟨ttl, []⟩, 0⟩ where
  wf := MemoryStore.wellFormed_empty ttl
  ttl_eq := rfl
  drawn := by simp
  mem_iff p := by simp [not_standing_nil]
  offered := by simp
  nodup_accounts := List.nodup_nil

theorem Faithful.mem_of_standing (h : i.Faithful ttl history st) (hx : Standing ttl history x) :
    ∃ channels, i.Offered x channels ∧ (x.info.code, x.record channels) ∈ st.store.records := by
  obtain ⟨channels, hchannels⟩ := h.offered x hx.event_mem
  exact ⟨channels, hchannels, (h.mem_iff _).2 ⟨x, channels, hx, hchannels, rfl⟩⟩

theorem Faithful.resolve_error (h : i.Faithful ttl history st) (now : Instant)
    (q : RecoveryRequest) (e : Failure) :
    i.Faithful ttl (.resolved now q (.error e) :: history) st where
  wf := h.wf
  ttl_eq := h.ttl_eq
  drawn x hx := h.drawn x (by simpa [Issue.event] using hx)
  mem_iff p := by simp only [h.mem_iff, standing_cons_error]
  offered x hx := h.offered x (by simpa [Issue.event] using hx)
  nodup_accounts := h.nodup_accounts

theorem Faithful.issue (h : i.Faithful ttl history st) (y : Issue) {channels : List Channel}
    (hcode : y.info.code = i.codes st.drawn) (hoffered : i.Offered y channels)
    (distinct : ∀ n < st.drawn, i.codes n ≠ i.codes st.drawn) :
    i.Faithful ttl (y.event :: history)
      (issued y.now st { y.record channels with createdAt := none }) := by
  -- Every code in the store was drawn before, so the new one overwrites none of them.
  have fresh : ∀ p ∈ st.store.records, p.1 ≠ y.info.code := by
    intro p hp
    obtain ⟨x, -, hx, -, rfl⟩ := (h.mem_iff p).1 hp
    obtain ⟨n, hn, hdrawn⟩ := h.drawn x hx.event_mem
    rw [hcode, ← hdrawn]
    exact distinct n hn
  have hmem := mem_issued y.now st (r := { y.record channels with createdAt := none }) fresh
  refine ⟨(h.wf.invalidate _).store _ _, h.ttl_eq, ?_, ?_, ?_, ?_⟩
  · intro x hx
    rcases List.mem_cons.1 hx with hx | hx
    · rw [Issue.event_inj hx, hcode]
      exact ⟨st.drawn, Nat.lt_succ_self _, rfl⟩
    · obtain ⟨n, hn, hdrawn⟩ := h.drawn x hx
      exact ⟨n, Nat.lt_succ_of_lt hn, hdrawn⟩
  · intro p
    rw [hmem, h.mem_iff]
    constructor
    · rintro (⟨⟨x, cs, hx, hcs, rfl⟩, haccount⟩ | rfl)
      · exact ⟨x, cs, standing_cons_event.2 (.inr ⟨hx, haccount⟩), hcs, rfl⟩
      · exact ⟨y, channels, standing_cons_event.2 (.inl rfl), hoffered, rfl⟩
    · rintro ⟨x, cs, hx, hcs, rfl⟩
      rcases standing_cons_event.1 hx with rfl | ⟨hx, haccount⟩
      · rw [Offered, hoffered, Except.ok.injEq] at hcs
        exact .inr (by rw [hcs]; rfl)
      · exact .inl ⟨⟨x, cs, hx, hcs, rfl⟩, haccount⟩
  · intro x hx
    rcases List.mem_cons.1 hx with hx | hx
    · rw [Issue.event_inj hx]
      exact ⟨channels, hoffered⟩
    · exact h.offered x hx
  · obtain ⟨kept, hrecords, hsub, -⟩ := MemoryStore.records_store
      (st.store.invalidate y.account) y.now { y.record channels with createdAt := none }
    change (((st.store.invalidate y.account).store y.now _).records.map _).Nodup
    rw [hrecords]
    refine nodup_map_concat ?_ fun p hp => ?_
    · exact h.nodup_accounts.sublist ((hsub.trans List.filter_sublist).map _)
    · exact (MemoryStore.mem_invalidate.1 (hsub.subset hp)).2

theorem Faithful.validate (h : i.Faithful ttl history st) (now : Instant) (code : String)
    (step : Step) (result : Except Failure Record) :
    i.Faithful ttl (.validated now code step result :: history)
      ⟨(st.store.load now code).2, st.drawn⟩ where
  wf := h.wf.load now code
  ttl_eq := MemoryStore.ttl_load.trans h.ttl_eq
  drawn x hx := h.drawn x (by simpa [Issue.event] using hx)
  mem_iff p := by
    rw [h.wf.mem_load, h.mem_iff]
    have hfresh (x : Issue) (channels : List Channel) :
        st.store.isExpired now (x.record channels) = false ↔ now - x.now ≤ ttl := by
      rw [← Bool.not_eq_true, MemoryStore.isExpired_of_createdAt rfl, h.ttl_eq, not_lt]
    constructor
    · rintro ⟨⟨x, channels, hx, hchannels, rfl⟩, hkept⟩
      rw [hfresh] at hkept
      exact ⟨x, channels, standing_cons_validated.2 ⟨hx, hkept⟩, hchannels, rfl⟩
    · rintro ⟨x, channels, hx, hchannels, rfl⟩
      obtain ⟨hx, hkept⟩ := standing_cons_validated.1 hx
      rw [hfresh]
      exact ⟨⟨x, channels, hx, hchannels, rfl⟩, hkept⟩
  offered x hx := h.offered x (by simpa [Issue.event] using hx)
  nodup_accounts := h.nodup_accounts.sublist (MemoryStore.records_load_sublist.map _)

/-- Codes that are drawn without repetition make every state of a run faithful to its history. -/
theorem Run.faithful (run : i.Run ttl history st)
    (distinct : Set.InjOn i.codes {n | n < st.drawn}) : i.Faithful ttl history st := by
  induction run with
  | start => exact faithful_start
  | @resolve history st now q before ih =>
      -- Only a recovery that succeeds draws a code.
      rcases i.resolve_cases now st q with ⟨e, -, hresult, hafter⟩ |
        ⟨username, channels, happrove, hresult, hafter⟩
      · rw [hafter] at distinct ⊢
        rw [hresult]
        exact (ih distinct).resolve_error now q e
      · rw [hafter] at distinct ⊢
        rw [hresult]
        have hbefore : Set.InjOn i.codes {n | n < st.drawn} :=
          distinct.mono fun n hn => Nat.lt_succ_of_lt hn
        have hoffered := ((i.registry.consult_approve_eq_ok_iff _ _ _ _).1 happrove).2.2
        refine (ih hbefore).issue
          ⟨now, q, username, i.codes st.drawn, channelInfos i.service.masker 1 channels⟩ rfl
          hoffered fun n hn heq => ?_
        exact Nat.ne_of_lt hn
          (distinct (Nat.lt_succ_of_lt hn) (Nat.lt_succ_self st.drawn) heq)
  | validate now code step before ih =>
      obtain ⟨-, hafter⟩ := i.validate_eq now _ code step
      rw [hafter] at distinct ⊢
      exact (ih distinct).validate now code step _

theorem Faithful.standing_of_mem (h : i.Faithful ttl history st) {code : String} {r : Record}
    (hr : (code, r) ∈ st.store.records) :
    ∃ x channels, Standing ttl history x ∧ x.info.code = code ∧ i.Offered x channels ∧
      r = x.record channels := by
  obtain ⟨x, channels, hx, hchannels, heq⟩ := (h.mem_iff _).1 hr
  rw [Prod.mk.injEq] at heq
  exact ⟨x, channels, hx, heq.1.symm, hchannels, heq.2⟩

/-- How a validation answers, by the issue of the code that stands. -/
theorem Faithful.validate_cases (h : i.Faithful ttl history st) (now : Instant) (code : String)
    (step : Step) :
    ((∀ x, Standing ttl history x → x.info.code ≠ code) ∧
        faultOf (i.validate now st code step).result = some .invalidCode) ∨
      ∃ x channels, Standing ttl history x ∧ x.info.code = code ∧ i.Offered x channels ∧
        (code, x.record channels) ∈ st.store.records ∧
        (ttl < now - x.now ∧
            faultOf (i.validate now st code step).result = some .expiredCode ∨
          now - x.now ≤ ttl ∧ (i.validate now st code step).result =
            if step = .sendInformation then .ok (x.record channels)
            else .error (refused .invalidCode)) := by
  have hexpired (x : Issue) (channels : List Channel) :
      st.store.isExpired now (x.record channels) = true ↔ ttl < now - x.now := by
    rw [MemoryStore.isExpired_of_createdAt rfl, h.ttl_eq]
  rcases i.validate_cases now st code step h.wf with ⟨hnone, hfault⟩ | ⟨r, hr, hlate, hfault⟩ |
    ⟨r, hr, hfresh, hresult⟩
  · refine .inl ⟨?_, hfault⟩
    rintro x hx rfl
    obtain ⟨channels, -, hmem⟩ := h.mem_of_standing hx
    exact hnone _ hmem
  · obtain ⟨x, channels, hx, hcode, hchannels, rfl⟩ := h.standing_of_mem hr
    exact .inr ⟨x, channels, hx, hcode, hchannels, hr, .inl ⟨(hexpired _ _).1 hlate, hfault⟩⟩
  · obtain ⟨x, channels, hx, hcode, hchannels, rfl⟩ := h.standing_of_mem hr
    refine .inr ⟨x, channels, hx, hcode, hchannels, hr, .inr ⟨?_, ?_⟩⟩
    · rw [← not_lt, ← hexpired x channels, hfresh]
      exact Bool.false_ne_true
    · rw [hresult]
      exact if_congr eq_comm rfl rfl

theorem Faithful.record_eq (h : i.Faithful ttl history st) {x y : Issue} {cs ds : List Channel}
    (hx : Standing ttl history x) (hy : Standing ttl history y)
    (hcode : x.info.code = y.info.code) (hcs : i.Offered x cs) (hds : i.Offered y ds) :
    x.record cs = y.record ds := by
  have hxmem := (h.mem_iff (x.info.code, x.record cs)).2 ⟨x, cs, hx, hcs, rfl⟩
  have hymem := (h.mem_iff (y.info.code, y.record ds)).2 ⟨y, ds, hy, hds, rfl⟩
  rw [← hcode] at hymem
  exact h.wf.record_unique hxmem hymem

/-- At most one record is kept for an account.  A code is valid at the first step only, and only if
no other recovery of the account has succeeded since it was issued and it has never been asked for
after its time, this time included; it is answered with what it was issued for.  A code that is
found to be too old now is told to be expired, and any other that is not valid to be invalid. -/
theorem validate_ok_iff_standing (run : i.Run ttl history st)
    (distinct : Set.InjOn i.codes {n | n < st.drawn}) :
    (st.store.records.map fun p => p.2.account).Nodup ∧
      ∀ now code step,
        (∀ record, (i.validate now st code step).result = .ok record ↔
          step = .sendInformation ∧
            ∃ x channels, Standing ttl history x ∧ x.info.code = code ∧ now - x.now ≤ ttl ∧
              i.Offered x channels ∧ record = x.record channels) ∧
        (faultOf (i.validate now st code step).result = some .expiredCode ↔
          ∃ x, Standing ttl history x ∧ x.info.code = code ∧ ttl < now - x.now) ∧
        ((∃ record, (i.validate now st code step).result = .ok record) ∨
          faultOf (i.validate now st code step).result = some .expiredCode ∨
          faultOf (i.validate now st code step).result = some .invalidCode) := by
  have h := run.faithful distinct
  refine ⟨h.nodup_accounts, fun now code step => ?_⟩
  -- The code has no issue that stands, or its issue is too old, or it is in time.
  rcases h.validate_cases now code step with ⟨hnone, hfault⟩ |
    ⟨x, channels, hx, rfl, hchannels, -, ⟨hlate, hfault⟩ | ⟨hfresh, hresult⟩⟩
  · refine ⟨fun record => ⟨fun hok => ?_, ?_⟩, ⟨fun hexpired => ?_, ?_⟩, .inr (.inr hfault)⟩
    · rw [hok] at hfault
      cases hfault
    · rintro ⟨-, x, channels, hx, hcode, -⟩
      exact (hnone x hx hcode).elim
    · rw [hexpired] at hfault
      cases hfault
    · rintro ⟨x, hx, hcode, -⟩
      exact (hnone x hx hcode).elim
  · refine ⟨fun record => ⟨fun hok => ?_, ?_⟩, ⟨fun _ => ⟨x, hx, rfl, hlate⟩, fun _ => hfault⟩,
      .inr (.inl hfault)⟩
    · rw [hok] at hfault
      cases hfault
    · rintro ⟨-, y, ds, hy, hcode, hfresh, hds, -⟩
      have hnow := congrArg Record.createdAt (h.record_eq hx hy hcode.symm hchannels hds)
      rw [Issue.record, Issue.record, Option.some.injEq] at hnow
      rw [hnow] at hlate
      exact absurd hfresh (not_le.2 hlate)
  · rw [hresult]
    refine ⟨fun record => ⟨fun hok => ?_, ?_⟩, ⟨fun hexpired => ?_, ?_⟩, ?_⟩
    · split at hok
      · next hstep =>
          rw [Except.ok.injEq] at hok
          exact ⟨hstep, x, channels, hx, rfl, hfresh, hchannels, hok.symm⟩
      · cases hok
    · rintro ⟨rfl, y, ds, hy, hcode, -, hds, rfl⟩
      rw [if_pos rfl, h.record_eq hx hy hcode.symm hchannels hds]
    · split at hexpired <;> cases hexpired
    · rintro ⟨y, hy, hcode, hlate⟩
      obtain ⟨ds, hds, -⟩ := h.mem_of_standing hy
      have hnow := congrArg Record.createdAt (h.record_eq hx hy hcode.symm hchannels hds)
      rw [Issue.record, Issue.record, Option.some.injEq] at hnow
      rw [hnow] at hfresh
      exact absurd hfresh (not_le.2 hlate)
    · split
      · exact .inl ⟨_, rfl⟩
      · exact .inr (.inr rfl)

/-- A tenant with one user, who is told of codes outside of this service. -/
def oneUser : Installation where
  service := ⟨{}, ⟨.empty, .empty, '*'⟩, false⟩
  registry := ⟨⟨[(1, [("partners/ann", [("mail", some "a@b.c")])])], []⟩, [("t", 1)], {}⟩
  codes n := if n = 0 then "first" else "second"

def oneUserRequest (scenario : Scenario) : RecoveryRequest :=
  ⟨[("mail", "a@b.c")], "t", scenario, []⟩

/-- The clock goes back between two recoveries for different reasons.  The second code is still good
after it was tried at a wrong step, and its record is the only one of the account. -/
theorem validate_ok_iff_standing_oneUser :
    ∃ history st, oneUser.Run 3 history st ∧ Set.InjOn oneUser.codes {n | n < st.drawn} ∧
      history.length = 3 ∧ (st.store.records.map fun p => p.2.account).Nodup ∧
      (oneUser.validate 7 st "second" .sendInformation).result =
        .ok ⟨⟨"ann", "t", "PARTNERS"⟩, "second", .passwordByQuestion, .sendInformation,
          "EXTERNAL:,", some 4⟩ := by
  have begun : oneUser.Run 3 [] ⟨⟨3, []⟩, 0⟩ := .start
  have run := ((begun.resolve 10 (oneUserRequest .username)).resolve 4
    (oneUserRequest .passwordByQuestion)).validate 5 "second" .updatePassword
  have distinct : ∀ n < 2, ∀ m < 2, oneUser.codes n = oneUser.codes m → n = m := by decide
  have h := validate_ok_iff_standing run fun n hn m hm => distinct n hn m hm
  refine ⟨_, _, run, fun n hn m hm => distinct n hn m hm, rfl, h.1, ?_⟩
  refine ((h.2 7 "second" .sendInformation).1 _).2 ⟨rfl,
    ⟨4, oneUserRequest .passwordByQuestion, "partners/ann", "second", [⟨1, .external, "", false⟩]⟩,
    [⟨.external, "", false, false⟩], ⟨[_], [_], rfl, ?_, ?_⟩, rfl, by decide, rfl, rfl⟩
  · simp [Issue.event]
  · simp only [List.mem_singleton, Event.validated.injEq]
    rintro now step result ⟨rfl, -⟩
    decide

end Installation

end AccountRecovery

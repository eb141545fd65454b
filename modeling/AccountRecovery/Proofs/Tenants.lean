import AccountRecovery.Proofs.LifeCycle
import AccountRecovery.Proofs.SearchScope
/-!
# Isolation of tenants

A recovery names its tenant twice: the directory is asked with the id of the tenant, and accounts
and records carry its domain.  The id is an answer of the tenant registry, so what a recovery asks
for depends on that answer.  Up to the issue of a code, all questions are within the tenant if the
domain is known by that id (`confinedWhere_approve`).

Main statement: a recovery goes alike in installations that differ only in what they hold of other
tenants, and it leaves the records of those alone (`tenants_isolated`).
-/

namespace AccountRecovery

open Dialogue Recovery

/-! ## Questions within a tenant -/

def Call.IsWithin (tenantDomain : String) (id : Int) : Call → Prop
  | tenantId asked => asked = tenantDomain
  | findUsers asked _ _ => asked = id
  | claimValues asked _ _ => asked = id
  | secondaryStoreExists asked _ => asked = id
  | isDisabled a => a.tenantDomain = tenantDomain
  | isLocked a => a.tenantDomain = tenantDomain
  | load _ => False
  | store _ => False
  | invalidate _ => False

theorem Call.IsWithin.of_searchesIn {q : Call} {id : Int} (tenantDomain : String)
    (h : q.searchesIn id = true) : q.IsWithin tenantDomain id := by
  cases q <;> simp_all [searchesIn, IsWithin]

theorem Call.IsWithin.of_asksStatusOf {q : Call} {a : Account} (id : Int) (h : q.asksStatusOf a) :
    q.IsWithin a.tenantDomain id := by
  rcases h with rfl | rfl <;> rfl

/-- Registries that hold the same about a tenant, which is known by the id. -/
structure Registry.Agree (tenantDomain : String) (id : Int) (r r' : Registry) : Prop where
  known : r.tenants.lookup tenantDomain = some id
  known' : r'.tenants.lookup tenantDomain = some id
  users : r'.directory.usersOf id = r.directory.usersOf id
  stores : r'.directory.storesOf id = r.directory.storesOf id
  disabled : ∀ a, a.tenantDomain = tenantDomain →
    (a ∈ r'.statuses.disabled ↔ a ∈ r.statuses.disabled)
  locked : ∀ a, a.tenantDomain = tenantDomain → (a ∈ r'.statuses.locked ↔ a ∈ r.statuses.locked)

namespace Registry

variable {tenantDomain : String} {id : Int} {r r' : Registry} {σ τ : Type}

theorem answer_tenantId (known : r.tenants.lookup tenantDomain = some id) (records : RecordStore σ)
    (s : σ) : (r.answer records (.tenantId tenantDomain) s).1 = .ok id := by
  simp only [answer, TenantRegistry.idOf, known]

theorem Agree.answer_eq (agree : Agree tenantDomain id r r') (records : RecordStore σ)
    (records' : RecordStore τ) (q : Call) (s : σ) (t : τ) (within : q.IsWithin tenantDomain id) :
    (r'.answer records' q t).1 = (r.answer records q s).1 := by
  have hstore (name : String) : r'.directory.hasStore id name = r.directory.hasStore id name := by
    rw [Bool.eq_iff_iff, Directory.hasStore_iff, Directory.hasStore_iff, agree.stores]
  cases q with
  | tenantId asked =>
      cases within
      rw [answer_tenantId agree.known', answer_tenantId agree.known]
  | findUsers asked key value =>
      cases within
      simp only [answer, Directory.findUsers, Directory.searchScope, agree.users, hstore]
  | claimValues asked username keys =>
      cases within
      simp only [answer, Directory.claimValues, Directory.claimsOf, agree.users]
  | secondaryStoreExists asked name =>
      cases within
      simp only [answer, hstore]
  | isDisabled a => simp only [answer, List.contains_eq_mem, agree.disabled a within]
  | isLocked a => simp only [answer, List.contains_eq_mem, agree.locked a within]
  | load code => exact within.elim
  | store record => exact within.elim
  | invalidate a => exact within.elim

end Registry

/-! ## Dialogues within a tenant -/

namespace Dialogue

variable {α β σ τ : Type} {known : (q : Call) → q.Answer → Prop} {P Q : Call → Prop}

/-- As long as the answers are among those that are known, no question but those of `P` is asked and
no code is taken. -/
def ConfinedWhere (known : (q : Call) → q.Answer → Prop) (P : Call → Prop) : Dialogue α → Prop
  | done _ => True
  | fail _ => True
  | ask q next => P q ∧ ∀ r, known q r → (next r).ConfinedWhere known P
  | note _ next => next.ConfinedWhere known P
  | newCode _ => False

theorem Confined.confinedWhere {d : Dialogue α} (hd : d.Confined P) : d.ConfinedWhere known P := by
  induction d with
  | done a => trivial
  | fail e => trivial
  | ask q next ih => exact ⟨hd.1, fun r _ => ih r (hd.2 r)⟩
  | note entry next ih => exact ih hd
  | newCode next ih => exact hd.elim

theorem ConfinedWhere.bind {d : Dialogue α} {f : α → Dialogue β} (hd : d.ConfinedWhere known P)
    (hf : ∀ a, (f a).ConfinedWhere known P) : (d.bind f).ConfinedWhere known P := by
  induction d with
  | done a => exact hf a
  | fail e => trivial
  | ask q next ih => exact ⟨hd.1, fun r hr => ih r (hd.2 r hr)⟩
  | note entry next ih => exact ih hd
  | newCode next ih => exact hd.elim

theorem confinedWhere_call_bind {q : Call} (hq : P q) {f : q.Reply → Dialogue β}
    (hf : ∀ a, known q (.ok a) → (f a).ConfinedWhere known P) :
    ((call q).bind f).ConfinedWhere known P := by
  refine ⟨hq, fun r hr => ?_⟩
  cases r with
  | ok a => exact hf a hr
  | error e => trivial

/-- Collaborators that give known answers, and the same ones, make the dialogue go alike. -/
theorem ConfinedWhere.run_agree {d : Dialogue α} (hd : d.ConfinedWhere known P)
    {answer : Handler σ} {answer' : Handler τ}
    (agree : ∀ q s t, P q → (answer' q t).1 = (answer q s).1)
    (knows : ∀ q s, P q → known q (answer q s).1) (codes codes' : CodeSource) (s : σ) (t : τ)
    (n m : Nat) :
    (d.run answer' codes' t m).result = (d.run answer codes s n).result ∧
      (d.run answer' codes' t m).calls = (d.run answer codes s n).calls := by
  induction d generalizing s t with
  | done a => exact ⟨rfl, rfl⟩
  | fail e => exact ⟨rfl, rfl⟩
  | ask q next ih =>
      have hq := agree q s t hd.1
      obtain ⟨hresult, hcalls⟩ :=
        ih (answer q s).1 (hd.2 _ (knows q s hd.1)) (answer q s).2 (answer' q t).2
      simp only [run, hq]
      exact ⟨hresult, congrArg (q :: ·) hcalls⟩
  | note entry next ih => exact ih hd s t
  | newCode next ih => exact hd.elim

end Dialogue

def Call.knows (tenantDomain : String) (id : Int) : (q : Call) → q.Answer → Prop
  | tenantId asked, r => asked = tenantDomain → r = .ok id
  | _, _ => True

theorem Registry.knows_answer {tenantDomain : String} {id : Int} {r : Registry} {σ : Type}
    (known : r.tenants.lookup tenantDomain = some id) (records : RecordStore σ) (q : Call) (s : σ) :
    q.knows tenantDomain id (r.answer records q s).1 := by
  cases q with
  | tenantId asked =>
      rintro rfl
      exact answer_tenantId known records s
  | _ => trivial

namespace Service

variable (s : Service) (q : RecoveryRequest) (id : Int)

theorem confinedWhere_resolveUser (claims : Claims) (tenantDomain : String) :
    (resolveUser claims tenantDomain).ConfinedWhere (Call.knows tenantDomain id)
      (·.IsWithin tenantDomain id) := by
  unfold resolveUser
  split
  · trivial
  · refine confinedWhere_call_bind ?_ fun asked hasked => ?_
    · rfl
    obtain rfl := Except.ok.inj (hasked rfl)
    refine (Confined.confinedWhere ?_).bind fun found => ?_
    · exact (confined_candidatesFor _ _ _).mono fun _ => Call.IsWithin.of_searchesIn tenantDomain
    · split <;> trivial

theorem confinedWhere_offer (username : String) :
    (s.offer q username).ConfinedWhere (Call.knows q.tenantDomain id)
      (·.IsWithin q.tenantDomain id) := by
  unfold offer selectChannels
  split
  · refine ConfinedWhere.bind ?_ fun values => ?_
    · refine confinedWhere_call_bind ?_ fun asked hasked => ?_
      · rfl
      obtain rfl := Except.ok.inj (hasked rfl)
      refine Confined.confinedWhere ?_
      refine Confined.rescue (confined_call rfl) fun e => ?_
      split <;> trivial
    · split
      · trivial
      · refine (confined_ofExcept _).confinedWhere.bind fun selfRegistered => ?_
        change ConfinedWhere _ _ (ite _ _ _)
        split <;> trivial
  · trivial

/-- Up to the issue of a code, a recovery asks for what its tenant has. -/
theorem confinedWhere_approve :
    (s.approve q).ConfinedWhere (Call.knows q.tenantDomain id) (·.IsWithin q.tenantDomain id) := by
  refine (confinedWhere_resolveUser id _ _).bind fun username => ?_
  refine ((confined_clear _).mono fun _ => ?_).confinedWhere.bind fun _ => ?_
  · exact Call.IsWithin.of_asksStatusOf id
  · exact (s.confinedWhere_offer q id username).bind fun channels => trivial

end Service

namespace Installation

variable {i i' : Installation} {q : RecoveryRequest} {id : Int} (now : Instant) {st st' : State}

/-- The stages before a code is issued come to the same, by the same questions. -/
theorem approval_alike (st st' : State) (service : i'.service = i.service)
    (registry : Registry.Agree q.tenantDomain id i.registry i'.registry) :
    i'.registry.consult (i'.service.approve q) = i.registry.consult (i.service.approve q) ∧
      (i'.approval now st' q).calls = (i.approval now st q).calls := by
  have hagree {σ τ : Type} (records : RecordStore σ) (records' : RecordStore τ)
      (codes codes' : CodeSource) (s : σ) (t : τ) (n m : Nat) :=
    (i.service.confinedWhere_approve q id).run_agree
      (fun q s t => registry.answer_eq records records' q s t)
      (fun q s _ => Registry.knows_answer registry.known records q s) codes codes' s t n m
  unfold approval
  rw [service]
  exact ⟨(hagree .empty .empty _ _ () () 0 0).1, (hagree _ _ _ _ _ _ _ _).2⟩

theorem mem_resolve_of_other (fresh : ∀ p ∈ st.store.records, p.1 ≠ i.codes st.drawn)
    {p : String × Record} (other : p.2.account.tenantDomain ≠ q.tenantDomain) :
    p ∈ (i.resolve now st q).state.records ↔ p ∈ st.store.records := by
  rw [resolve_eq]
  cases i.registry.consult (i.service.approve q) with
  | error e => exact Iff.rfl
  | ok approved =>
      obtain ⟨username, channels⟩ := approved
      have hold : p.2.account ≠ (i.nextRecord st q username channels).account :=
        fun h => other (congrArg Account.tenantDomain h)
      have hnew : p ≠ (i.codes st.drawn,
          { i.nextRecord st q username channels with createdAt := some now }) :=
        fun h => other (congrArg (·.2.account.tenantDomain) h)
      exact (mem_issued now st fresh p).trans
        ⟨fun h => (h.resolve_right hnew).1, fun h => .inl ⟨h, hold⟩⟩

/-- Tenants are isolated.  Of two installations that hold the same about a tenant, each recovers an
account of it by the same questions and with the same answer or failure, if both are at the same new
code; and the records that they have of the tenant are the same afterwards if they were before.
Records of other tenants are left as they are. -/
theorem tenants_isolated (i i' : Installation) (now : Instant) (st st' : State)
    (q : RecoveryRequest) (service : i'.service = i.service)
    (registry : Registry.Agree q.tenantDomain id i.registry i'.registry)
    (code : i'.codes st'.drawn = i.codes st.drawn)
    (fresh : ∀ p ∈ st.store.records, p.1 ≠ i.codes st.drawn)
    (fresh' : ∀ p ∈ st'.store.records, p.1 ≠ i'.codes st'.drawn)
    (records : ∀ p, p.2.account.tenantDomain = q.tenantDomain →
      (p ∈ st'.store.records ↔ p ∈ st.store.records)) :
    let o := i.resolve now st q
    let o' := i'.resolve now st' q
    o'.calls = o.calls ∧ o'.result = o.result ∧
      (∀ p, p.2.account.tenantDomain = q.tenantDomain →
        (p ∈ o'.state.records ↔ p ∈ o.state.records)) ∧
      ∀ p, p.2.account.tenantDomain ≠ q.tenantDomain →
        (p ∈ o.state.records ↔ p ∈ st.store.records) ∧
          (p ∈ o'.state.records ↔ p ∈ st'.store.records) := by
  obtain ⟨hconsult, hcalls⟩ := approval_alike now st st' service registry
  have hnext (username : String) (channels : List Channel) :
      i'.nextRecord st' q username channels = i.nextRecord st q username channels := by
    rw [nextRecord, nextRecord, code]
  have hother (p : String × Record) (hp : p.2.account.tenantDomain ≠ q.tenantDomain) :
      (p ∈ (i.resolve now st q).state.records ↔ p ∈ st.store.records) ∧
        (p ∈ (i'.resolve now st' q).state.records ↔ p ∈ st'.store.records) :=
    ⟨mem_resolve_of_other now fresh hp, mem_resolve_of_other now fresh' hp⟩
  rw [code] at fresh'
  dsimp only
  rw [← and_assoc, ← and_assoc]
  refine ⟨?_, hother⟩
  rw [resolve_eq, resolve_eq, hconsult, hcalls, service]
  cases i.registry.consult (i.service.approve q) with
  | error e => exact ⟨⟨rfl, rfl⟩, records⟩
  | ok approved =>
      obtain ⟨username, channels⟩ := approved
      dsimp only
      rw [hnext]
      refine ⟨⟨rfl, rfl⟩, fun p hp => ?_⟩
      rw [mem_issued now st fresh, mem_issued now st' fresh', records p hp]

/-- Another tenant has a user of its own with the same mail address, and a record of it is stored.
The recovery in the one tenant goes as without that, and the record is still there. -/
theorem tenants_isolated_twoTenants :
    let ann : TenantUsers := [("partners/ann", [("mail", some "a@b.c")])]
    let twoTenants : Installation := { oneUser with
      registry := ⟨⟨[(2, [("zoe", [("mail", some "a@b.c")])]), (1, ann)], [(2, ["PARTNERS"])]⟩,
        [("t", 1), ("u", 2)], ⟨[⟨"zoe", "u", "PRIMARY"⟩], []⟩⟩ }
    let zoes : String × Record := ("other",
      ⟨⟨"ann", "u", "PARTNERS"⟩, "other", .username, .sendInformation, "EXTERNAL:,", some 0⟩)
    let st : State := ⟨⟨3, []⟩, 0⟩
    let st' : State := ⟨⟨3, [zoes]⟩, 0⟩
    Registry.Agree "t" 1 oneUser.registry twoTenants.registry ∧
      (oneUser.resolve 10 st (oneUserRequest .username)).result =
        .ok ⟨"partners/ann", "first", [⟨1, .external, "", false⟩]⟩ ∧
      (twoTenants.resolve 10 st' (oneUserRequest .username)).result =
        (oneUser.resolve 10 st (oneUserRequest .username)).result ∧
      zoes ∈ (twoTenants.resolve 10 st' (oneUserRequest .username)).state.records := by
  intro ann twoTenants zoes st st'
  have agree : Registry.Agree "t" 1 oneUser.registry twoTenants.registry := {
    known := by decide
    known' := by decide
    users := by decide
    stores := by decide
    disabled a ha := by
      have hzoe : a ≠ ⟨"zoe", "u", "PRIMARY"⟩ := by
        rintro rfl
        revert ha
        decide
      simpa [twoTenants, oneUser] using hzoe
    locked a ha := Iff.rfl }
  have fresh' : ∀ p ∈ st'.store.records, p.1 ≠ twoTenants.codes st'.drawn := by decide
  have records (p : String × Record) (hp : p.2.account.tenantDomain = "t") :
      p ∈ st'.store.records ↔ p ∈ st.store.records := by
    have hzoes : p ≠ zoes := by
      rintro rfl
      revert hp
      decide
    simpa [st, st'] using hzoes
  obtain ⟨-, hresult, -, hother⟩ := tenants_isolated oneUser twoTenants 10 st st'
    (oneUserRequest .username) rfl agree rfl (by decide) fresh' records
  refine ⟨agree, by decide, hresult, ?_⟩
  exact (hother zoes (by decide)).2.2 (by decide)

end Installation

end AccountRecovery

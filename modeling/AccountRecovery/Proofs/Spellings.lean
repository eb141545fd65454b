import AccountRecovery.Proofs.Clearance
import AccountRecovery.Proofs.Columns
import AccountRecovery.Proofs.Consulting
/-!
# Spellings of an account

A raw name tells the store of its user in any case, or not at all if that is the primary store.  The
account of the name does not depend on this: it holds the store in the one form that upper-casing
leaves (`isStoreName_storeDomain`), and written out in full it is read as itself again
(`ofRawName_qualifiedName`).  So the raw names of an account are just its spellings
(`ofRawName_eq_iff_spells`).

What follows for recoveries is told once for the account of the user who is found.  Whatever is
asked about an account is asked about this one (`Service.account_of_mem_recover`).  In both stores
its records give way to the new one, however the user was spelled for whom they were issued
(`Installation.recordsOf_resolve`, `Database.selects_deleteAccount_iff`,
`Database.displaces_upsertRecord_iff`).
-/

namespace AccountRecovery

open Dialogue Recovery

attribute [ext] Account

/-! ## Raw names with a store -/

namespace Account

variable {name rest spelling store tenantDomain : String} {a : Account}

def qualify (store name : String) : String :=
  store.push separator ++ name

def qualifiedName (a : Account) : String :=
  qualify a.storeDomain a.username

theorem toList_qualify :
    (qualify store name).toList = store.toList ++ separator :: name.toList := by
  simp [qualify]

theorem cutStore?_qualify (hne : store ≠ "") (hplain : separator ∉ store.toList) :
    cutStore? (qualify store name) = some (store.toList, name.toList) := by
  rw [cutStore?, toList_qualify, Text.cut?_append hplain]
  cases hstore : store.toList with
  | nil => exact (hne (String.toList_eq_nil_iff.1 hstore)).elim
  | cons c cs => rfl

theorem ofRawName_qualify (hne : store ≠ "") (hplain : separator ∉ store.toList) :
    ofRawName (qualify store name) tenantDomain = ⟨name, tenantDomain, Text.upper store⟩ := by
  simp only [ofRawName, nameWithin, storeOf, cutStore?_qualify hne hplain, String.ofList_toList]

/-- A name that carries no store: it has no slash, or nothing stands before the first one. -/
def Bare (name : String) : Prop :=
  separator ∉ name.toList ∨ ∃ cs, name.toList = separator :: cs

theorem ofRawName_of_bare (h : Bare name) :
    ofRawName name tenantDomain = ⟨name, tenantDomain, primaryStore⟩ := by
  have hcut : cutStore? name = none := by
    rcases h with hplain | ⟨cs, hcs⟩
    · rw [cutStore?, Text.cut?_eq_none_iff.2 hplain]
    · rw [cutStore?, hcs, Text.cut?, if_pos rfl]
  simp only [ofRawName, nameWithin, storeOf, hcut]

theorem bare_or_qualify (name : String) :
    Bare name ∨
      ∃ store rest, name = qualify store rest ∧ store ≠ "" ∧ separator ∉ store.toList := by
  cases hcut : Text.cut? separator name.toList with
  | none => exact .inl (.inl (Text.cut?_eq_none_iff.1 hcut))
  | some cut =>
      obtain ⟨front, rest⟩ := cut
      obtain ⟨hname, hplain⟩ := Text.eq_of_cut?_eq_some hcut
      cases front with
      | nil => exact .inl (.inr ⟨rest, hname⟩)
      | cons c front =>
          refine .inr ⟨String.ofList (c :: front), String.ofList rest, ?_, by simp, ?_⟩
          · rw [← String.toList_inj, toList_qualify, hname, String.toList_ofList,
              String.toList_ofList]
          · rwa [String.toList_ofList]

/-! ## Stores in their one form -/

structure IsStoreName (store : String) : Prop where
  ne_empty : store ≠ ""
  plain : separator ∉ store.toList
  upper_eq : Text.upper store = store

theorem isStoreName_upper (hne : store ≠ "") (hplain : separator ∉ store.toList) :
    IsStoreName (Text.upper store) where
  ne_empty := mt Text.upper_eq_empty_iff.1 hne
  plain := mt Text.separator_mem_upper.1 hplain
  upper_eq := Text.upper_upper store

theorem isStoreName_primaryStore : IsStoreName primaryStore := by
  constructor <;> decide

theorem isStoreName_storeDomain (name tenantDomain : String) :
    IsStoreName (ofRawName name tenantDomain).storeDomain := by
  rcases bare_or_qualify name with hbare | ⟨store, rest, rfl, hne, hplain⟩
  · rw [ofRawName_of_bare hbare]
    exact isStoreName_primaryStore
  · rw [ofRawName_qualify hne hplain]
    exact isStoreName_upper hne hplain

theorem ofRawName_qualify_of_upper (ha : IsStoreName a.storeDomain)
    (hstore : Text.upper store = a.storeDomain) :
    ofRawName (qualify store a.username) a.tenantDomain = a := by
  have hne : store ≠ "" := fun h => ha.ne_empty (hstore ▸ Text.upper_eq_empty_iff.2 h)
  have hplain : separator ∉ store.toList :=
    fun h => ha.plain (hstore ▸ Text.separator_mem_upper.2 h)
  rw [ofRawName_qualify hne hplain, hstore]

theorem ofRawName_qualifiedName (ha : IsStoreName a.storeDomain) :
    ofRawName a.qualifiedName a.tenantDomain = a :=
  ofRawName_qualify_of_upper ha ha.upper_eq

/-- A slash in front of a name stays there behind the store. -/
example : (ofRawName "/ann" "t").qualifiedName = "PRIMARY//ann" := by
  decide +kernel

/-! ## Spellings -/

/-- The spellings of an account: its store in any case and the username, or the username alone, if
the store is the primary one and the username carries none. -/
inductive Spells (a : Account) : String → Prop
  | qualified (store : String) (same : Text.upper store = a.storeDomain) :
      Spells a (qualify store a.username)
  | plain (primary : a.storeDomain = primaryStore) (bare : Bare a.username) : Spells a a.username

/-- The raw names of an account are its spellings, and no others. -/
theorem ofRawName_eq_iff_spells (ha : IsStoreName a.storeDomain) :
    ofRawName spelling a.tenantDomain = a ↔ a.Spells spelling := by
  constructor
  · intro h
    rcases bare_or_qualify spelling with hbare | ⟨store, rest, rfl, hne, hplain⟩
    · rw [ofRawName_of_bare hbare] at h
      obtain rfl : spelling = a.username := congrArg username h
      exact .plain (congrArg storeDomain h).symm hbare
    · rw [ofRawName_qualify hne hplain] at h
      obtain rfl : rest = a.username := congrArg username h
      exact .qualified store (congrArg storeDomain h)
  · intro h
    cases h with
    | qualified store same => exact ofRawName_qualify_of_upper ha same
    | plain primary bare => rw [ofRawName_of_bare bare, ← primary]

end Account

/-! ## What is asked about an account -/

def Call.account? : Call → Option Account
  | isDisabled a => some a
  | isLocked a => some a
  | store r => some r.account
  | invalidate a => some a
  | _ => none

theorem Call.account?_of_isLookup {q : Call} (h : q.isLookup = true) : q.account? = none := by
  cases q <;> first | rfl | cases h

theorem Call.account?_of_asksStatusOf {a : Account} {q : Call} (h : q.asksStatusOf a) :
    q.account? = some a := by
  rcases h with rfl | rfl <;> rfl

theorem Call.account?_of_asksChannelsOf {s : Selector} {username tenantDomain : String} {q : Call}
    (h : q.asksChannelsOf s username tenantDomain) : q.account? = none := by
  rcases h with rfl | ⟨id, rfl⟩ <;> rfl

namespace Service

variable {σ : Type} {answer : Handler σ} {codes : CodeSource} {st : σ} {n : Nat} {s : Service}
  {q : RecoveryRequest} {u : String} {b : Account} {x : Exchange}

theorem account_of_mem_conclude {approved : String × List Channel}
    (hx : x ∈ (s.conclude q approved).exchanges answer codes st n) (hb : x.call.account? = some b) :
    b = .ofRawName approved.1 q.tenantDomain := by
  obtain ⟨record, r, stored, haccount, hconclude, hstored⟩ :=
    s.conclude_exchanges answer codes st n q approved
  rw [hconclude, List.mem_cons] at hx
  rcases hx with rfl | hx
  · exact (Option.some.inj hb).symm.trans haccount
  · rcases hstored with rfl | ⟨-, r', rfl⟩
    · cases hx
    · rw [List.mem_singleton.1 hx] at hb
      exact (Option.some.inj hb).symm.trans haccount

/-- However the collaborators answer, they are asked about the account of the user who is found and
about no other. -/
theorem account_of_mem_recover
    (hfound : ((resolveUser q.claims q.tenantDomain).run answer codes st n).result = .ok u)
    (hx : x ∈ (s.recover q).exchanges answer codes st n) (hb : x.call.account? = some b) :
    b = .ofRawName u q.tenantDomain := by
  -- The search and the offer ask about no account, the other two stages about that of the user.
  rw [recover_stages, mem_exchanges_bind] at hx
  rcases hx with hx | ⟨v, hv, hx⟩
  · have hlookup := (confined_resolveUser _ _).exchanges answer codes st n x hx
    rw [Call.account?_of_isLookup hlookup] at hb
    cases hb
  · rw [hfound, Except.ok.injEq] at hv
    subst hv
    rw [mem_exchanges_bind] at hx
    rcases hx with hx | ⟨⟨⟩, -, hx⟩
    · have hstatus := (confined_clear _).exchanges answer codes _ _ x hx
      rw [Call.account?_of_asksStatusOf hstatus] at hb
      exact (Option.some.inj hb).symm
    · rw [mem_exchanges_bind] at hx
      rcases hx with hx | ⟨channels, -, hx⟩
      · have hchannels := (s.confined_offer q u).exchanges answer codes _ _ x hx
        rw [Call.account?_of_asksChannelsOf hchannels] at hb
        cases hb
      · exact account_of_mem_conclude hx hb

end Service

/-! ## What becomes of the records of an account -/

namespace MemoryStore

def recordsOf (s : MemoryStore) (a : Account) : List (String × Record) :=
  s.records.filter fun p => p.2.account = a

theorem recordsOf_store_invalidate (s : MemoryStore) (now : Instant) (r : Record) :
    ((s.invalidate r.account).store now r).recordsOf r.account =
      [(r.code, { r with createdAt := some now })] := by
  obtain ⟨kept, hrecords, hsub, -⟩ := records_store (s.invalidate r.account) now r
  have hothers : kept.filter (fun p => p.2.account = r.account) = [] := by
    rw [List.filter_eq_nil_iff]
    intro p hp
    simpa using (mem_invalidate.1 (hsub.subset hp)).2
  rw [recordsOf, hrecords, List.filter_append, hothers]
  simp

end MemoryStore

namespace Installation

/-- A recovery that succeeds leaves its user the record of the new code, and no other. -/
theorem recordsOf_resolve {i : Installation} {now : Instant} {st : State} {q : RecoveryRequest}
    {u : String} {info : RecoveryInfo}
    (hfound : i.registry.consult (resolveUser q.claims q.tenantDomain) = .ok u)
    (hresult : (i.resolve now st q).result = .ok info) :
    ∃ record : Record, record.account = .ofRawName u q.tenantDomain ∧ record.code = info.code ∧
      (i.resolve now st q).after.store.recordsOf record.account = [(info.code, record)] := by
  rcases i.resolve_cases now st q with ⟨e, -, herror, -⟩ | ⟨v, channels, happrove, hok, hafter⟩
  · rw [herror] at hresult
    cases hresult
  · have hv := ((i.registry.consult_approve_eq_ok_iff _ _ _ _).1 happrove).1
    rw [hfound, Except.ok.injEq] at hv
    subst hv
    rw [hok] at hresult
    cases hresult
    rw [hafter]
    exact ⟨{ i.nextRecord st q u channels with createdAt := some now }, rfl, rfl,
      MemoryStore.recordsOf_store_invalidate st.store now (i.nextRecord st q u channels)⟩

end Installation

namespace Database

variable {a : Account} {r r' : Record} {created created' : Instant}

/-- The columns in which an insertion must not agree with a row, or it takes its place. -/
def conflictColumns (text : String) : List String :=
  itemsBetween "ON CONFLICT (" ")" ", " text.toList

def Displaces (text : String) (added row : TableRow) : Prop :=
  ∀ column ∈ conflictColumns text, row.lookup column = added.lookup column

theorem conflictColumns_upsertRecord :
    conflictColumns Statement.upsertRecord.text =
      ["tenant_domain", "user_store_domain", "username", "scenario"] := by
  delta conflictColumns Statement.text
  simp only [commaList, String.toList_append, String.toList_intercalate]
  decide +kernel

theorem lookup_tableRow (r : Record) (created : Instant) :
    let row := tableRow r created
    row.lookup "username" = some (.text r.account.username) ∧
      row.lookup "tenant_domain" = some (.text r.account.tenantDomain) ∧
      row.lookup "user_store_domain" = some (.text r.account.storeDomain) ∧
      row.lookup "scenario" = some (.text r.scenario.name) :=
  ⟨rfl, rfl, rfl, rfl⟩

theorem selects_deleteAccount_iff :
    Selects Statement.deleteAccount.text (accountParams a) (tableRow r created) ↔
      r.account = a := by
  -- The parameters are what a record of the account has in these columns.
  let stored : Record := { r with account := a }
  have hstored : ["username", "tenant_domain", "user_store_domain"].map
      ((tableRow stored created).lookup ·) = (accountParams a).map some := rfl
  rw [selects_iff comparedColumns?_deleteAccount (by simp [accountParams]) hstored]
  simp [lookup_tableRow, stored, Account.ext_iff]

theorem scenarioName_inj {s s' : Scenario} : s.name = s'.name ↔ s = s' := by
  refine ⟨fun h => ?_, congrArg _⟩
  have hread : Scenario.read s.name = Scenario.read s'.name := congrArg _ h
  rwa [read_name, read_name, Except.ok.injEq] at hread

/-- A record takes the place of one for the same account and scenario, and of no other. -/
theorem displaces_upsertRecord_iff :
    Displaces Statement.upsertRecord.text (tableRow r created) (tableRow r' created') ↔
      r'.account = r.account ∧ r'.scenario = r.scenario := by
  simp only [Displaces, conflictColumns_upsertRecord, List.forall_mem_cons, lookup_tableRow,
    Option.some.injEq, Cell.text.injEq, Account.ext_iff, ← scenarioName_inj]
  constructor
  · rintro ⟨htenant, hstore, husername, hscenario, -⟩
    exact ⟨⟨husername, htenant, hstore⟩, hscenario⟩
  · rintro ⟨⟨husername, htenant, hstore⟩, hscenario⟩
    exact ⟨htenant, hstore, husername, hscenario, by simp⟩

end Database

/-! ## Accounts of raw names -/

namespace Account

open Database

/-- A recovery of the user of a raw name is one of the account. -/
structure RecoveredAs (a : Account) (spelling : String) : Prop where
  /-- However the collaborators answer, no question is about another account. -/
  asked : ∀ {σ : Type} (answer : Handler σ) (codes : CodeSource) (st : σ) (n : Nat) (s : Service)
    (q : RecoveryRequest), q.tenantDomain = a.tenantDomain →
    ((resolveUser q.claims q.tenantDomain).run answer codes st n).result = .ok spelling →
    ∀ x ∈ (s.recover q).exchanges answer codes st n, ∀ b, x.call.account? = some b → b = a
  /-- The user is refused if the account is disabled or locked, and only then. -/
  checked : ∀ r : Registry, r.consult (clear (.ofRawName spelling a.tenantDomain)) =
    if a ∈ r.statuses.disabled then .error (Registry.refusal .accountDisabled (some a.username))
    else if a ∈ r.statuses.locked then .error (Registry.refusal .accountLocked (some a.username))
    else .ok ()
  /-- In memory, the account is left with the record of the new code, whatever it had before. -/
  superseded : ∀ (i : Installation) (now : Instant) (st : Installation.State)
    (q : RecoveryRequest) (info : RecoveryInfo), q.tenantDomain = a.tenantDomain →
    i.registry.consult (resolveUser q.claims q.tenantDomain) = .ok spelling →
    (i.resolve now st q).result = .ok info →
    ∃ record : Record, record.account = a ∧ record.code = info.code ∧
      (i.resolve now st q).after.store.recordsOf a = [(info.code, record)]
  /-- In the database, the rows of the account are deleted, and no others. -/
  invalidated : ∀ p : Pool, p.failure? .connection = none →
    ∃ doomed, executed (Database.invalidate (.ofRawName spelling a.tenantDomain)) p =
        [(.deleteAccount, doomed)] ∧
      ∀ r created, Selects Statement.deleteAccount.text doomed (tableRow r created) ↔
        r.account = a
  /-- In the database, a new row takes the place of one for the account and the scenario. -/
  replaced : ∀ (p : Pool) (r : Record) (created : Instant), p.failure? .connection = none →
    r.account = .ofRawName spelling a.tenantDomain →
    ∃ params added, executed (Database.store r) p = [(.upsertRecord, params)] ∧
      inserted? Statement.upsertRecord.text params created = some added ∧
      ∀ r' created', Displaces Statement.upsertRecord.text added (tableRow r' created') ↔
        r'.account = a ∧ r'.scenario = r.scenario

theorem recoveredAs_ofRawName {a : Account} {spelling : String}
    (h : ofRawName spelling a.tenantDomain = a) : a.RecoveredAs spelling where
  asked answer codes st n s q htenant hfound x hx b hb := by
    rw [Service.account_of_mem_recover hfound hx hb, htenant, h]
  checked r := by
    rw [h]
    exact (r.consult_clear a).1
  superseded i now st q info htenant hfound hresult := by
    obtain ⟨record, haccount, hcode, hrecords⟩ :=
      Installation.recordsOf_resolve hfound hresult
    rw [htenant, h] at haccount
    rw [haccount] at hrecords
    exact ⟨record, haccount, hcode, hrecords⟩
  invalidated p lent := by
    rw [h]
    exact ⟨_, executed_write _ _ lent, fun r created => selects_deleteAccount_iff⟩
  replaced p r created lent hr := by
    refine ⟨_, _, executed_write _ _ lent, inserted?_upsertRecord r created,
      fun r' created' => ?_⟩
    rw [displaces_upsertRecord_iff, hr, h]

/-- The account of a raw name does not depend on how its store is spelled.  The store is not empty,
has no slash and is in upper case; written out in front of the username, it is read as the same
account; and a store in front of the raw name may be changed into any text that is the same in upper
case.  The raw names of the account are its spellings and no others, and recoveries of their users
check, invalidate and supersede this one account. -/
theorem ofRawName_canonical (name tenantDomain : String) :
    let a := ofRawName name tenantDomain
    IsStoreName a.storeDomain ∧
      ofRawName a.qualifiedName tenantDomain = a ∧
      (∀ store store' rest, name = qualify store rest → store ≠ "" → separator ∉ store.toList →
        Text.upper store' = Text.upper store →
          ofRawName (qualify store' rest) tenantDomain = a) ∧
      ∀ spelling, (ofRawName spelling tenantDomain = a ↔ a.Spells spelling) ∧
        (a.Spells spelling → a.RecoveredAs spelling) := by
  intro a
  have ha : IsStoreName a.storeDomain := isStoreName_storeDomain name tenantDomain
  have hspells (spelling : String) : ofRawName spelling tenantDomain = a ↔ a.Spells spelling :=
    ofRawName_eq_iff_spells ha
  refine ⟨ha, ofRawName_qualifiedName ha, ?_, fun spelling => ⟨hspells spelling, fun h => ?_⟩⟩
  · rintro store store' rest rfl hne hplain hsame
    have hread : a = ⟨rest, tenantDomain, Text.upper store⟩ := ofRawName_qualify hne hplain
    rw [hspells, hread]
    exact .qualified store' hsame
  · exact recoveredAs_ofRawName ((hspells spelling).2 h)

/-- A tenant in which a user of one store is kept twice, under two spellings.  In upper case, the
name of the store becomes longer. -/
def spelledTwice : Installation where
  service := ⟨{}, ⟨.empty, .empty, '*'⟩, false⟩
  registry := ⟨⟨[(1, [("straße/bob/x", [("mail", some "old")]),
    ("STRAsse/bob/x", [("mail", some "new")])])], []⟩, [("t", 1)], {}⟩
  codes n := if n = 0 then "first" else "second"

/-- A recovery under one spelling and then one under the other: only the second code is left. -/
theorem ofRawName_canonical_spelledTwice :
    let a : Account := ⟨"bob/x", "t", "STRASSE"⟩
    let request (mail : String) : RecoveryRequest := ⟨[("mail", mail)], "t", .username, []⟩
    let first := (spelledTwice.resolve 0 ⟨⟨900, []⟩, 0⟩ (request "old")).after
    separator ∉ "straße".toList ∧ Text.upper "STRAsse" = Text.upper "straße" ∧
      ofRawName "straße/bob/x" "t" = a ∧ ofRawName "STRASSE/bob/x" "t" = a ∧
      ofRawName "STRAsse/bob/x" "t" = a ∧ (first.store.recordsOf a).map Prod.fst = ["first"] ∧
      ∃ record, (spelledTwice.resolve 1 first (request "new")).after.store.recordsOf a =
        [("second", record)] := by
  intro a request first
  have hplain : separator ∉ "straße".toList := by decide +kernel
  have hsame : Text.upper "STRAsse" = Text.upper "straße" := by decide +kernel
  have ha : ofRawName "straße/bob/x" "t" = a := by decide +kernel
  have hname : qualifiedName a = "STRASSE/bob/x" := by decide +kernel
  have hfirst : (first.store.recordsOf a).map Prod.fst = ["first"] := by decide +kernel
  obtain ⟨-, hqualified, hrespelled, hspellings⟩ := ofRawName_canonical "straße/bob/x" "t"
  rw [ha] at hqualified hrespelled hspellings
  have hother : ofRawName "STRAsse/bob/x" "t" = a :=
    hrespelled "straße" "STRAsse" "bob/x" (by decide +kernel) (by decide +kernel) hplain hsame
  obtain ⟨hspells, hrecovered⟩ := hspellings "STRAsse/bob/x"
  obtain ⟨record, -, -, hrecords⟩ := (hrecovered (hspells.1 hother)).superseded spelledTwice 1
    first (request "new") ⟨"STRAsse/bob/x", "second", [⟨1, .external, "", false⟩]⟩ rfl rfl rfl
  exact ⟨hplain, hsame, ha, hname ▸ hqualified, hother, hfirst, record, hrecords⟩

end Account

end AccountRecovery

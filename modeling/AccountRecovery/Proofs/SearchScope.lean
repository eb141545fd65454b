import AccountRecovery.Proofs.Casing
import AccountRecovery.Proofs.Resolution
/-!
# The store that a claim value names

A value may name a secondary store before its first slash.  Then users of that store are meant, and
else the value is a literal one: with slashes in it, it is searched in the primary store.  Both the
resolver and the directory cut the value, and the resolver tells the directory what it found by a
slash in front.

Main statements: a value that names no store is marked as literal for the directory
(`sought_of_literal`), and then the directory finds users of the primary store only
(`mem_findUsers_of_marked`); else it finds those of the store that is named
(`mem_findUsers_of_named`).
-/

namespace AccountRecovery

open Dialogue Recovery

theorem Text.prefix_iff_cut? {sep : Char} {front cs : List Char} (h : sep ∉ front) :
    front ++ [sep] <+: cs ↔ ∃ rest, Text.cut? sep cs = some (front, rest) := by
  constructor
  · rintro ⟨rest, rfl⟩
    exact ⟨rest, by simpa using Text.cut?_append h⟩
  · rintro ⟨rest, hcut⟩
    obtain ⟨rfl, -⟩ := Text.eq_of_cut?_eq_some hcut
    exact ⟨rest, by simp⟩

/-! ## Stores of raw names -/

namespace Account

variable {name : String} {front rest : List Char}

theorem storeOf_of_not_mem (h : separator ∉ name.toList) : storeOf name = primaryStore := by
  rw [storeOf, cutStore?, Text.cut?_eq_none_iff.2 h]

theorem storeOf_of_cut? (h : Text.cut? separator name.toList = some (front, rest)) :
    storeOf name =
      if front = [] then primaryStore else Text.upper (String.ofList front) := by
  rw [storeOf, cutStore?, h]
  cases front with
  | nil => rfl
  | cons c front => rfl

/-- A raw name is of a secondary store if, in upper case, it starts with the name of that store and
a slash. -/
theorem isPrefixOf_upper_iff (hfront : front ≠ []) (hplain : separator ∉ front)
    (hsecondary : Text.upper (String.ofList front) ≠ primaryStore) :
    ((Text.upper (String.ofList front)).toList ++ [separator]).isPrefixOf
        (Text.upper name).toList = true ↔
      storeOf name = Text.upper (String.ofList front) := by
  have hupperPlain : separator ∉ front.flatMap Text.upperChar :=
    fun h => hplain (Text.separator_mem_flatMap.1 h)
  rw [List.isPrefixOf_iff_prefix, Text.toList_upper, Text.toList_upper, String.toList_ofList,
    Text.prefix_iff_cut? hupperPlain, Text.cut?_upper]
  cases hcut : Text.cut? separator name.toList with
  | none =>
      have hstore := storeOf_of_not_mem (Text.cut?_eq_none_iff.1 hcut)
      simp [hstore, hsecondary.symm]
  | some cut =>
      obtain ⟨store, rest⟩ := cut
      rw [storeOf_of_cut? hcut]
      by_cases hstore : store = []
      · have hupperFront : front.flatMap Text.upperChar ≠ [] :=
          fun h => hfront (Text.flatMap_upperChar_eq_nil.1 h)
        simp [hstore, hsecondary.symm, hupperFront.symm]
      · rw [if_neg hstore, ← String.toList_inj]
        simp

end Account

namespace Directory

variable (d : Directory) (tenantId : Int)

def storesOf : List String :=
  (d.secondaryStores.lookup tenantId).getD []

theorem hasStore_iff {name : String} :
    d.hasStore tenantId name = true ↔ Text.upper name ∈ d.storesOf tenantId := by
  simp [hasStore, storesOf]

def HasClaim (key value user : String) : Prop :=
  ∃ claims, (user, claims) ∈ d.usersOf tenantId ∧ claims.lookup key = some (some value)

variable {key value u : String} {front rest : List Char}

theorem mem_findUsers :
    u ∈ d.findUsers tenantId key value ↔
      ∃ claims, (u, claims) ∈ (d.searchScope tenantId value).1 ∧
        claims.lookup key = some (some (d.searchScope tenantId value).2) := by
  simp [findUsers]

theorem mem_findUsers_of_plain (h : Account.separator ∉ value.toList) :
    u ∈ d.findUsers tenantId key value ↔ d.HasClaim tenantId key value u := by
  rw [mem_findUsers, searchScope, Text.cut?_eq_none_iff.2 h]
  rfl

theorem mem_findUsers_of_marked :
    u ∈ d.findUsers tenantId key (String.ofList (Account.separator :: value.toList)) ↔
      Account.separator ∉ u.toList ∧ d.HasClaim tenantId key value u := by
  have hcut : Text.cut? Account.separator (Account.separator :: value.toList) =
      some ([], value.toList) := by simp [Text.cut?]
  rw [mem_findUsers, searchScope, String.toList_ofList, hcut]
  simp only [List.mem_filter, String.ofList_toList, HasClaim]
  constructor
  · rintro ⟨claims, ⟨hmem, hplain⟩, hvalue⟩
    exact ⟨by simpa using hplain, claims, hmem, hvalue⟩
  · rintro ⟨hplain, claims, hmem, hvalue⟩
    exact ⟨claims, ⟨hmem, by simpa using hplain⟩, hvalue⟩

theorem mem_findUsers_of_named
    (hcut : Text.cut? Account.separator value.toList = some (front, rest))
    (hfront : front ≠ []) (hstore : Text.upper (String.ofList front) ∈ d.storesOf tenantId)
    (hprimary : Account.primaryStore ∉ d.storesOf tenantId) :
    u ∈ d.findUsers tenantId key value ↔
      Account.storeOf u = Text.upper (String.ofList front) ∧
        d.HasClaim tenantId key (String.ofList rest) u := by
  have hsecondary : Text.upper (String.ofList front) ≠ Account.primaryStore := by
    intro heq
    exact hprimary (heq ▸ hstore)
  have hplain : Account.separator ∉ front := (Text.eq_of_cut?_eq_some hcut).2
  have hscope : d.searchScope tenantId value =
      ((d.usersOf tenantId).filter fun u =>
        ((Text.upper (String.ofList front)).toList ++ [Account.separator]).isPrefixOf
          (Text.upper u.1).toList, String.ofList rest) := by
    obtain ⟨c, front, rfl⟩ := List.exists_cons_of_ne_nil hfront
    simp only [searchScope, hcut, if_pos (d.hasStore_iff tenantId |>.2 hstore)]
  rw [mem_findUsers, hscope]
  simp only [List.mem_filter, Account.isPrefixOf_upper_iff hfront hplain hsecondary, HasClaim]
  constructor
  · rintro ⟨claims, ⟨hmem, hof⟩, hvalue⟩
    exact ⟨hof, claims, hmem, hvalue⟩
  · rintro ⟨hof, claims, hmem, hvalue⟩
    exact ⟨claims, ⟨hmem, hof⟩, hvalue⟩

end Directory

/-! ## What the directory is asked for -/

def Registry.lookups (r : Registry) : Lookups :=
  ⟨r.tenants, r.directory.findUsers, r.directory.hasStore⟩

theorem Registry.answer_lookups {σ : Type} (r : Registry) (records : RecordStore σ) :
    r.lookups.answer (r.answer records) = r.answer records := by
  funext q s
  cases q <;> rfl

namespace Registry

variable (r : Registry) (tenantId : Int) {key value : String} {front rest : List Char}

theorem matched_lookups :
    r.lookups.matched tenantId (key, value) =
      r.directory.findUsers tenantId key (r.lookups.sought tenantId value) := rfl

theorem sought_of_plain (h : Account.separator ∉ value.toList) :
    r.lookups.sought tenantId value = value := by
  rw [Lookups.sought, if_neg (by simpa using h)]

theorem sought_of_named (hcut : Text.cut? Account.separator value.toList = some (front, rest))
    (hfront : front ≠ [])
    (hstore : Text.upper (String.ofList front) ∈ r.directory.storesOf tenantId) :
    r.lookups.sought tenantId value = value := by
  have hknown : r.directory.hasStore tenantId (Account.storeOf value) = true := by
    rw [Directory.hasStore_iff, Account.storeOf_of_cut? hcut, if_neg hfront, Text.upper_upper]
    exact hstore
  rw [Lookups.sought]
  split
  · exact if_pos hknown
  · rfl

theorem sought_of_literal (hcut : Text.cut? Account.separator value.toList = some (front, rest))
    (hliteral : front = [] ∨ Text.upper (String.ofList front) ∉ r.directory.storesOf tenantId)
    (hprimary : Account.primaryStore ∉ r.directory.storesOf tenantId) :
    r.lookups.sought tenantId value = String.ofList (Account.separator :: value.toList) := by
  have hunknown : ¬r.directory.hasStore tenantId (Account.storeOf value) = true := by
    rw [Directory.hasStore_iff, Account.storeOf_of_cut? hcut]
    split
    · have hupper : Text.upper Account.primaryStore = Account.primaryStore := by decide
      rw [hupper]
      exact hprimary
    · next hfront =>
        rw [Text.upper_upper]
        exact hliteral.resolve_left hfront
  have hseparator : value.toList.contains Account.separator = true := by
    obtain ⟨hvalue, -⟩ := Text.eq_of_cut?_eq_some hcut
    simp [hvalue]
  rw [Lookups.sought, if_pos hseparator]
  exact if_neg hunknown

/-- A value is searched in the store that it names, and nowhere else.  Without a slash it is
searched among all users of the tenant.  If a secondary store is named before the first slash, what
stands after it is searched among the users of that store.  Else the whole value is searched,
slashes included, among the users whose raw names have no slash. -/
theorem users_of_named_store {σ : Type} (records : RecordStore σ) (codes : CodeSource) (st : σ)
    (n : Nat) (tenantDomain : String) (key value : String)
    (hprimary : Account.primaryStore ∉ r.directory.storesOf tenantId) :
    ∃ us, ((matchingUsers tenantId key value).run (r.answer records) codes st n).result = .ok us ∧
      (Account.separator ∉ value.toList →
        ∀ u, u ∈ us ↔ r.directory.HasClaim tenantId key value u) ∧
      ∀ front rest, value.toList = front ++ Account.separator :: rest →
        Account.separator ∉ front →
        (front ≠ [] → Text.upper (String.ofList front) ∈ r.directory.storesOf tenantId →
          ∀ u, u ∈ us ↔
            (Account.ofRawName u tenantDomain).storeDomain = Text.upper (String.ofList front) ∧
              r.directory.HasClaim tenantId key (String.ofList rest) u) ∧
        (front = [] ∨ Text.upper (String.ofList front) ∉ r.directory.storesOf tenantId →
          ∀ u, u ∈ us ↔
            Account.separator ∉ u.toList ∧ r.directory.HasClaim tenantId key value u) := by
  obtain ⟨hresult, -⟩ :=
    r.lookups.run_matchingUsers (r.answer records) codes st n tenantId key value
  rw [r.answer_lookups] at hresult
  refine ⟨_, hresult, fun hplain u => ?_, fun front rest hvalue hfront => ?_⟩
  · rw [matched_lookups, r.sought_of_plain tenantId hplain]
    exact r.directory.mem_findUsers_of_plain tenantId hplain
  · have hcut : Text.cut? Account.separator value.toList = some (front, rest) := by
      rw [hvalue, Text.cut?_append hfront]
    constructor
    · intro hne hstore u
      rw [matched_lookups, r.sought_of_named tenantId hcut hne hstore]
      exact r.directory.mem_findUsers_of_named tenantId hcut hne hstore hprimary
    · intro hliteral u
      rw [matched_lookups, r.sought_of_literal tenantId hcut hliteral hprimary]
      exact r.directory.mem_findUsers_of_marked tenantId

/-- In a tenant with one secondary store, a value that names it in lower case is searched there. -/
theorem users_of_named_store_shop :
    let r : Registry := { directory :=
      { users := [(7, [("ann", [("born", some "shop/1")]), ("Shop/bob", [("born", some "1")])])]
        secondaryStores := [(7, ["SHOP"])] } }
    Account.primaryStore ∉ r.directory.storesOf 7 ∧
      ∃ us, ((matchingUsers 7 "born" "shop/1").run
          (r.answer (MemoryStore.recordStore 0)) (fun _ => "") ⟨10, []⟩ 0).result = .ok us ∧
        "Shop/bob" ∈ us ∧ "ann" ∉ us := by
  intro r
  have hprimary : Account.primaryStore ∉ r.directory.storesOf 7 := by decide +kernel
  obtain ⟨us, hresult, -, hslash⟩ := r.users_of_named_store 7 (MemoryStore.recordStore 0)
    (fun _ => "") ⟨10, []⟩ 0 "t" "born" "shop/1" hprimary
  have hnamed := (hslash "shop".toList ['1'] (by decide +kernel) (by decide +kernel)).1
    (by decide +kernel) (by decide +kernel)
  have hbob : r.directory.HasClaim 7 "born" "1" "Shop/bob" :=
    ⟨[("born", some "1")], by decide +kernel, by decide +kernel⟩
  refine ⟨hprimary, us, hresult, (hnamed _).2 ⟨by decide +kernel, hbob⟩, fun hann => ?_⟩
  exact absurd ((hnamed _).1 hann).1 (by decide +kernel)

end Registry

end AccountRecovery

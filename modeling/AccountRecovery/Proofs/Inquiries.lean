import AccountRecovery.Proofs.Attribution
import AccountRecovery.Proofs.SearchScope
/-!
# The inquiries of a search

A search asks a directory that may fail at any question.  For each usable claim it makes one inquiry
of one or two questions (`Inquiry.Made`), up to the first that fails or leaves nobody (`Searches`).
How the search ends is told by its last inquiry (`Ends`).

Main statement: `resolveUser_inquires`.
-/

namespace AccountRecovery

open Dialogue Recovery

namespace Recovery

/-! ## Inquiries -/

/-- An inquiry for the users of a claim, with its exchanges.  The directory lists users, or it fails
with a message. -/
structure Inquiry where
  claim : String × String
  exchanges : List Exchange
  result : Except String (List String)

def storeNamed (lead : List Char) : String :=
  if lead = [] then Account.primaryStore else Text.upper (String.ofList lead)

namespace Inquiry

/-- The ways in which an inquiry is made in a tenant.  If the value of the claim has a slash, it is
first checked whether it starts with the name of a secondary store.  Users are listed unless that
check fails, and the value is marked by a slash in front if the check is in the negative. -/
inductive Made (id : Int) : Inquiry → Prop
  | plain (key value : String) (listed : Except String (List String))
      (hvalue : Account.separator ∉ value.toList) :
      Made id ⟨(key, value), [⟨.findUsers id key value, listed.mapError .directory⟩], listed⟩
  | unchecked (key value : String) (lead rest : List Char) (message : String)
      (hvalue : value.toList = lead ++ Account.separator :: rest)
      (hlead : Account.separator ∉ lead) :
      Made id ⟨(key, value),
        [⟨.secondaryStoreExists id (storeNamed lead), .error (.directory message)⟩],
        .error message⟩
  | checked (key value : String) (lead rest : List Char) (known : Bool)
      (listed : Except String (List String))
      (hvalue : value.toList = lead ++ Account.separator :: rest)
      (hlead : Account.separator ∉ lead) :
      Made id ⟨(key, value),
        [⟨.secondaryStoreExists id (storeNamed lead), .ok known⟩,
          ⟨.findUsers id key
              (if known then value else String.ofList (Account.separator :: value.toList)),
            listed.mapError .directory⟩],
        listed⟩

def Finds (i : Inquiry) (u : String) : Prop :=
  ∃ us, i.result = .ok us ∧ u ∈ us

def Raises (i : Inquiry) : Prop :=
  ∃ message, i.result = .error message

/-- The directory answers, but nobody whom it lists, if anyone, has been found by all inquiries
before. -/
def LeavesNobody (before : List Inquiry) (i : Inquiry) : Prop :=
  ∃ us, i.result = .ok us ∧ ∀ u ∈ us, ¬∀ j ∈ before, j.Finds u

def Stops (before : List Inquiry) (i : Inquiry) : Prop :=
  i.Raises ∨ i.LeavesNobody before

variable {i : Inquiry} {us : List String}

theorem finds_iff (h : i.result = .ok us) (u : String) : i.Finds u ↔ u ∈ us := by
  simp [Finds, h]

theorem leavesNobody_iff (h : i.result = .ok us) (before : List Inquiry) :
    i.LeavesNobody before ↔ ∀ u ∈ us, ¬∀ j ∈ before, j.Finds u := by
  simp [LeavesNobody, h]

theorem not_raises (h : i.result = .ok us) : ¬i.Raises := by
  rintro ⟨message, herror⟩
  exact absurd (h.symm.trans herror) nofun

theorem Raises.not_finds (h : i.Raises) (u : String) : ¬i.Finds u := by
  rintro ⟨us, hok, -⟩
  exact not_raises hok h

theorem Raises.not_leavesNobody (h : i.Raises) (before : List Inquiry) :
    ¬i.LeavesNobody before := by
  rintro ⟨us, hok, -⟩
  exact not_raises hok h

end Inquiry

/-! ## One claim -/

/-- The directory answers what users are searched by, or it fails with an error of its own. -/
def FailsAsDirectory {σ : Type} (answer : Handler σ) : Prop :=
  ∀ q st e, q.fault? = some .claimLookup → (answer q st).1 = .error e → ∃ m, e = .directory m

variable {σ : Type} {answer : Handler σ}

theorem FailsAsDirectory.answer_eq (fails : FailsAsDirectory answer) {q : Call}
    (h : q.fault? = some .claimLookup) (st : σ) :
    ∃ r : Except String q.Reply, (answer q st).1 = r.mapError .directory := by
  cases hanswer : (answer q st).1 with
  | ok a => exact ⟨.ok a, rfl⟩
  | error e =>
      obtain ⟨m, rfl⟩ := fails q st e h hanswer
      exact ⟨.error m, rfl⟩

variable (id : Int) (key : String) {value : String} {lead rest : List Char}

theorem search_of_plain (h : Account.separator ∉ value.toList) :
    search id key value = call (.findUsers id key value) := by
  unfold search lookupValue
  rw [if_neg (by simpa using h)]
  rfl

theorem search_of_cut? (h : Text.cut? Account.separator value.toList = some (lead, rest)) :
    search id key value =
      (call (.secondaryStoreExists id (storeNamed lead))).bind fun known =>
        call (.findUsers id key
          (if known then value else String.ofList (Account.separator :: value.toList))) := by
  obtain ⟨hvalue, -⟩ := Text.eq_of_cut?_eq_some h
  have hstore : Account.storeOf value = storeNamed lead := Account.storeOf_of_cut? h
  unfold search lookupValue
  rw [if_pos (by simp [hvalue]), hstore]
  exact bind_bind _ _ _

section Claim

variable (fails : FailsAsDirectory answer) (codes : CodeSource) (st : σ) (n : Nat) (value : String)

include fails

theorem made_search :
    ∃ i : Inquiry, i.claim = (key, value) ∧ i.Made id ∧
      (search id key value).exchanges answer codes st n = i.exchanges ∧
      ((search id key value).run answer codes st n).result = i.result.mapError .directory := by
  cases hcut : Text.cut? Account.separator value.toList with
  | none =>
      have hplain : Account.separator ∉ value.toList := Text.cut?_eq_none_iff.1 hcut
      obtain ⟨listed, hlisted⟩ := fails.answer_eq (q := .findUsers id key value) rfl st
      rw [search_of_plain id key hplain]
      refine ⟨_, rfl, .plain key value listed hplain, ?_, ?_⟩
      · rw [exchanges_call, hlisted]
      · exact (run_call _ answer codes st n).1.trans hlisted
  | some cut =>
      obtain ⟨lead, rest⟩ := cut
      obtain ⟨hvalue, hlead⟩ := Text.eq_of_cut?_eq_some hcut
      let check : Call := .secondaryStoreExists id (storeNamed lead)
      obtain ⟨hcall, hstate, hdrawn⟩ := run_call check answer codes st n
      obtain ⟨known, hknown⟩ := fails.answer_eq (q := check) rfl st
      rw [search_of_cut? id key hcut, exchanges_bind, exchanges_call, run_bind, Outcome.andThen,
        Outcome.exchangesAfter, hcall, hknown, hstate, hdrawn]
      cases known with
      | error m => exact ⟨_, rfl, .unchecked key value lead rest m hvalue hlead, rfl, rfl⟩
      | ok known =>
          let q : Call := .findUsers id key
            (if known then value else String.ofList (Account.separator :: value.toList))
          obtain ⟨listed, hlisted⟩ := fails.answer_eq (q := q) rfl (answer check st).2
          refine ⟨_, rfl, .checked key value lead rest known listed hvalue hlead, ?_, ?_⟩
          · rw [← hlisted]
            exact congrArg (_ :: ·) (exchanges_call answer codes _ n q)
          · exact (run_call q answer codes _ n).1.trans hlisted

/-- A search for the users of a claim is an inquiry.  If that fails, the claim is told. -/
theorem made_matchingUsers :
    ∃ i : Inquiry, i.claim = (key, value) ∧ i.Made id ∧
      (matchingUsers id key value).exchanges answer codes st n = i.exchanges ∧
      ((matchingUsers id key value).run answer codes st n).result =
        i.result.mapError fun m => searchFailed key (.directory m) := by
  obtain ⟨guard, heq, hsilent, hguard⟩ := matchingUsers_eq id key value
  obtain ⟨i, hclaim, hmade, hexchanges, hresult⟩ := made_search id key fails codes st n value
  refine ⟨i, hclaim, hmade, ?_, ?_⟩
  · rw [heq, exchanges_rescue_of_silent _ _ _ _ _ hsilent, hexchanges]
  · cases hi : i.result with
    | ok us =>
        rw [hi] at hresult
        rw [heq, run_rescue, Outcome.orElse, hresult]
        exact hresult
    | error m =>
        rw [hi] at hresult
        obtain ⟨entry, htells⟩ := hguard m
        rw [heq, run_rescue, Outcome.orElse, hresult]
        simp only [Except.mapError, htells]
        rfl

end Claim

/-! ## The claims one after the other -/

/-- What is left of the users who are found by all inquiries so far.  Before the first inquiry that
is everyone. -/
structure Leaves (before : List Inquiry) (found : Option (List String)) : Prop where
  fresh : found = none ↔ before = []
  someone : ∃ u, Among found u
  among : ∀ u, Among found u ↔ ∀ i ∈ before, i.Finds u

theorem leaves_nil : Leaves [] none where
  fresh := by simp
  someone := ⟨"", nofun⟩
  among u := by simp [Among]

variable {before later : List Inquiry} {found : Option (List String)} {i : Inquiry}
  {us : List String} {claims : Claims}

theorem Leaves.leavesNobody_iff (h : Leaves before found) (hi : i.result = .ok us) :
    i.LeavesNobody before ↔ narrow found us = [] := by
  rw [Inquiry.leavesNobody_iff hi, List.eq_nil_iff_forall_not_mem]
  refine forall_congr' fun u => ?_
  rw [mem_narrow, h.among, not_and']

theorem Leaves.append (h : Leaves before found) (hi : i.result = .ok us)
    (hleft : narrow found us ≠ []) : Leaves (before ++ [i]) (some (narrow found us)) where
  fresh := by simp
  someone := by
    obtain ⟨u, hu⟩ := List.exists_mem_of_ne_nil _ hleft
    refine ⟨u, ?_⟩
    rintro _ ⟨⟩
    exact hu
  among u := by
    rw [List.forall_mem_append, List.forall_mem_singleton, ← h.among u, Inquiry.finds_iff hi,
      ← mem_narrow]
    simp [Among]

/-- After inquiries, those that a search makes for further claims.  Each usable claim has its own,
in order, up to the first that stops the search. -/
inductive Searches (id : Int) : List Inquiry → Claims → List Inquiry → Prop
  | done {before : List Inquiry} : Searches id before [] []
  | skip {before later : List Inquiry} {claim : String × String} {claims : Claims}
      (unusable : isUsable claim = false) (rest : Searches id before claims later) :
      Searches id before (claim :: claims) later
  | stop {before : List Inquiry} {i : Inquiry} {claims : Claims} (usable : isUsable i.claim = true)
      (made : i.Made id) (stops : i.Stops before) : Searches id before (i.claim :: claims) [i]
  | goOn {before later : List Inquiry} {i : Inquiry} {claims : Claims}
      (usable : isUsable i.claim = true) (made : i.Made id) (goes : ¬i.Stops before)
      (rest : Searches id (before ++ [i]) claims later) :
      Searches id before (i.claim :: claims) (i :: later)

namespace Searches

variable {id : Int}

theorem made (h : Searches id before claims later) : ∀ i ∈ later, i.Made id := by
  induction h with
  | done => exact nofun
  | skip unusable rest ih => exact ih
  | stop usable made stops => simpa using made
  | goOn usable made goes rest ih => exact List.forall_mem_cons.2 ⟨made, ih⟩

theorem inOrder (h : Searches id before claims later) :
    later.map Inquiry.claim <+: claims.filter isUsable := by
  induction h with
  | done => exact List.prefix_rfl
  | skip unusable rest ih => rwa [List.filter_cons_of_neg (by simp [unusable])]
  | stop usable made stops =>
      rw [List.filter_cons_of_pos usable]
      exact List.prefix_append [_] _
  | goOn usable made goes rest ih =>
      rw [List.filter_cons_of_pos usable]
      exact (List.prefix_cons_inj _).2 ih

theorem eq_nil_of_stops (h : Searches id before claims later) {front after : List Inquiry}
    {i : Inquiry} (hsplit : later = front ++ i :: after) (hstops : i.Stops (before ++ front)) :
    after = [] := by
  induction h generalizing front with
  | done => simp at hsplit
  | skip unusable rest ih => exact ih hsplit hstops
  | stop usable made stops =>
      cases front with
      | nil => exact (List.cons.inj hsplit).2.symm
      | cons j front => simp at hsplit
  | goOn usable made goes rest ih =>
      cases front with
      | nil =>
          obtain ⟨rfl, -⟩ := List.cons.inj hsplit
          rw [List.append_nil] at hstops
          exact (goes hstops).elim
      | cons j front =>
          obtain ⟨rfl, hrest⟩ := List.cons.inj hsplit
          exact ih hrest (by rwa [List.append_assoc])

theorem complete (h : Searches id before claims later) :
    later.map Inquiry.claim = claims.filter isUsable ∨
      ∃ front i, later = front ++ [i] ∧ i.Stops (before ++ front) := by
  induction h with
  | done => exact .inl rfl
  | skip unusable rest ih => rwa [List.filter_cons_of_neg (by simp [unusable])]
  | @stop before i claims usable made stops => exact .inr ⟨[], i, rfl, by rwa [List.append_nil]⟩
  | @goOn before later i claims usable made goes rest ih =>
      rw [List.filter_cons_of_pos usable, List.map_cons]
      rcases ih with hall | ⟨front, j, rfl, hstops⟩
      · exact .inl (by rw [hall])
      · exact .inr ⟨i :: front, j, rfl, by rwa [List.append_assoc] at hstops⟩

end Searches

inductive Ends : List Inquiry → Except Failure (Option (List String)) → Prop
  | raised (before : List Inquiry) (i : Inquiry) (m : String) (raises : i.result = .error m) :
      Ends (before ++ [i]) (.error (searchFailed i.claim.1 (.directory m)))
  | nobody (before : List Inquiry) (i : Inquiry) (leaves : i.LeavesNobody before) :
      Ends (before ++ [i]) (.error (refused .noUser))
  | done (before : List Inquiry) (found : Option (List String)) (leaves : Leaves before found) :
      Ends before (.ok found)

/-- The users who match all claims are searched for by inquiries, which tell how that ends. -/
theorem candidatesFor_inquires (fails : FailsAsDirectory answer) (codes : CodeSource) (id : Int)
    (hfound : Leaves before found) (claims : Claims) (st : σ) (n : Nat) :
    ∃ later, Searches id before claims later ∧
      (candidatesFor id found claims).exchanges answer codes st n =
        later.flatMap Inquiry.exchanges ∧
      Ends (before ++ later) ((candidatesFor id found claims).run answer codes st n).result := by
  -- What is left of the users before a claim is carried along, and so is the directory's state.
  induction claims generalizing before found st n with
  | nil =>
      refine ⟨[], .done, rfl, ?_⟩
      rw [List.append_nil]
      exact .done before found hfound
  | cons claim claims ih =>
      cases husable : isUsable claim with
      | false =>
          rw [candidatesFor_skip id found claims husable]
          obtain ⟨later, hsearches, hrest⟩ := ih hfound st n
          exact ⟨later, .skip husable hsearches, hrest⟩
      | true =>
          obtain ⟨entry, narrowed, heq, hnarrowed⟩ := candidatesFor_cons id found claims husable
          obtain ⟨i, hclaim, hmade, hexchanges, hresult⟩ :=
            made_matchingUsers id claim.1 fails codes st n claim.2
          obtain rfl : i.claim = claim := hclaim
          rw [heq]
          simp only [exchanges, run]
          rw [exchanges_bind, run_bind, hexchanges, Outcome.exchangesAfter, Outcome.andThen]
          generalize (matchingUsers id i.claim.1 i.claim.2).run answer codes st n = o at hresult
          rw [hresult]
          cases hi : i.result with
          | error m =>
              refine ⟨[i], .stop husable hmade (.inl ⟨m, hi⟩), by simp [Except.mapError], ?_⟩
              exact .raised before i m hi
          | ok us =>
              obtain ⟨entry, hnext⟩ := hnarrowed us
              simp only [Except.mapError, hnext]
              simp only [exchanges, run]
              have hleaves := hfound.leavesNobody_iff hi
              by_cases hleft : narrow found us = []
              · rw [if_pos hleft]
                refine ⟨[i], .stop husable hmade (.inr (hleaves.2 hleft)), by simp [exchanges], ?_⟩
                exact .nobody before i (hleaves.2 hleft)
              · rw [if_neg hleft]
                have hgoes : ¬i.Stops before := by
                  rintro (hraises | hnobody)
                  · exact Inquiry.not_raises hi hraises
                  · exact hleft (hleaves.1 hnobody)
                obtain ⟨later, hsearches, htrace, hends⟩ :=
                  ih (hfound.append hi hleft) o.state o.drawn
                refine ⟨i :: later, .goOn husable hmade hgoes hsearches, ?_, ?_⟩
                · rw [htrace, List.flatMap_cons]
                · rwa [List.append_assoc] at hends

/-! ## The end of a search -/

variable {inquiries front : List Inquiry} {r : Except Failure (Option (List String))}

theorem Leaves.not_stops (h : Leaves (front ++ [i]) found) : ¬i.Stops front := by
  obtain ⟨u, hu⟩ := h.someone
  obtain ⟨hfront, hi⟩ := List.forall_mem_append.1 ((h.among u).1 hu)
  rw [List.forall_mem_singleton] at hi
  rintro (hraises | ⟨us, hus, hnobody⟩)
  · exact hraises.not_finds u hi
  · exact hnobody u ((Inquiry.finds_iff hus u).1 hi) hfront

theorem Leaves.fault_pick (h : Leaves inquiries found) :
    faultOf (pick (.ok found)) ≠ some .claimLookup ∧
      (faultOf (pick (.ok found)) = some .noUser ↔ inquiries = []) := by
  cases found with
  | none => exact ⟨nofun, iff_of_true rfl (h.fresh.1 rfl)⟩
  | some us =>
      have hne : inquiries ≠ [] := fun hnil => absurd (h.fresh.2 hnil) nofun
      match us, h.someone with
      | [], ⟨u, hu⟩ => exact absurd (hu [] rfl) List.not_mem_nil
      | [u], _ => exact ⟨nofun, iff_of_false nofun hne⟩
      | u :: v :: us, _ => exact ⟨nofun, iff_of_false nofun hne⟩

namespace Ends

theorem exists_last_iff {P : List Inquiry → Inquiry → Prop} :
    (∃ front' i', front ++ [i] = front' ++ [i'] ∧ P front' i') ↔ P front i := by
  constructor
  · rintro ⟨front', i', heq, hp⟩
    obtain ⟨rfl, hi⟩ := List.append_inj' heq rfl
    cases hi
    exact hp
  · exact fun hp => ⟨front, i, rfl, hp⟩

theorem fault_claimLookup_iff (h : Ends inquiries r) :
    faultOf (pick r) = some .claimLookup ↔ ∃ front i, inquiries = front ++ [i] ∧ i.Raises := by
  cases h with
  | raised before i m raises =>
      rw [exists_last_iff]
      exact iff_of_true rfl ⟨m, raises⟩
  | nobody before i leaves =>
      rw [exists_last_iff]
      exact iff_of_false nofun fun hraises => hraises.not_leavesNobody before leaves
  | done before found leaves =>
      refine iff_of_false leaves.fault_pick.1 ?_
      rintro ⟨front, i, rfl, hraises⟩
      exact leaves.not_stops (.inl hraises)

theorem eq_searchFailed_iff (h : Ends inquiries r) (key m : String) :
    pick r = .error (searchFailed key (.directory m)) ↔
      ∃ front i, inquiries = front ++ [i] ∧ i.claim.1 = key ∧ i.result = .error m := by
  cases h with
  | raised before i m' raises =>
      rw [exists_last_iff (P := fun _ i => i.claim.1 = key ∧ i.result = .error m), raises]
      simp [pick, searchFailed]
  | nobody before i leaves =>
      rw [exists_last_iff (P := fun _ i => i.claim.1 = key ∧ i.result = .error m)]
      refine iff_of_false nofun ?_
      rintro ⟨-, herror⟩
      exact Inquiry.Raises.not_leavesNobody ⟨m, herror⟩ before leaves
  | done before found leaves =>
      refine iff_of_false (fun heq => leaves.fault_pick.1 (by rw [heq]; rfl)) ?_
      rintro ⟨front, i, rfl, -, herror⟩
      exact leaves.not_stops (.inl ⟨m, herror⟩)

theorem fault_noUser_iff (h : Ends inquiries r) :
    faultOf (pick r) = some .noUser ↔
      inquiries = [] ∨ ∃ front i, inquiries = front ++ [i] ∧ i.LeavesNobody front := by
  cases h with
  | raised before i m raises =>
      rw [exists_last_iff]
      refine iff_of_false nofun ?_
      rintro (hnil | hnobody)
      · simp at hnil
      · exact Inquiry.Raises.not_leavesNobody ⟨m, raises⟩ before hnobody
  | nobody before i leaves =>
      rw [exists_last_iff]
      exact iff_of_true rfl (.inr leaves)
  | done before found leaves =>
      rw [leaves.fault_pick.2]
      refine ⟨.inl, ?_⟩
      rintro (hnil | ⟨front, i, rfl, hnobody⟩)
      · exact hnil
      · exact (leaves.not_stops (.inr hnobody)).elim

end Ends

theorem Searches.eq_nil_iff {id : Int} (h : Searches id [] claims inquiries) :
    inquiries = [] ↔ ¬Searchable claims := by
  have hsearchable : ¬Searchable claims ↔ claims.filter isUsable = [] := by
    simp [Searchable, List.filter_eq_nil_iff]
  rw [hsearchable]
  constructor
  · rintro rfl
    rcases h.complete with hall | ⟨front, i, heq, -⟩
    · exact hall.symm
    · simp at heq
  · intro hnone
    have hprefix := h.inOrder
    rw [hnone, List.prefix_nil, List.map_eq_nil_iff] at hprefix
    exact hprefix

/-- In a tenant that is known, and with a directory that may fail at any question, a search for a
user asks for the tenant and then makes one inquiry for every usable claim, in order, up to and with
the first that fails or leaves nobody.  The search fails, and tells the key of that claim, if and
only if that inquiry has failed.  It finds nobody if and only if that inquiry leaves nobody, or if
no claim is usable. -/
theorem resolveUser_inquires (fails : FailsAsDirectory answer) (codes : CodeSource) (st : σ)
    (n : Nat) {claims : Claims} {tenantDomain : String} {id : Int} (hclaims : claims ≠ [])
    (htenant : (answer (.tenantId tenantDomain) st).1 = .ok id) :
    let trace := (resolveUser claims tenantDomain).exchanges answer codes st n
    let result := ((resolveUser claims tenantDomain).run answer codes st n).result
    ∃ inquiries : List Inquiry,
      trace = ⟨.tenantId tenantDomain, .ok id⟩ :: inquiries.flatMap Inquiry.exchanges ∧
      (∀ i ∈ inquiries, i.Made id) ∧
      inquiries.map Inquiry.claim <+: claims.filter isUsable ∧
      (∀ front i after, inquiries = front ++ i :: after → i.Stops front → after = []) ∧
      (inquiries.map Inquiry.claim = claims.filter isUsable ∨
        ∃ front i, inquiries = front ++ [i] ∧ i.Stops front) ∧
      (faultOf result = some .claimLookup ↔ ∃ front i, inquiries = front ++ [i] ∧ i.Raises) ∧
      (∀ key m, result = .error (searchFailed key (.directory m)) ↔
        ∃ front i, inquiries = front ++ [i] ∧ i.claim.1 = key ∧ i.result = .error m) ∧
      (faultOf result = some .noUser ↔
        ¬Searchable claims ∨ ∃ front i, inquiries = front ++ [i] ∧ i.LeavesNobody front) := by
  obtain ⟨htrace, hresult⟩ := run_resolveUser codes st n hclaims htenant
  obtain ⟨inquiries, hsearches, hexchanges, hends⟩ := candidatesFor_inquires fails codes id
    leaves_nil claims (answer (.tenantId tenantDomain) st).2 n
  rw [List.nil_append] at hends
  dsimp only
  rw [htrace, hexchanges, hresult, ← hsearches.eq_nil_iff]
  exact ⟨inquiries, rfl, hsearches.made, hsearches.inOrder,
    fun front i after hsplit hstops => hsearches.eq_nil_of_stops hsplit hstops, hsearches.complete,
    hends.fault_claimLookup_iff, hends.eq_searchFailed_iff, hends.fault_noUser_iff⟩

def unsure : Handler Unit
  | .tenantId _, st => (.ok 7, st)
  | .findUsers .., st => (.ok ["ann"], st)
  | .secondaryStoreExists .., st => (.error (.directory "down"), st)
  | _, st => (.error .wrongType, st)

theorem unsure_failsAsDirectory : FailsAsDirectory unsure := by
  intro q st e hq he
  cases q with
  | secondaryStoreExists id domain =>
      cases he
      exact ⟨_, rfl⟩
  | findUsers id key value => cases he
  | _ => cases hq

/-- Of three usable claims the second has a slash in its value, so the third is not inquired. -/
def slashedClaims : Claims :=
  [("name", "A"), ("", "x"), ("born", "1990/01"), ("city", "B")]

theorem resolveUser_inquires_unsure :
    FailsAsDirectory unsure ∧ slashedClaims ≠ [] ∧ (unsure (.tenantId "t") ()).1 = .ok 7 ∧
      ∃ inquiries : List Inquiry,
        (resolveUser slashedClaims "t").exchanges unsure (fun _ => "") () 0 =
          ⟨.tenantId "t", .ok 7⟩ :: inquiries.flatMap Inquiry.exchanges ∧
        (∀ i ∈ inquiries, i.Made 7) ∧
        ∃ front i, inquiries = front ++ [i] ∧ i.claim.1 = "born" ∧ i.result = .error "down" := by
  have hclaims : slashedClaims ≠ [] := by decide
  have htenant : (unsure (.tenantId "t") ()).1 = .ok 7 := rfl
  have hresult : ((resolveUser slashedClaims "t").run unsure (fun _ => "") () 0).result =
      .error (searchFailed "born" (.directory "down")) := by decide +kernel
  obtain ⟨inquiries, htrace, hmade, -, -, -, -, hraised, -⟩ :=
    resolveUser_inquires unsure_failsAsDirectory (fun _ => "") () 0 hclaims htenant
  exact ⟨unsure_failsAsDirectory, hclaims, htenant, inquiries, htrace, hmade,
    (hraised "born" "down").1 hresult⟩

end Recovery

end AccountRecovery

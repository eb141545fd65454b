import AccountRecovery.Dialogue
/-!
# Conduct of dialogues

What a dialogue may ask, whatever it is answered.  A dialogue is *confined* to some questions if it
asks no others on any branch and takes no code.  Its run leaves alone whatever those questions leave
alone (`Confined.view_run`), and collaborators that answer those questions alike make it go alike
(`Confined.run_agree`).

The exchanges of a run are its questions with the answers that they got, in order.  Those of two
dialogues in a row are put together by `exchanges_bind`.
-/

namespace AccountRecovery

namespace Dialogue

variable {α β σ τ : Type}

@[simp] theorem bind_eq (d : Dialogue α) (f : α → Dialogue β) : d >>= f = d.bind f := rfl

@[simp] theorem pure_eq (a : α) : (pure a : Dialogue α) = done a := rfl

/-! ## Confinement -/

/-- No question but those of `P` is asked on any branch, and no code is taken. -/
def Confined (P : Call → Prop) : Dialogue α → Prop
  | done _ => True
  | fail _ => True
  | ask q next => P q ∧ ∀ r, (next r).Confined P
  | note _ next => next.Confined P
  | newCode _ => False

variable {P Q : Call → Prop}

theorem Confined.bind {d : Dialogue α} {f : α → Dialogue β} (hd : d.Confined P)
    (hf : ∀ a, (f a).Confined P) : (d.bind f).Confined P := by
  induction d with
  | done a => exact hf a
  | fail e => trivial
  | ask q next ih => exact ⟨hd.1, fun r => ih r (hd.2 r)⟩
  | note entry next ih => exact ih hd
  | newCode next ih => exact hd.elim

theorem Confined.rescue {d : Dialogue α} {h : Failure → Dialogue α} (hd : d.Confined P)
    (hh : ∀ e, (h e).Confined P) : (d.rescue h).Confined P := by
  induction d with
  | done a => trivial
  | fail e => exact hh e
  | ask q next ih => exact ⟨hd.1, fun r => ih r (hd.2 r)⟩
  | note entry next ih => exact ih hd
  | newCode next ih => exact hd.elim

theorem Confined.mono {d : Dialogue α} (hd : d.Confined P) (h : ∀ q, P q → Q q) :
    d.Confined Q := by
  induction d with
  | done a => trivial
  | fail e => trivial
  | ask q next ih => exact ⟨h q hd.1, fun r => ih r (hd.2 r)⟩
  | note entry next ih => exact ih hd
  | newCode next ih => exact hd.elim

theorem confined_ofExcept (r : Except Failure α) : (ofExcept r).Confined P := by
  cases r <;> trivial

theorem confined_call {q : Call} (hq : P q) : (call q).Confined P :=
  ⟨hq, confined_ofExcept⟩

theorem confined_log (level : Log.Level) (source : Log.Source) (message : String) :
    (log level source message).Confined P :=
  trivial

theorem confined_refuse (fault : RecoveryFault) (detail : Option String) :
    (refuse fault detail : Dialogue α).Confined P :=
  trivial

/-- Nothing changes that the questions leave alone. -/
theorem Confined.view_run {ρ : Type} {d : Dialogue α} (hd : d.Confined P) {answer : Handler σ}
    {view : σ → ρ} (keeps : ∀ q s, P q → view (answer q s).2 = view s) (codes : CodeSource)
    (s : σ) (n : Nat) : view (d.run answer codes s n).state = view s := by
  induction d generalizing s with
  | done a => rfl
  | fail e => rfl
  | ask q next ih => exact (ih _ (hd.2 _) _).trans (keeps q s hd.1)
  | note entry next ih => exact ih hd s
  | newCode next ih => exact hd.elim

theorem Confined.drawn_run {d : Dialogue α} (hd : d.Confined P) (answer : Handler σ)
    (codes : CodeSource) (s : σ) (n : Nat) : (d.run answer codes s n).drawn = n := by
  induction d generalizing s with
  | done a => rfl
  | fail e => rfl
  | ask q next ih => exact ih _ (hd.2 _) _
  | note entry next ih => exact ih hd s
  | newCode next ih => exact hd.elim

/-- Collaborators that answer the questions alike make the dialogue go alike. -/
theorem Confined.run_agree {d : Dialogue α} (hd : d.Confined P) {answer : Handler σ}
    {answer' : Handler τ} (agree : ∀ q s t, P q → (answer q s).1 = (answer' q t).1)
    (codes codes' : CodeSource) (s : σ) (t : τ) (n m : Nat) :
    (d.run answer codes s n).result = (d.run answer' codes' t m).result ∧
      (d.run answer codes s n).calls = (d.run answer' codes' t m).calls ∧
      (d.run answer codes s n).entries = (d.run answer' codes' t m).entries := by
  induction d generalizing s t with
  | done a => exact ⟨rfl, rfl, rfl⟩
  | fail e => exact ⟨rfl, rfl, rfl⟩
  | ask q next ih =>
      have hq := agree q s t hd.1
      obtain ⟨hresult, hcalls, hentries⟩ :=
        ih (answer q s).1 (hd.2 _) (answer q s).2 (answer' q t).2
      rw [hq] at hresult hcalls hentries
      refine ⟨?_, ?_, ?_⟩
      · simpa only [run, hq] using hresult
      · simpa only [run, hq] using congrArg (q :: ·) hcalls
      · simpa only [run, hq] using hentries
  | note entry next ih =>
      obtain ⟨hresult, hcalls, hentries⟩ := ih hd s t
      exact ⟨hresult, hcalls, congrArg (entry :: ·) hentries⟩
  | newCode next ih => exact hd.elim

theorem run_bind_eq_ok_iff {answer : Handler σ} {codes : CodeSource} {s : σ} {n : Nat}
    {d : Dialogue α} {f : α → Dialogue β} {b : β} :
    ((d.bind f).run answer codes s n).result = .ok b ↔
      ∃ a, (d.run answer codes s n).result = .ok a ∧
        ((f a).run answer codes (d.run answer codes s n).state
          (d.run answer codes s n).drawn).result = .ok b := by
  rw [run_bind, Outcome.andThen]
  cases (d.run answer codes s n).result with
  | ok a => simp
  | error e => simp

theorem run_rescue_eq_ok_iff {answer : Handler σ} {codes : CodeSource} {s : σ} {n : Nat}
    {d : Dialogue α} {h : Failure → Dialogue α} {a : α}
    (hh : ∀ e s n, ((h e).run answer codes s n).result ≠ .ok a) :
    ((d.rescue h).run answer codes s n).result = .ok a ↔
      (d.run answer codes s n).result = .ok a := by
  rw [run_rescue, Outcome.orElse]
  cases hresult : (d.run answer codes s n).result with
  | ok b =>
      dsimp only
      rw [hresult]
  | error e => simp [hh]

theorem run_call (q : Call) (answer : Handler σ) (codes : CodeSource) (s : σ) (n : Nat) :
    ((call q).run answer codes s n).result = (answer q s).1 ∧
      ((call q).run answer codes s n).state = (answer q s).2 ∧
        ((call q).run answer codes s n).drawn = n := by
  simp only [call, run]
  rcases (answer q s).1 with e | a
  · exact ⟨rfl, rfl, rfl⟩
  · exact ⟨rfl, rfl, rfl⟩

/-! ## Exchanges -/

structure Exchange where
  call : Call
  answer : call.Answer

def exchanges (answer : Handler σ) (codes : CodeSource) :
    Dialogue α → (state : σ) → (drawn : Nat) → List Exchange
  | done _, _, _ => []
  | fail _, _, _ => []
  | ask q next, s, n =>
    ⟨q, (answer q s).1⟩ :: (next (answer q s).1).exchanges answer codes (answer q s).2 n
  | note _ next, s, n => next.exchanges answer codes s n
  | newCode next, s, n => (next (codes n)).exchanges answer codes s (n + 1)

/-- The exchanges after an outcome, if that is no failure. -/
def Outcome.exchangesAfter (o : Outcome σ α) (next : α → σ → Nat → List Exchange) :
    List Exchange :=
  match o.result with
  | .ok a => next a o.state o.drawn
  | .error _ => []

theorem Outcome.ok_of_exchangesAfter {o : Outcome σ α} {next : α → σ → Nat → List Exchange}
    {x : Exchange} {before after : List Exchange}
    (h : o.exchangesAfter next = before ++ x :: after) :
    ∃ a, o.result = .ok a ∧ next a o.state o.drawn = before ++ x :: after := by
  unfold exchangesAfter at h
  split at h
  · next a hresult => exact ⟨a, hresult, h⟩
  · simp at h

variable (answer : Handler σ) (codes : CodeSource) (s : σ) (n : Nat)

theorem map_call_exchanges (d : Dialogue α) :
    (d.exchanges answer codes s n).map Exchange.call = (d.run answer codes s n).calls := by
  induction d generalizing s n with
  | done a => rfl
  | fail e => rfl
  | ask q next ih => exact congrArg (q :: ·) (ih _ _ _)
  | note entry next ih => exact ih _ _
  | newCode next ih => exact ih _ _ _

theorem exchanges_bind (d : Dialogue α) (f : α → Dialogue β) :
    (d.bind f).exchanges answer codes s n =
      d.exchanges answer codes s n ++
        (d.run answer codes s n).exchangesAfter fun a => (f a).exchanges answer codes := by
  induction d generalizing s n with
  | done a => rfl
  | fail e => rfl
  | ask q next ih =>
      simp only [Dialogue.bind, exchanges, ih, List.cons_append]
      rfl
  | note entry next ih => exact ih s n
  | newCode next ih => exact ih (codes n) s (n + 1)

theorem exchanges_bind_of_ok {d : Dialogue α} {a : α}
    (h : (d.run answer codes s n).result = .ok a) (f : α → Dialogue β) :
    (d.bind f).exchanges answer codes s n =
      d.exchanges answer codes s n ++
        (f a).exchanges answer codes (d.run answer codes s n).state
          (d.run answer codes s n).drawn := by
  rw [exchanges_bind, Outcome.exchangesAfter, h]

theorem Confined.exchanges {d : Dialogue α} (hd : d.Confined P) :
    ∀ x ∈ d.exchanges answer codes s n, P x.call := by
  induction d generalizing s with
  | done a => simp [Dialogue.exchanges]
  | fail e => simp [Dialogue.exchanges]
  | ask q next ih =>
      intro x hx
      rcases List.mem_cons.1 hx with rfl | hx
      · exact hd.1
      · exact ih _ _ (hd.2 _) x hx
  | note entry next ih => exact ih s hd
  | newCode next ih => exact hd.elim

theorem exchanges_bind_of_silent (d : Dialogue α) {f : α → Dialogue β}
    (hf : ∀ a, (f a).Confined fun _ => False) :
    (d.bind f).exchanges answer codes s n = d.exchanges answer codes s n := by
  rw [exchanges_bind, List.append_right_eq_self]
  unfold Outcome.exchangesAfter
  split
  · exact List.eq_nil_iff_forall_not_mem.2 ((hf _).exchanges answer codes _ _)
  · rfl

theorem exchanges_rescue_of_silent (d : Dialogue α) {h : Failure → Dialogue α}
    (hh : ∀ e, (h e).Confined fun _ => False) :
    (d.rescue h).exchanges answer codes s n = d.exchanges answer codes s n := by
  induction d generalizing s n with
  | done a => rfl
  | fail e => exact List.eq_nil_iff_forall_not_mem.2 ((hh e).exchanges answer codes s n)
  | ask q next ih =>
      simp only [rescue, exchanges, ih]
  | note entry next ih => exact ih s n
  | newCode next ih => exact ih (codes n) s (n + 1)

theorem exchanges_rescue (d : Dialogue α) (h : Failure → Dialogue α) :
    (d.rescue h).exchanges answer codes s n =
      d.exchanges answer codes s n ++
        match (d.run answer codes s n).result with
        | .ok _ => []
        | .error e =>
          (h e).exchanges answer codes (d.run answer codes s n).state
            (d.run answer codes s n).drawn := by
  induction d generalizing s n with
  | done a => rfl
  | fail e => rfl
  | ask q next ih =>
      simp only [rescue, exchanges, ih, List.cons_append]
      rfl
  | note entry next ih => exact ih s n
  | newCode next ih => exact ih (codes n) s (n + 1)

theorem exchanges_call (q : Call) :
    (call q).exchanges answer codes s n = [⟨q, (answer q s).1⟩] := by
  unfold call exchanges
  rcases (answer q s).1 with e | a
  · rfl
  · rfl

theorem exchanges_call_bind (q : Call) (f : q.Reply → Dialogue β) :
    (∃ e, (answer q s).1 = .error e ∧
        ((call q).bind f).exchanges answer codes s n = [⟨q, .error e⟩]) ∨
      ∃ a, (answer q s).1 = .ok a ∧
        ((call q).bind f).exchanges answer codes s n =
          ⟨q, .ok a⟩ :: (f a).exchanges answer codes (answer q s).2 n := by
  obtain ⟨hresult, hstate, hdrawn⟩ := run_call q answer codes s n
  rw [exchanges_bind, exchanges_call, Outcome.exchangesAfter, hresult, hstate, hdrawn]
  rcases (answer q s).1 with e | a
  · exact .inl ⟨e, rfl, rfl⟩
  · exact .inr ⟨a, rfl, rfl⟩

theorem mem_exchanges_bind {d : Dialogue α} {f : α → Dialogue β} {x : Exchange} :
    x ∈ (d.bind f).exchanges answer codes s n ↔
      x ∈ d.exchanges answer codes s n ∨
        ∃ a, (d.run answer codes s n).result = .ok a ∧
          x ∈ (f a).exchanges answer codes (d.run answer codes s n).state
            (d.run answer codes s n).drawn := by
  rw [exchanges_bind, List.mem_append, Outcome.exchangesAfter]
  cases (d.run answer codes s n).result with
  | ok a => simp
  | error e => simp

theorem Confined.split_bind {d : Dialogue α} (hd : d.Confined P) {f : α → Dialogue β} {x : Exchange}
    (hx : ¬P x.call) {before after : List Exchange}
    (h : (d.bind f).exchanges answer codes s n = before ++ x :: after) :
    ∃ a rest, (d.run answer codes s n).result = .ok a ∧
      before = d.exchanges answer codes s n ++ rest ∧
        (f a).exchanges answer codes (d.run answer codes s n).state
          (d.run answer codes s n).drawn = rest ++ x :: after := by
  rw [exchanges_bind, List.append_eq_append_iff] at h
  rcases h with ⟨rest, hbefore, hrest⟩ | ⟨rest, hfirst, hrest⟩
  · obtain ⟨a, hresult, hnext⟩ := Outcome.ok_of_exchangesAfter hrest
    exact ⟨a, rest, hresult, hbefore, hnext⟩
  · -- What is left of the first dialogue is empty, or it starts with the question.
    cases rest with
    | nil =>
        obtain ⟨a, hresult, hnext⟩ :=
          Outcome.ok_of_exchangesAfter (show _ = [] ++ x :: after from hrest.symm)
        rw [List.append_nil] at hfirst
        exact ⟨a, [], hresult, by rw [hfirst, List.append_nil], hnext⟩
    | cons y rest =>
        rw [List.cons_append, List.cons.injEq] at hrest
        refine (hx (hd.exchanges answer codes s n x ?_)).elim
        rw [hfirst, hrest.1]
        simp

/-- However it is answered, a dialogue has no more than `k` exchanges of a kind. -/
def AtMost (kind : Exchange → Bool) (k : Nat) (d : Dialogue α) : Prop :=
  ∀ {σ : Type} (answer : Handler σ) (codes : CodeSource) (s : σ) (n : Nat),
    (d.exchanges answer codes s n).countP kind ≤ k

variable {kind : Exchange → Bool} {j k : Nat}

theorem AtMost.bind {d : Dialogue α} {f : α → Dialogue β} (hd : d.AtMost kind j)
    (hf : ∀ a, (f a).AtMost kind k) : (d.bind f).AtMost kind (j + k) := by
  intro σ answer codes s n
  rw [exchanges_bind, List.countP_append]
  refine Nat.add_le_add (hd answer codes s n) ?_
  unfold Outcome.exchangesAfter
  split
  · exact hf _ answer codes _ _
  · exact Nat.zero_le k

theorem Confined.atMost {d : Dialogue α} (hd : d.Confined P) (h : ∀ x, P x.call → kind x = false) :
    d.AtMost kind 0 := by
  intro σ answer codes s n
  rw [Nat.le_zero, List.countP_eq_zero]
  intro x hx
  rw [h x (hd.exchanges answer codes s n x hx)]
  exact Bool.false_ne_true

/-! ## Simulation -/

def Outcome.mapState (f : σ → τ) (o : Outcome σ α) : Outcome τ α :=
  ⟨o.result, f o.state, o.drawn, o.calls, o.entries⟩

/-- Collaborators whose state is that of others, seen in another way, make every dialogue go as
those do. -/
theorem run_mapState {answer' : Handler τ} {f : σ → τ}
    (simulates : ∀ q s, answer' q (f s) = ((answer q s).1, f (answer q s).2)) (d : Dialogue α) :
    d.run answer' codes (f s) n = (d.run answer codes s n).mapState f := by
  induction d generalizing s n with
  | done a => rfl
  | fail e => rfl
  | ask q next ih =>
      simp only [run, simulates, ih]
      rfl
  | note entry next ih =>
      simp only [run, ih]
      rfl
  | newCode next ih => exact ih (codes n) s (n + 1)

end Dialogue

end AccountRecovery

import AccountRecovery.Database.Store
import Mathlib.Data.List.Basic
/-!
# Work on connections

What sessions do to a pool.  A session plays a script of events as far as none of them fails, and if
all of them happen it comes to a verdict (`Plays`).  Work on a connection that plays a script and
has its failures told goes in one of four ways (`Conducted`): the connection is refused, an event of
the script fails, leaving the connection fails, or nothing does.
-/

namespace AccountRecovery.Database

namespace Pool

def after (p : Pool) (es : List Event) : Pool :=
  { p with events := p.events ++ es }

/-- How an event fails if it happens now. -/
def failure? (p : Pool) (e : Event) : Option Failure :=
  p.faults e.name (p.count e.name + 1)

/-- None of the events fails if they happen now, one after the other. -/
def Passes (p : Pool) : List Event → Prop
  | [] => True
  | e :: es => p.failure? e = none ∧ (p.after [e]).Passes es

/-- What is left of a pool after events: fewer rows, the same faults. -/
structure Follows (p p' : Pool) (es : List Event) : Prop where
  faults : p'.faults = p.faults
  events : p'.events = p.events ++ es
  rows : p'.rows <:+ p.rows

def FailsAsDatabase (p : Pool) : Prop :=
  ∀ name n f, p.faults name n = some f → ∃ e, f = .database e

variable {p p' p'' : Pool} {e : Event} {es es' before rest : List Event} {f : Failure}

theorem after_after (p : Pool) (es es' : List Event) :
    (p.after es).after es' = p.after (es ++ es') := by
  simp only [after, List.append_assoc]

@[simp] theorem after_nil (p : Pool) : p.after [] = p := by
  simp [after]

@[simp] theorem rows_after (p : Pool) (es : List Event) : (p.after es).rows = p.rows := rfl

theorem follows_after (p : Pool) (es : List Event) : p.Follows (p.after es) es :=
  ⟨rfl, rfl, List.suffix_rfl⟩

theorem Follows.trans (h : p.Follows p' es) (h' : p'.Follows p'' es') :
    p.Follows p'' (es ++ es') where
  faults := h'.faults.trans h.faults
  events := by rw [h'.events, h.events, List.append_assoc]
  rows := h'.rows.trans h.rows

/-- Events fail by what has happened before, whatever rows are left. -/
theorem Follows.failure?_eq (h : p.Follows p' es) (es' : List Event) (e : Event) :
    (p'.after es').failure? e = (p.after (es ++ es')).failure? e := by
  simp only [failure?, after, count, h.faults, h.events, List.append_assoc]

theorem Follows.passes_iff (h : p.Follows p' es) (es' : List Event) :
    p'.Passes es' ↔ (p.after es).Passes es' := by
  -- Generalized over what has been done, since each event is judged after those before it.
  have hsame : ∀ done, (p'.after done).Passes es' ↔ (p.after (es ++ done)).Passes es' := by
    induction es' with
    | nil => exact fun done => Iff.rfl
    | cons e es' ih =>
        intro done
        simp only [Passes, after_after, h.failure?_eq, ih, List.append_assoc]
  simpa using hsame []

theorem FailsAsDatabase.of_error (err : DatabaseError)
    (h : ∀ name n, p.faults name n = some (.database err) ∨ p.faults name n = none) :
    p.FailsAsDatabase := by
  intro name n f hf
  rcases h name n with herr | hnone
  · rw [herr] at hf
    cases hf
    exact ⟨err, rfl⟩
  · rw [hnone] at hf
    cases hf

theorem FailsAsDatabase.of_faults_eq (h : p.FailsAsDatabase) (hfaults : p'.faults = p.faults) :
    p'.FailsAsDatabase := by
  unfold FailsAsDatabase
  rwa [hfaults]

theorem FailsAsDatabase.of_follows (h : p.FailsAsDatabase) (hfollows : p.Follows p' es) :
    p'.FailsAsDatabase :=
  h.of_faults_eq hfollows.faults

theorem FailsAsDatabase.of_failure? (h : p.FailsAsDatabase) {done : List Event}
    (hfails : (p.after done).failure? e = some f) : ∃ err, f = .database err :=
  h _ _ _ hfails

theorem passes_append : p.Passes (es ++ es') ↔ p.Passes es ∧ (p.after es).Passes es' := by
  induction es generalizing p with
  | nil => simp [Passes]
  | cons e es ih =>
      rw [List.cons_append, Passes, Passes, ih, after_after, and_assoc]
      rfl

theorem Passes.split (h : p.Passes es) (hsplit : es ++ es' = before ++ e :: rest)
    (hfails : (p.after before).failure? e = some f) :
    ∃ mid, before = es ++ mid ∧ es' = mid ++ e :: rest := by
  rcases List.append_eq_append_iff.1 hsplit with ⟨mid, hbefore, hrest⟩ | ⟨mid, hes, hrest⟩
  · exact ⟨mid, hbefore, hrest⟩
  · cases mid with
    | nil => exact ⟨[], by simpa using hes.symm, hrest.symm⟩
    | cons x mid =>
        rw [List.cons_append, List.cons.injEq] at hrest
        obtain ⟨rfl, -⟩ := hrest
        rw [hes, passes_append] at h
        rw [h.2.1] at hfails
        cases hfails

end Pool

open Session

variable {α β : Type} {p p' : Pool} {e : Event} {f : Failure}

/-! ## Running sessions -/

theorem run_bind_of_ok {x : Session α} {a : α} (g : α → Session β) (h : x.run p = (.ok a, p')) :
    (x >>= g).run p = (g a).run p' := by
  change (match x.run p with | (r, p) => ExceptT.bindCont g r p) = _
  rw [h]
  rfl

theorem run_bind_of_error {x : Session α} (g : α → Session β) (h : x.run p = (.error f, p')) :
    (x >>= g).run p = (.error f, p') := by
  change (match x.run p with | (r, p) => ExceptT.bindCont g r p) = _
  rw [h]
  rfl

theorem run_bind_still {x : Session α} {r : Except Failure α} (h : x.run p = (r, p'))
    {y : α → Session β} (g : α → Except Failure β) (hy : ∀ a, (y a).run p' = (g a, p')) :
    (x >>= y).run p = (r.bind g, p') := by
  cases r with
  | ok a => exact (run_bind_of_ok y h).trans (hy a)
  | error f => exact run_bind_of_error y h

theorem run_happen (e : Event) (p : Pool) :
    (happen e).run p =
      ((p.failure? e).elim (.ok ()) .error, p.after [e]) := by
  have hcount : (p.after [e]).count e.name = p.count e.name + 1 := by
    simp [Pool.count, Pool.after]
  have hmodify : (modify fun p => { p with events := p.events ++ [e] } : Session Unit).run p =
      (.ok (), p.after [e]) := rfl
  have hget : (get : Session Pool).run (p.after [e]) = (.ok (p.after [e]), p.after [e]) := rfl
  have hfaults : (p.after [e]).faults = p.faults := rfl
  unfold happen
  rw [run_bind_of_ok _ hmodify, run_bind_of_ok _ hget, hfaults, hcount]
  unfold Pool.failure?
  cases p.faults e.name (p.count e.name + 1) <;> rfl

theorem run_happen_of_passes (h : p.failure? e = none) :
    (happen e).run p = (.ok (), p.after [e]) := by
  rw [run_happen, h]
  rfl

theorem run_happen_of_fails (h : p.failure? e = some f) :
    (happen e).run p = (.error f, p.after [e]) := by
  rw [run_happen, h]
  rfl

def failureOf : Except Failure α → Option Failure
  | .ok _ => none
  | .error f => some f

theorem run_withConnection_of_refused {x : Session α} (h : p.failure? .connection = some f) :
    (withConnection x).run p = (.error f, p.after [.connection]) :=
  run_bind_of_error _ (run_happen_of_fails h)

/-- A connection is left with the result of the work on it, or with the failure to leave it. -/
theorem run_withConnection {x : Session α} {r : Except Failure α}
    (h : p.failure? .connection = none) (hx : x.run (p.after [.connection]) = (r, p')) :
    (withConnection x).run p =
      ((p'.failure? (.exit (failureOf r))).elim r .error, p'.after [.exit (failureOf r)]) := by
  unfold withConnection
  rw [run_bind_of_ok _ (run_happen_of_passes h)]
  have hwork : (liftM (x.run : StateM Pool (Except Failure α)) :
      Session (Except Failure α)).run (p.after [.connection]) = (.ok r, p') := by
    change ((.ok (x.run (p.after [.connection])).1, (x.run (p.after [.connection])).2) :
      Except Failure (Except Failure α) × Pool) = _
    rw [hx]
  rw [run_bind_of_ok _ hwork]
  cases r with
  | ok a =>
      change (happen (.exit none) >>= fun _ => pure a : Session α).run p' = _
      cases hexit : p'.failure? (.exit none) with
      | none =>
          rw [run_bind_of_ok _ (run_happen_of_passes hexit), failureOf, hexit]
          rfl
      | some f =>
          rw [run_bind_of_error _ (run_happen_of_fails hexit), failureOf, hexit]
          rfl
  | error e =>
      change (happen (.exit (some e)) >>= fun _ => throw e : Session α).run p' = _
      cases hexit : p'.failure? (.exit (some e)) with
      | none =>
          rw [run_bind_of_ok _ (run_happen_of_passes hexit), failureOf, hexit]
          rfl
      | some f =>
          rw [run_bind_of_error _ (run_happen_of_fails hexit), failureOf, hexit]
          rfl

def asTold (task : String) : Failure → Failure
  | .database e =>
    .store ⟨.general, task ++ ": " ++ e.message, StoreFault.general.code, some e⟩
  | f => f

theorem run_asStoreError {x : Session α} {r : Except Failure α} (task : String)
    (h : x.run p = (r, p')) :
    (asStoreError task x).run p = (r.mapError (asTold task), p') := by
  have hx : (x : StateM Pool (Except Failure α)) p = (r, p') := h
  unfold asStoreError
  simp only [tryCatch, tryCatchThe, MonadExceptOf.tryCatch, ExceptT.tryCatch, ExceptT.run,
    ExceptT.mk, bind, StateT.bind, hx]
  cases r with
  | ok a => rfl
  | error f => cases f <;> rfl

/-! ## Scripts -/

/-- The session lets the events of the script happen, up to the first that fails, and comes to the
verdict if none does. -/
def Plays (x : Session α) (p : Pool) (script : List Event) (v : Except Failure α) : Prop :=
  (∃ p', x.run p = (v, p') ∧ p.Follows p' script ∧ p.Passes script) ∨
    ∃ before e rest f p', script = before ++ e :: rest ∧ p.Passes before ∧
      (p.after before).failure? e = some f ∧ x.run p = (.error f, p') ∧
        p.Follows p' (before ++ [e])

variable {script : List Event} {v : Except Failure α}

theorem plays_pure (a : α) : Plays (pure a) p [] (.ok a) :=
  .inl ⟨p, rfl, by simpa using p.follows_after [], trivial⟩

theorem plays_throw (f : Failure) : Plays (throw f : Session α) p [] (.error f) :=
  .inl ⟨p, rfl, by simpa using p.follows_after [], trivial⟩

theorem Plays.after {x : Session β} {g : β → Session α} {b : β} (hpass : p.failure? e = none)
    (hrun : x.run p = (.ok b, p')) (hfollows : p.Follows p' [e]) (h : Plays (g b) p' script v) :
    Plays (x >>= g) p (e :: script) v := by
  rcases h with ⟨p'', hg, hfollows', hpasses⟩ |
    ⟨before, e', rest, f, p'', rfl, hpasses, hfails, hg, hfollows'⟩
  · refine .inl ⟨p'', (run_bind_of_ok g hrun).trans hg, hfollows.trans hfollows', hpass, ?_⟩
    exact (hfollows.passes_iff script).1 hpasses
  · refine .inr ⟨e :: before, e', rest, f, p'', rfl, ⟨hpass, ?_⟩, ?_,
      (run_bind_of_ok g hrun).trans hg, hfollows.trans hfollows'⟩
    · exact (hfollows.passes_iff before).1 hpasses
    · rwa [hfollows.failure?_eq] at hfails

theorem plays_of_fails {x : Session β} {g : β → Session α} (hfails : p.failure? e = some f)
    (hrun : x.run p = (.error f, p')) (hfollows : p.Follows p' [e]) :
    Plays (x >>= g) p (e :: script) v :=
  .inr ⟨[], e, script, f, p', rfl, trivial, by rwa [Pool.after_nil], run_bind_of_error g hrun,
    hfollows⟩

theorem plays_happen {g : Unit → Session α} (h : Plays (g ()) (p.after [e]) script v) :
    Plays (happen e >>= g) p (e :: script) v := by
  cases hfails : p.failure? e with
  | none => exact h.after hfails (run_happen_of_passes hfails) (p.follows_after [e])
  | some f => exact plays_of_fails hfails (run_happen_of_fails hfails) (p.follows_after [e])

theorem plays_last (e : Event) (p : Pool) : Plays (happen e) p [e] (.ok ()) := by
  rw [← bind_pure (happen e)]
  exact plays_happen (plays_pure ())

theorem plays_fetchOne {g : Option Row → Session α}
    (h : ∀ p', p.Follows p' [.fetchOne] → Plays (g p.rows.head?.join) p' script v) :
    Plays (fetchOne >>= g) p (.fetchOne :: script) v := by
  cases hfails : p.failure? .fetchOne with
  | none =>
      let p' : Pool := { p.after [.fetchOne] with rows := p.rows.tail }
      have hrun : fetchOne.run p = (.ok p.rows.head?.join, p') := by
        refine (run_bind_of_ok _ (run_happen_of_passes hfails)).trans ?_
        rcases p with ⟨_ | ⟨row, rows⟩, faults, events⟩ <;> rfl
      have hfollows : p.Follows p' [.fetchOne] := ⟨rfl, rfl, List.tail_suffix _⟩
      exact (h p' hfollows).after hfails hrun hfollows
  | some f =>
      exact plays_of_fails hfails (run_bind_of_error _ (run_happen_of_fails hfails))
        (p.follows_after [.fetchOne])

/-! ## Work on a connection of its own -/

/-- The ways in which work goes that plays a script on a connection, with its failures told. -/
inductive Conducted (task : String) (p : Pool) (script : List Event) (v : Except Failure α) :
    List Event → Except Failure α → Prop
  | refused (f : Failure) (fails : p.failure? .connection = some f) :
      Conducted task p script v [.connection] (.error (asTold task f))
  | broken (before : List Event) (e : Event) (rest : List Event) (f : Failure)
      (split : script = before ++ e :: rest) (passes : p.Passes (.connection :: before))
      (fails : (p.after (.connection :: before)).failure? e = some f) :
      Conducted task p script v (.connection :: before ++ [e, .exit (some f)])
        (.error (asTold task
          (((p.after (.connection :: before ++ [e])).failure? (.exit (some f))).getD f)))
  | unleft (f : Failure) (passes : p.Passes (.connection :: script))
      (fails : (p.after (.connection :: script)).failure? (.exit (failureOf v)) = some f) :
      Conducted task p script v (.connection :: script ++ [.exit (failureOf v)])
        (.error (asTold task f))
  | finished (passes : p.Passes (.connection :: script ++ [.exit (failureOf v)])) :
      Conducted task p script v (.connection :: script ++ [.exit (failureOf v)]) v

theorem mapError_elim (g : Failure → Failure) (f : Failure) (o : Option Failure) :
    (o.elim (.error f) .error : Except Failure α).mapError g = .error (g (o.getD f)) := by
  cases o <;> rfl

theorem run_told {x : Session α} {es : List Event} {r : Except Failure α} (task : String)
    (hconnection : p.failure? .connection = none) (hx : x.run (p.after [.connection]) = (r, p'))
    (hfollows : (p.after [.connection]).Follows p' es) :
    ∃ p'', p.Follows p'' (.connection :: es ++ [.exit (failureOf r)]) ∧
      (asStoreError task (withConnection x)).run p =
        ((((p.after (.connection :: es)).failure? (.exit (failureOf r))).elim r .error).mapError
          (asTold task), p'') := by
  have hall : p.Follows p' (.connection :: es) := (p.follows_after _).trans hfollows
  have hexit := hall.failure?_eq [] (.exit (failureOf r))
  rw [Pool.after_nil, List.append_nil] at hexit
  rw [← hexit]
  exact ⟨_, hall.trans (p'.follows_after _),
    run_asStoreError task (run_withConnection hconnection hx)⟩

theorem Conducted.bind {task : String} {es : List Event} {r : Except Failure α}
    (h : Conducted task p script v es r) (g : α → Except Failure β)
    (hg : ∀ a, v = .ok a → ∃ b, g a = .ok b) :
    Conducted task p script (v.bind g) es (r.bind g) := by
  have hsame : failureOf (v.bind g) = failureOf v := by
    cases v with
    | error f => rfl
    | ok a =>
        obtain ⟨b, hb⟩ := hg a rfl
        change failureOf (g a) = none
        rw [hb]
        rfl
  cases h with
  | refused f fails => exact .refused f fails
  | broken before e rest f split passes fails => exact .broken before e rest f split passes fails
  | unleft f passes fails =>
      rw [← hsame] at fails ⊢
      exact .unleft f passes fails
  | finished passes =>
      rw [← hsame] at passes ⊢
      exact .finished passes

/-- Work on a connection goes in one of these ways, if its verdict is no failure of the database. -/
theorem conducted {x : Session α} (task : String)
    (plays : Plays x (p.after [.connection]) script v)
    (hv : v.mapError (asTold task) = v) :
    ∃ es r p', (asStoreError task (withConnection x)).run p = (r, p') ∧ p.Follows p' es ∧
      Conducted task p script v es r := by
  cases hconnection : p.failure? .connection with
  | some f =>
      exact ⟨_, _, _, run_asStoreError task (run_withConnection_of_refused hconnection),
        p.follows_after _, .refused f hconnection⟩
  | none =>
      rcases plays with ⟨p', hrun, hfollows, hpasses⟩ |
        ⟨before, e, rest, f, p', hsplit, hpasses, hfails, hrun, hfollows⟩
      · have hbody : p.Passes (.connection :: script) := ⟨hconnection, hpasses⟩
        obtain ⟨p'', hleft, htold⟩ := run_told task hconnection hrun hfollows
        refine ⟨_, _, p'', htold, hleft, ?_⟩
        cases hexit : (p.after (.connection :: script)).failure? (.exit (failureOf v)) with
        | none =>
            rw [Option.elim_none, hv]
            exact .finished (Pool.passes_append.2 ⟨hbody, hexit, trivial⟩)
        | some f => exact .unleft f hbody hexit
      · rw [Pool.after_after] at hfails
        obtain ⟨p'', hleft, htold⟩ := run_told task hconnection hrun hfollows
        have hevents : Event.connection :: (before ++ [e]) ++ [.exit (some f)] =
            .connection :: before ++ [e, .exit (some f)] := by simp
        rw [failureOf, hevents] at hleft
        refine ⟨_, _, p'', htold, hleft, ?_⟩
        rw [failureOf, mapError_elim]
        exact .broken before e rest f hsplit ⟨hconnection, hpasses⟩ hfails

theorem conducted_write (task : String) (s : Statement) (params : Option (List Cell)) :
    ∃ es r p', (asStoreError task (withConnection do execute s params; commit)).run p = (r, p') ∧
      p.Follows p' es ∧ Conducted task p [.execute s params, .commit] (.ok ()) es r := by
  have hplays : Plays (do execute s params; commit) (p.after [.connection])
      [.execute s params, .commit] (.ok ()) := plays_happen (plays_last _ _)
  exact conducted task hplays rfl

namespace Conducted

variable {task : String} {es : List Event} {r : Except Failure α}

/-- Work that is not told as failed has gone through, and it has left its connection. -/
theorem settled (h : Conducted task p script v es r) (faults : p.FailsAsDatabase)
    (hr : ∀ err, r ≠ .error (asTold task (.database err))) :
    p.Passes es ∧ es = .connection :: script ++ [.exit (failureOf v)] ∧ r = v := by
  cases h with
  | refused f fails =>
      obtain ⟨err, rfl⟩ := faults _ _ _ fails
      exact (hr err rfl).elim
  | broken before e rest f split passes fails =>
      obtain ⟨err, rfl⟩ := faults.of_failure? fails
      cases hexit : (p.after (.connection :: before ++ [e])).failure? (.exit (some (.database err)))
        with
      | none => exact (hr err (by rw [hexit]; rfl)).elim
      | some f' =>
          obtain ⟨err', rfl⟩ := faults.of_failure? hexit
          exact (hr err' (by rw [hexit]; rfl)).elim
  | unleft f passes fails =>
      obtain ⟨err, rfl⟩ := faults.of_failure? fails
      exact (hr err rfl).elim
  | finished passes => exact ⟨passes, rfl, rfl⟩

theorem eq_verdict_of_passes (h : Conducted task p script v es r)
    (passes : p.Passes (.connection :: script ++ [.exit (failureOf v)])) : r = v := by
  cases h with
  | refused f fails =>
      have hpass : p.failure? .connection = none := passes.1
      rw [hpass] at fails
      cases fails
  | broken before e rest f split passed fails =>
      have hsplit : Event.connection :: script ++ [.exit (failureOf v)] =
          (.connection :: before) ++ e :: (rest ++ [.exit (failureOf v)]) := by
        rw [split]
        simp
      rw [hsplit, Pool.passes_append] at passes
      have hpass : (p.after (.connection :: before)).failure? e = none := passes.2.1
      rw [hpass] at fails
      cases fails
  | unleft f passed fails =>
      rw [Pool.passes_append] at passes
      have hpass : (p.after (.connection :: script)).failure? (.exit (failureOf v)) = none :=
        passes.2.1
      rw [hpass] at fails
      cases fails
  | finished passed => rfl

theorem of_faultless (h : Conducted task p script v es r)
    (faultless : ∀ name n, p.faults name n = none) :
    es = .connection :: script ++ [.exit (failureOf v)] ∧ r = v := by
  have hnone (done : List Event) (e : Event) : (p.after done).failure? e = none := faultless _ _
  cases h with
  | refused f fails =>
      rw [← p.after_nil, hnone] at fails
      cases fails
  | broken before e rest f split passes fails =>
      rw [hnone] at fails
      cases fails
  | unleft f passes fails =>
      rw [hnone] at fails
      cases fails
  | finished passes => exact ⟨rfl, rfl⟩

/-- An event that fails is told, unless leaving the connection fails too, and is followed by that
only. -/
theorem told (h : Conducted task p script v es r) (faults : p.FailsAsDatabase)
    {earlier later : List Event} {err : DatabaseError} (hsplit : es = earlier ++ e :: later)
    (hfails : (p.after earlier).failure? e = some (.database err)) :
    (∀ x ∈ later, x.name = .exit) ∧ ∃ err', r = .error (asTold task (.database err')) ∧
      ((p.after (earlier ++ [e])).Passes later → err' = err) := by
  cases h with
  | refused f fails =>
      cases earlier with
      | nil =>
          cases hsplit
          rw [Pool.after_nil, fails] at hfails
          cases hfails
          exact ⟨by simp, err, rfl, fun _ => rfl⟩
      | cons x earlier => simp at hsplit
  | broken before e' rest f split passes fails =>
      obtain ⟨mid, rfl, hmid⟩ := passes.split hsplit hfails
      cases mid with
      | nil =>
          -- The event itself has failed; leaving the connection comes after it.
          cases hmid
          rw [List.append_nil, fails] at hfails
          cases hfails
          rw [List.append_nil]
          refine ⟨by simp [Event.name], ?_⟩
          cases hexit : (p.after (.connection :: before ++ [e])).failure?
              (.exit (some (.database err))) with
          | none => exact ⟨err, rfl, fun _ => rfl⟩
          | some f' =>
              obtain ⟨err', rfl⟩ := faults.of_failure? hexit
              refine ⟨err', rfl, fun hlater => ?_⟩
              rw [hlater.1] at hexit
              cases hexit
      | cons x mid =>
          cases mid with
          | nil =>
              cases hmid
              rw [hfails]
              exact ⟨by simp, err, rfl, fun _ => rfl⟩
          | cons y mid => simp at hmid
  | unleft f passes fails =>
      obtain ⟨mid, rfl, hmid⟩ := passes.split hsplit hfails
      cases mid with
      | nil =>
          cases hmid
          rw [List.append_nil, fails] at hfails
          cases hfails
          exact ⟨by simp, err, rfl, fun _ => rfl⟩
      | cons x mid => simp at hmid
  | finished passes =>
      have hsplit' := hsplit
      rw [← List.append_nil (_ ++ _)] at hsplit'
      obtain ⟨mid, -, hmid⟩ := passes.split hsplit' hfails
      simp at hmid

theorem left (h : Conducted task p script v es r) :
    (es = [.connection] ∧ p.failure? .connection ≠ none) ∨
      ∃ inner why, es = .connection :: inner ++ [.exit why] ∧ p.failure? .connection = none ∧
        inner ⊆ script := by
  cases h with
  | refused f fails => exact .inl ⟨rfl, by simp [fails]⟩
  | broken before e rest f split passes fails =>
      refine .inr ⟨before ++ [e], some f, by simp, passes.1, ?_⟩
      rw [split]
      exact List.append_subset.2 ⟨by simp, by simp⟩
  | unleft f passes fails => exact .inr ⟨script, _, rfl, passes.1, List.Subset.refl _⟩
  | finished passes => exact .inr ⟨script, _, rfl, passes.1, List.Subset.refl _⟩

theorem mem_script (h : Conducted task p script v es r) {x : Event} (hx : x ∈ es)
    (hconnection : x.name ≠ .connection) (hexit : x.name ≠ .exit) : x ∈ script := by
  rcases h.left with ⟨rfl, -⟩ | ⟨inner, why, rfl, -, hinner⟩
  · rw [List.mem_singleton.1 hx] at hconnection
    exact (hconnection rfl).elim
  · rcases List.mem_append.1 hx with hx | hx
    · rcases List.mem_cons.1 hx with rfl | hx
      · exact (hconnection rfl).elim
      · exact hinner hx
    · rw [List.mem_singleton.1 hx] at hexit
      exact (hexit rfl).elim

variable {earlier later : List Event} {x : Event}

theorem mem_happened {before : List Event} {why : Option Failure}
    (hx : x ∈ .connection :: before ++ [e, .exit why]) (hconnection : x.name ≠ .connection)
    (hexit : x.name ≠ .exit) : x ∈ before ++ [e] := by
  simp only [List.cons_append, List.mem_cons, List.mem_append, List.not_mem_nil, or_false] at hx ⊢
  rcases hx with rfl | hx | hx | rfl
  · exact (hconnection rfl).elim
  · exact .inl hx
  · exact .inr hx
  · exact (hexit rfl).elim

theorem passed (h : Conducted task p (earlier ++ e :: later) v es r) (hx : x ∈ es)
    (hconnection : x.name ≠ .connection) (hexit : x.name ≠ .exit) (hnew : x ∉ earlier ++ [e]) :
    ∃ rest, es = .connection :: earlier ++ e :: rest ∧
      (p.after (.connection :: earlier)).failure? e = none := by
  have hall (hpasses : p.Passes (.connection :: (earlier ++ e :: later))) :
      (p.after (.connection :: earlier)).failure? e = none := by
    rw [← List.cons_append, Pool.passes_append] at hpasses
    exact hpasses.2.1
  cases h with
  | refused f fails =>
      rw [List.mem_singleton.1 hx] at hconnection
      exact (hconnection rfl).elim
  | broken before e' rest f split passes fails =>
      have hhappened : x ∈ before ++ [e'] := mem_happened hx hconnection hexit
      -- Where the event that fails stands in the script: after the earlier one, or not.
      rcases List.append_eq_append_iff.1 split with ⟨mid, rfl, hmid⟩ | ⟨mid, rfl, hmid⟩
      · cases mid with
        | nil =>
            cases hmid
            rw [List.append_nil] at hhappened
            exact (hnew hhappened).elim
        | cons y mid =>
            cases hmid
            refine ⟨mid ++ [e', .exit (some f)], by simp, ?_⟩
            rw [← List.cons_append, Pool.passes_append] at passes
            exact passes.2.1
      · cases mid with
        | nil =>
            cases hmid
            exact (hnew (by simpa using hhappened)).elim
        | cons y mid =>
            cases hmid
            rw [List.mem_append, List.mem_singleton] at hhappened
            refine (hnew ?_).elim
            rcases hhappened with hx | rfl
            · simp [hx]
            · simp
  | unleft f passes fails => exact ⟨later ++ [.exit (failureOf v)], by simp, hall passes⟩
  | finished passes =>
      exact ⟨later ++ [.exit (failureOf v)], by simp, hall (Pool.passes_append.1 passes).1⟩

theorem next (h : Conducted task p (earlier ++ e :: x :: later) v es r)
    {done rest : List Event} (hsplit : es = done ++ e :: rest)
    (hpass : (p.after done).failure? e = none) (hconnection : e.name ≠ .connection)
    (hexit : e.name ≠ .exit) (hnew : e ∉ earlier) : x ∈ es := by
  have he : e ∈ es := by simp [hsplit]
  cases h with
  | refused f fails =>
      rw [List.mem_singleton.1 he] at hconnection
      exact (hconnection rfl).elim
  | broken before e' rest' f split passes fails =>
      have hhappened : e ∈ before ++ [e'] := mem_happened he hconnection hexit
      -- The event itself has not failed.
      have hother : ¬(before = earlier ∧ e' = e) := by
        rintro ⟨rfl, rfl⟩
        have hconnected : e' ∉ Event.connection :: before := by
          rw [List.mem_cons, not_or]
          exact ⟨fun h => hconnection (congrArg Event.name h), hnew⟩
        have hleft : e' ∉ [Event.exit (some f)] := by
          rw [List.mem_singleton]
          exact fun h => hexit (congrArg Event.name h)
        obtain ⟨rfl, -, -⟩ :=
          (List.append_cons_inj_of_notMem hconnected hleft).1 hsplit
        rw [hpass] at fails
        cases fails
      rcases List.append_eq_append_iff.1 split with ⟨mid, rfl, hmid⟩ | ⟨mid, rfl, hmid⟩
      · rcases mid with _ | ⟨y, _ | ⟨z, mid⟩⟩
        · cases hmid
          exact (hother ⟨List.append_nil _, rfl⟩).elim
        · cases hmid
          simp
        · cases hmid
          simp
      · cases mid with
        | nil =>
            cases hmid
            exact (hother ⟨(List.append_nil _).symm, rfl⟩).elim
        | cons y mid =>
            cases hmid
            refine (hnew ?_).elim
            rcases List.mem_append.1 hhappened with he | he
            · exact List.mem_append_left _ he
            · rw [List.mem_singleton.1 he]
              simp
  | unleft f passes fails => simp
  | finished passes => simp

end Conducted

end AccountRecovery.Database

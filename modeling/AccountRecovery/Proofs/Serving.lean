import AccountRecovery.Proofs.Configuration
import AccountRecovery.Proofs.Connections
import AccountRecovery.Proofs.Requests
import AccountRecovery.Proofs.SchemaChanges
/-!
# What requests leave alone

Work on connections neither opens nor closes the pool (`Uses`).  What every part of an answer keeps
of an application, the answer keeps (`Kept.handle`).  So whatever an application is asked, its
settings and its surroundings stay, and so do the directory that it reads and the faults of its pool
(`Serves.endures`).  With either storage, a record is written or it is told as a failure of the
store that it is not (`recordStore_invalidate`, `recordStore_store`).
-/

namespace AccountRecovery

open Dialogue

namespace Database

open Session

variable {α β : Type}

/-! ## Work on an open pool -/

/-- What comes of a pool by work on its connections, which neither opens nor closes it. -/
def Pool.Used (p p' : Pool) : Prop :=
  ∃ es, p.Follows p' es ∧ ∀ e ∈ es, e.name ≠ .pool ∧ e.name ≠ .close

namespace Pool

variable {p p' p'' : Pool} {e : Event}

theorem Used.refl (p : Pool) : p.Used p :=
  ⟨[], by simpa using p.follows_after [], by simp⟩

theorem Used.trans (h : p.Used p') (h' : p'.Used p'') : p.Used p'' := by
  obtain ⟨es, hfollows, hes⟩ := h
  obtain ⟨es', hfollows', hes'⟩ := h'
  exact ⟨es ++ es', hfollows.trans hfollows', List.forall_mem_append.2 ⟨hes, hes'⟩⟩

theorem Used.faults (h : p.Used p') : p'.faults = p.faults := by
  obtain ⟨es, hfollows, -⟩ := h
  exact hfollows.faults

theorem used_after (p : Pool) (he : e.name ≠ .pool ∧ e.name ≠ .close) : p.Used (p.after [e]) :=
  ⟨[e], p.follows_after [e], by simpa using he⟩

end Pool

def Uses (x : Session α) : Prop :=
  ∀ p : Pool, p.Used (x.run p).2

theorem uses_pure (a : α) : Uses (pure a) :=
  Pool.Used.refl

theorem uses_throw (f : Failure) : Uses (throw f : Session α) :=
  Pool.Used.refl

theorem Uses.bind {x : Session α} {g : α → Session β} (hx : Uses x) (hg : ∀ a, Uses (g a)) :
    Uses (x >>= g) := by
  intro p
  have hused := hx p
  rcases hrun : x.run p with ⟨f | a, p'⟩
  · rw [hrun] at hused
    rwa [run_bind_of_error g hrun]
  · rw [hrun] at hused
    rw [run_bind_of_ok g hrun]
    exact hused.trans (hg a p')

theorem uses_happen {e : Event} (he : e.name ≠ .pool ∧ e.name ≠ .close) : Uses (happen e) := by
  intro p
  rw [run_happen]
  exact p.used_after he

theorem uses_execute (s : Statement) (params : Option (List Cell)) : Uses (execute s params) :=
  uses_happen (by simp [Event.name])

theorem uses_commit : Uses commit :=
  uses_happen (by decide)

theorem uses_fetchOne : Uses fetchOne := by
  refine (uses_happen (by decide)).bind fun _ => ?_
  rintro ⟨_ | ⟨row, rows⟩, faults, events⟩
  · exact Pool.Used.refl _
  · exact ⟨[], ⟨rfl, (List.append_nil events).symm, List.suffix_cons row rows⟩, by simp⟩

theorem Uses.withConnection {x : Session α} (hx : Uses x) : Uses (withConnection x) := by
  intro p
  have hstarted : p.Used (p.after [.connection]) := p.used_after (by decide)
  cases hconnection : p.failure? .connection with
  | some f =>
      rw [run_withConnection_of_refused hconnection]
      exact hstarted
  | none =>
      have hused := hx (p.after [.connection])
      rcases hrun : x.run (p.after [.connection]) with ⟨r, p'⟩
      rw [hrun] at hused
      rw [run_withConnection hconnection hrun]
      exact (hstarted.trans hused).trans (p'.used_after (by simp [Event.name]))

theorem Uses.asStoreError {x : Session α} (hx : Uses x) (task : String) :
    Uses (asStoreError task x) := by
  intro p
  have hused := hx p
  rcases hrun : x.run p with ⟨r, p'⟩
  rw [hrun] at hused
  rwa [run_asStoreError task hrun]

theorem uses_write (task : String) (s : Statement) (params : Option (List Cell)) :
    Uses (Database.asStoreError task (Session.withConnection do execute s params; commit)) :=
  (((uses_execute s params).bind fun _ => uses_commit).withConnection).asStoreError task

theorem uses_load (ttlSeconds : Int) (code : String) : Uses (load ttlSeconds code) := by
  refine Uses.bind (Uses.asStoreError (Uses.withConnection ?_) _) fun row => fun p => .refl p
  refine (uses_execute _ _).bind fun _ => uses_fetchOne.bind fun row => ?_
  cases row with
  | none => exact uses_commit.bind fun _ => uses_throw _
  | some row =>
      dsimp only
      split
      · exact uses_commit.bind fun _ => uses_pure row
      · exact (uses_execute _ _).bind fun _ => uses_commit.bind fun _ => uses_throw _

theorem uses_probe : Uses probe :=
  (uses_execute _ _).withConnection

theorem uses_runScript (f : ScriptFile) : Uses (runScript f) := by
  unfold runScript
  split
  · exact (uses_execute _ _).withConnection
  · exact uses_throw _

theorem used_runScripts (fs : List ScriptFile) (p : Pool) : p.Used (runScripts fs p).pool := by
  induction fs generalizing p with
  | nil => exact .refl p
  | cons f fs ih =>
      have hused := uses_runScript f p
      unfold runScripts
      rcases hrun : (runScript f).run p with ⟨e | _, p'⟩
      · rw [hrun] at hused
        exact hused
      · rw [hrun] at hused
        exact hused.trans (ih p')

theorem used_migrate (path : String) (directory : Option (List ScriptFile)) (p : Pool) :
    p.Used (migrate path directory p).pool := by
  rw [(migrate_eq path directory p).2]
  exact used_runScripts _ p

theorem write_error {p : Pool} (faults : p.FailsAsDatabase) (task : String) (s : Statement)
    (params : Option (List Cell)) {f : Failure}
    (h : ((asStoreError task (withConnection do execute s params; commit)).run p).1 = .error f) :
    ∃ e, f = .store e := by
  obtain ⟨es, r, p', hrun, -, hconducted⟩ := conducted_write (p := p) task s params
  rw [hrun] at h
  cases h
  by_cases htold : ∃ e, f = asTold task (.database e)
  · obtain ⟨e, rfl⟩ := htold
    exact ⟨_, rfl⟩
  · have hsettled := hconducted.settled faults fun e he => htold ⟨e, Except.error.inj he⟩
    cases hsettled.2.2

end Database

/-- What every answer keeps of the state, a dialogue keeps. -/
theorem Dialogue.run_keeps {α σ : Type} {answer : Handler σ} (kept : σ → Prop)
    (keeps : ∀ q s, kept s → kept (answer q s).2) (d : Dialogue α) (codes : CodeSource) (s : σ)
    (n : Nat) (hs : kept s) : kept (d.run answer codes s n).state := by
  induction d generalizing s n with
  | done a => exact hs
  | fail e => exact hs
  | ask q next ih => exact ih _ _ n (keeps q s hs)
  | note entry next ih => exact ih s n hs
  | newCode next ih => exact ih _ s (n + 1) hs

namespace Api.Application

open Database

/-! ## The storage -/

variable {ttlSeconds : Int} {now : Instant}

theorem used_answer (r : Registry) (q : Call) (st : Storage × Pool) :
    st.2.Used (r.answer (recordStore ttlSeconds now) q st).2.2 := by
  obtain ⟨storage, p⟩ := st
  cases q with
  | load code =>
      cases storage with
      | memory m => exact .refl p
      | database =>
          have huses : Uses (some <$> load ttlSeconds code : Session (Option Record)) := by
            rw [← bind_pure_comp]
            exact (uses_load ttlSeconds code).bind fun record => uses_pure _
          exact huses p
  | store record =>
      cases storage with
      | memory m => exact .refl p
      | database => exact uses_write _ _ _ p
  | invalidate a =>
      cases storage with
      | memory m => exact .refl p
      | database => exact uses_write _ _ _ p
  | _ => exact .refl p

theorem faults_answer (r : Registry) (q : Call) (st : Storage × Pool) :
    (r.answer (recordStore ttlSeconds now) q st).2.2.faults = st.2.faults :=
  (used_answer r q st).faults

theorem recordStore_invalidate {st : Storage × Pool} (faults : st.2.FailsAsDatabase) (a : Account)
    {f : Failure} (h : ((recordStore ttlSeconds now).invalidate a st).1 = .error f) :
    ∃ e, f = .store e := by
  obtain ⟨storage, p⟩ := st
  cases storage with
  | memory m => cases h
  | database => exact write_error faults _ _ _ h

theorem recordStore_store {st : Storage × Pool} (faults : st.2.FailsAsDatabase) (record : Record)
    {f : Failure} (h : ((recordStore ttlSeconds now).store record st).1 = .error f) :
    ∃ e, f = .store e := by
  obtain ⟨storage, p⟩ := st
  cases storage with
  | memory m => cases h
  | database => exact write_error faults _ _ _ h

/-! ## Requests -/

variable {app app' app'' : Application}

theorem storage_of_prepare {t : Tools} (h : app.prepare.1 = .ok t) :
    app.prepare.2.1.storage = .ok t.storage := by
  obtain ⟨masker, d, hstorage, -⟩ := prepare_eq_ok_iff.1 h
  rw [prepare_of_ok h]
  exact hstorage

theorem app_answerHealth (app : Application) :
    app.answerHealth.app = { app with pool := (probe.run app.pool).2 } := by
  unfold answerHealth
  rcases probe.run app.pool with ⟨e | _, p⟩
  · rfl
  · rfl

/-- A relation of applications to those that come of them, which every part of an answer keeps. -/
structure Kept (R : Application → Application → Prop) : Prop where
  refl : ∀ app, R app app
  trans : ∀ {app app' app''}, R app app' → R app' app'' → R app app''
  prepare : ∀ app, R app app.prepare.2.1
  converse : ∀ {α : Type} {app : Application} {t : Tools}, app.storage = .ok t.storage →
    ∀ (now : Instant) (d : Dialogue α), R app (app.converse now t d).2.1
  probe : ∀ app, R app app.answerHealth.app

namespace Kept

variable {R : Application → Application → Prop}

theorem answerForm {α : Type} (kept : Kept R) (app : Application)
    (ofMembers : List (String × Json) → Form.Checked α) (payload : Payload)
    {answer : Application → Tools → α → Reply}
    (hanswer : ∀ (app : Application) (t : Tools) (a : α), app.storage = .ok t.storage →
      R app (answer app t a).app) :
    R app (app.answerForm ofMembers payload answer).app := by
  have hprepared := kept.prepare app
  unfold Application.answerForm
  cases decode payload with
  | error e => exact kept.refl app
  | ok v =>
      rcases hprepare : app.prepare with ⟨e | t, app', entries⟩
      · rw [hprepare] at hprepared
        exact hprepared
      · have hstorage : app.prepare.2.1.storage = .ok t.storage :=
          storage_of_prepare (by rw [hprepare])
        rw [hprepare] at hprepared hstorage
        dsimp only
        cases readBody ofMembers v with
        | invalid issues => exact hprepared
        | valid a => exact kept.trans hprepared (hanswer app' t a hstorage)

/-- What every part of an answer keeps, the whole answer keeps. -/
theorem handle (kept : Kept R) (app : Application) (now : Instant) (r : Request) :
    R app (app.handle now r).app := by
  unfold Application.handle
  dsimp only
  split
  · split
    · exact kept.refl app
    · exact kept.refl app
  · next route hrouted =>
      split
      · exact kept.refl app
      · cases route with
        | init =>
            refine kept.answerForm app _ _ fun app t f hstorage => ?_
            rw [(answerInit_eq now app t f).2]
            exact kept.converse hstorage now _
        | validate =>
            refine kept.answerForm app _ _ fun app t f hstorage => ?_
            rw [(answerValidate_eq now app t f).2]
            exact kept.converse hstorage now _
        | health => exact kept.probe app

end Kept

structure Endures (app app' : Application) : Prop where
  settings : app'.settings = app.settings
  surroundings : app'.surroundings = app.surroundings
  directory : app'.readDirectory.1 = app.readDirectory.1
  storage : app'.storage.isOk = app.storage.isOk
  faults : app'.pool.faults = app.pool.faults

theorem Endures.refl (app : Application) : app.Endures app :=
  ⟨rfl, rfl, rfl, rfl, rfl⟩

theorem Endures.trans (h : app.Endures app') (h' : app'.Endures app'') : app.Endures app'' where
  settings := h'.settings.trans h.settings
  surroundings := h'.surroundings.trans h.surroundings
  directory := h'.directory.trans h.directory
  storage := h'.storage.trans h.storage
  faults := h'.faults.trans h.faults

theorem readDirectory_of_kept {d : Directory} (h : app.directory = some d) :
    app.readDirectory.1 = .ok d := by
  unfold readDirectory
  rw [h]

theorem endures_prepare (app : Application) : app.Endures app.prepare.2.1 := by
  unfold prepare
  split
  · exact .refl app
  · split
    · exact .refl app
    · next d entries hread =>
        have hkept : ({ app with directory := some d } : Application).readDirectory.1 = .ok d :=
          readDirectory_of_kept rfl
        have hendures : app.Endures { app with directory := some d } :=
          ⟨rfl, rfl, by rw [hkept, hread], rfl, rfl⟩
        dsimp only
        split
        · exact hendures
        · exact hendures

theorem endures_converse {α : Type} {t : Tools} (hstorage : app.storage = .ok t.storage)
    (now : Instant) (d : Dialogue α) : app.Endures (app.converse now t d).2.1 := by
  refine ⟨rfl, rfl, rfl, by rw [hstorage]; rfl, ?_⟩
  exact Dialogue.run_keeps (fun st : Storage × Pool => st.2.faults = app.pool.faults)
    (fun q st hst => (faults_answer t.registry q st).trans hst) d app.surroundings.codes
    (t.storage, app.pool) app.drawn rfl

theorem endures_answerHealth (app : Application) : app.Endures app.answerHealth.app := by
  rw [app_answerHealth]
  exact ⟨rfl, rfl, rfl, rfl, (uses_probe app.pool).faults⟩

theorem kept_endures : Kept Endures where
  refl := .refl
  trans := .trans
  prepare := endures_prepare
  converse := endures_converse
  probe := endures_answerHealth

inductive Serves (app : Application) : Application → Prop
  | refl : Serves app app
  | step {app' : Application} (before : Serves app app') (now : Instant) (r : Request) :
      Serves app (app'.handle now r).app

theorem Serves.endures (serves : Serves app app') : app.Endures app' := by
  induction serves with
  | refl => exact .refl app
  | step before now r ih => exact ih.trans (kept_endures.handle _ now r)

theorem faults_of_start {s : Surroundings} {pool : Pool} (h : (start s pool).result = .ok app) :
    app.pool.faults = pool.faults := by
  obtain ⟨settings, opened, -, hopened, -, rfl⟩ := eq_of_start h
  have hfaults : opened.faults = pool.faults := by
    rw [run_happen, Prod.mk.injEq] at hopened
    rw [← hopened.2]
    rfl
  exact (used_migrate _ _ _).faults.trans hfaults

end Api.Application

end AccountRecovery

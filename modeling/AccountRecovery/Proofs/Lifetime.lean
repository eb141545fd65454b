import AccountRecovery.Proofs.Refusals
import AccountRecovery.Proofs.Serving
/-!
# The pool over the life of an application

An application opens a pool when it starts, uses it while it answers requests (`used_serve`), and
closes it when it is stopped.  An application that cannot make its schema changes does not start, so
it is not stopped either, and its pool stays open (`start_of_opened`).

Main statement: a pool that has been opened is closed once if the schema changes are made, and
otherwise never (`live_closes_iff`).
-/

namespace AccountRecovery.Api.Application

open Database

/-! ## Requests -/

theorem pool_prepare (app : Application) : app.prepare.2.1.pool = app.pool := by
  unfold prepare
  split
  · rfl
  · split
    · rfl
    · dsimp only
      split <;> rfl

theorem kept_used : Kept fun app app' => app.pool.Used app'.pool where
  refl app := .refl app.pool
  trans := .trans
  prepare app := by
    rw [pool_prepare app]
    exact .refl app.pool
  converse {α app t} _ now d :=
    Dialogue.run_keeps (fun st : Storage × Pool => app.pool.Used st.2)
      (fun q st hst => hst.trans (used_answer t.registry q st)) d app.surroundings.codes
      (t.storage, app.pool) app.drawn (.refl app.pool)
  probe app := by
    rw [app_answerHealth]
    exact uses_probe app.pool

theorem used_serve (app : Application) (requests : List (Instant × Request)) :
    app.pool.Used (app.serve requests).pool := by
  induction requests generalizing app with
  | nil => exact .refl app.pool
  | cons r requests ih => exact (kept_used.handle app r.1 r.2).trans (ih _)

/-! ## From the start to the end -/

def opening (settings : Settings) : Database.Event :=
  .pool settings.databaseUrl settings.poolMinSize settings.poolMaxSize

def changes (s : Surroundings) : List ScriptFile :=
  migrationsIn (s.migrations.getD [])

variable {s : Surroundings} {settings : Settings} {pool : Pool}

/-- A pool that has been opened has its schema changes made, and then the application is ready; or
one of them fails or cannot be read, and the application does not start. -/
theorem start_of_opened (hread : Settings.read s.environment s.envFile = .ok settings)
    (hopens : pool.failure? (opening settings) = none) :
    let opened := pool.after [opening settings]
    opened.Used (start s pool).pool ∧
      ((AllMade (changes s) opened ∧ ∃ app, (start s pool).result = .ok app ∧
          app.pool = (start s pool).pool) ∨
        ¬AllMade (changes s) opened ∧ ∃ file cause,
          (start s pool).result = .error (.failure (.migration file cause))) := by
  intro opened
  have hopened : (Session.happen (.pool settings.databaseUrl settings.poolMinSize
      settings.poolMaxSize)).run pool = (.ok (), opened) :=
    run_happen_of_passes hopens
  have hused := used_migrate s.migrationsPath s.migrations opened
  have hresult : (migrate s.migrationsPath s.migrations opened).result =
      (runScripts (changes s) opened).result :=
    (migrate_eq s.migrationsPath s.migrations opened).1
  rcases runScripts_cases (changes s) opened with ⟨hmade, hok, -⟩ |
    ⟨done, f, rest, last, cause, hfiles, -, hfails, herror, -⟩
  · rw [hok] at hresult
    simp only [start, hread, hopened, hresult]
    exact ⟨hused, .inl ⟨hmade, _, rfl, rfl⟩⟩
  · rw [herror] at hresult
    simp only [start, hread, hopened, hresult]
    refine ⟨hused, .inr ⟨?_, f.name, cause, rfl⟩⟩
    rw [hfiles]
    exact hfails.not_allMade

theorem stop_eq (app : Application) : app.stop.2 = app.pool.after [.close] := by
  rw [stop, run_happen]

theorem events_live (hread : Settings.read s.environment s.envFile = .ok settings)
    (hopens : pool.failure? (opening settings) = none) (requests : List (Instant × Request)) :
    ∃ work last, (∀ e ∈ work, e.name ≠ .pool ∧ e.name ≠ .close) ∧
      (live s pool requests).events = pool.events ++ ([opening settings] ++ (work ++ last)) ∧
      (AllMade (changes s) (pool.after [opening settings]) ∧ last = [.close] ∨
        ¬AllMade (changes s) (pool.after [opening settings]) ∧ last = []) := by
  obtain ⟨hstarted, ⟨hmade, app, hok, happ⟩ | ⟨hbreaks, file, cause, herror⟩⟩ :=
    start_of_opened hread hopens
  · rw [← happ] at hstarted
    obtain ⟨work, hfollows, hwork⟩ := hstarted.trans (used_serve app requests)
    refine ⟨work, [.close], hwork, ?_, .inl ⟨hmade, rfl⟩⟩
    simp only [live, hok, stop_eq, Pool.after, hfollows.events, List.append_assoc]
  · obtain ⟨work, hfollows, hwork⟩ := hstarted
    refine ⟨work, [], hwork, ?_, .inr ⟨hbreaks, rfl⟩⟩
    simp only [live, herror, hfollows.events, Pool.after, List.append_assoc, List.append_nil]

/-- A pool that an application opens is not opened again, whatever the application is asked and
whatever fails.  It is closed once, and that last of all, if its schema changes are made, which is
when the application starts.  Otherwise, with a file that cannot be read or an event that fails, it
is never closed. -/
theorem live_closes_iff (hread : Settings.read s.environment s.envFile = .ok settings)
    (hopens : pool.failure? (opening settings) = none) (hfresh : pool.events = [])
    (requests : List (Instant × Request)) :
    let opened := pool.after [opening settings]
    let ended := live s pool requests
    ended.events.head? = some (opening settings) ∧ ended.count .pool = 1 ∧
      ((start s pool).result.isOk ↔ AllMade (changes s) opened) ∧
      (ended.count .close = 1 ↔ AllMade (changes s) opened) ∧
      (ended.count .close = 0 ↔ ¬AllMade (changes s) opened) ∧
      (AllMade (changes s) opened → ended.events.getLast? = some .close) := by
  intro opened ended
  have hstarts : (start s pool).result.isOk ↔ AllMade (changes s) opened := by
    obtain ⟨-, ⟨hmade, app, hok, -⟩ | ⟨hbreaks, file, cause, herror⟩⟩ :=
      start_of_opened hread hopens
    · exact iff_of_true (by rw [hok]; rfl) hmade
    · exact iff_of_false (by rw [herror]; exact Bool.false_ne_true) hbreaks
  obtain ⟨work, last, hwork, hevents, hlast⟩ := events_live hread hopens requests
  rw [hfresh, List.nil_append] at hevents
  have hcount (name : EventName) :
      ended.count name = List.countP (·.name = name) [opening settings] +
        (work.countP (·.name = name) + last.countP (·.name = name)) := by
    rw [Pool.count, hevents, List.countP_append, List.countP_append]
  have hpools : work.countP (·.name = .pool) = 0 :=
    List.countP_eq_zero.2 fun e he => by simpa using (hwork e he).1
  have hcloses : work.countP (·.name = .close) = 0 :=
    List.countP_eq_zero.2 fun e he => by simpa using (hwork e he).2
  refine ⟨by rw [hevents]; rfl, ?_, hstarts, ?_⟩
  · rw [hcount, hpools]
    rcases hlast with ⟨-, rfl⟩ | ⟨-, rfl⟩
    · rfl
    · rfl
  · rcases hlast with ⟨hmade, rfl⟩ | ⟨hbreaks, rfl⟩
    · have hclosings : ended.count .close = 1 := by rw [hcount, hcloses]; rfl
      rw [hclosings, hevents, ← List.append_assoc, List.getLast?_append]
      exact ⟨iff_of_true rfl hmade, iff_of_false Nat.one_ne_zero (not_not_intro hmade),
        fun _ => rfl⟩
    · have hclosings : ended.count .close = 0 := by rw [hcount, hcloses]; rfl
      rw [hclosings]
      exact ⟨iff_of_false Nat.zero_ne_one hbreaks, iff_of_true rfl hbreaks,
        fun hmade => (hbreaks hmade).elim⟩

def checking : Request :=
  ⟨"GET", "/health", .raw ""⟩

/-- A pool that is used for a request is closed. -/
theorem live_closes_iff_healthy :
    ∃ settings, Settings.read seeded.environment seeded.envFile = .ok settings ∧
      ({} : Pool).failure? (opening settings) = none ∧
      (live seeded {} [(0, checking)]).count .close = 1 := by
  obtain ⟨settings, hread⟩ :=
    exists_of_isOk (e := Settings.read seeded.environment seeded.envFile) (by decide +kernel)
  have hopens : ({} : Pool).failure? (opening settings) = none := rfl
  obtain ⟨-, -, hstarts, hcloses, -⟩ :=
    live_closes_iff hread hopens rfl [(0, checking)]
  exact ⟨settings, hread, hopens, hcloses.2 (hstarts.1 (by decide +kernel))⟩

def refusing : Pool where
  faults name n :=
    if name = .connection ∧ n = 1 then some (.database ⟨.operational, "no"⟩) else none

/-- A pool that is opened and then refuses a connection stays open. -/
theorem live_leaves_open_refusing :
    (∀ settings, refusing.failure? (opening settings) = none) ∧
      (live seeded refusing []).count .pool = 1 ∧ (live seeded refusing []).count .close = 0 :=
  ⟨fun _ => rfl, by decide +kernel, by decide +kernel⟩

end AccountRecovery.Api.Application

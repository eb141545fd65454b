import AccountRecovery.Api.Response
import AccountRecovery.Database.Migration
import AccountRecovery.Database.Store
import AccountRecovery.Directory.Seed
import AccountRecovery.Recovery.Service
import AccountRecovery.Settings.Basic
/-!
# The application

The application reads its settings, opens a pool and makes the schema changes.  Until it is shut
down it runs the dialogues of the service with its collaborators.
-/

namespace AccountRecovery.Api

inductive Storage where
  | memory (s : MemoryStore)
  | database
deriving Repr, DecidableEq

/-- What the application finds around itself. -/
structure Surroundings where
  environment : List (String × String) := []
  envFile : Option String := none
  /-- The texts of files by path. -/
  files : List (String × String) := []
  statuses : AccountStatuses := {}
  /-- The characters that masking patterns may call by name. -/
  characters : Text.CharacterNames := Text.asciiByName
  codes : Dialogue.CodeSource
  /-- Whether records are kept in the database. -/
  inDatabase : Bool := false
  /-- The directory of schema changes and its files. -/
  migrationsPath : String
  migrations : Option (List Database.ScriptFile) := some Database.schema

structure Application where
  surroundings : Surroundings
  settings : Settings
  pool : Database.Pool
  storage : Except Failure Storage
  /-- The directory, once a request has needed it. -/
  directory : Option Directory := none
  /-- The number of recovery codes drawn so far. -/
  drawn : Nat := 0

inductive StartError where
  | settings (e : SettingsError)
  | failure (e : Failure)

structure Start where
  result : Except StartError Application
  pool : Database.Pool
  entries : List Log.Entry

namespace Application

open Database

def storageOf (s : Surroundings) (settings : Settings) : Except Failure Storage :=
  if s.inDatabase then .ok .database
  else Storage.memory <$> MemoryStore.make settings.codeTtlSeconds

/-- Starts the application over a pool that has not been opened. -/
def start (s : Surroundings) (pool : Pool) : Start :=
  match Settings.read s.environment s.envFile with
  | .error e => ⟨.error (.settings e), pool, []⟩
  | .ok settings =>
    let opening : Log.Entry :=
      ⟨.info, .application,
        "Opening recovery store pool (min=" ++ toString settings.poolMinSize ++ ", max=" ++
          toString settings.poolMaxSize ++ ")"⟩
    let opened :=
      (Session.happen
        (.pool settings.databaseUrl settings.poolMinSize settings.poolMaxSize)).run pool
    match opened with
    | (.error e, pool) => ⟨.error (.failure e), pool, [opening]⟩
    | (.ok _, pool) =>
      let progress := migrate s.migrationsPath s.migrations pool
      match progress.result with
      | .error e => ⟨.error (.failure e), progress.pool, opening :: progress.entries⟩
      | .ok _ =>
        ⟨.ok ⟨s, settings, progress.pool, storageOf s settings, none, 0⟩, progress.pool,
          opening :: progress.entries ++
            [⟨.info, .application,
              "Account recovery API ready, code TTL " ++ toString settings.codeTtlSeconds ++
                "s"⟩]⟩

def stop (app : Application) : Except Failure Unit × Pool :=
  (Session.happen .close).run app.pool

/-- The directory that the settings describe, and what is logged on reading it. -/
def readDirectory (app : Application) : Except Failure Directory × List Log.Entry :=
  match app.directory, app.settings.seedFile with
  | some d, _ => (.ok d, [])
  | none, none => (.ok {}, [])
  | none, some path =>
    if path.isEmpty then
      (.ok {}, [])
    else
      match app.surroundings.files.lookup path with
      | some text => Directory.readSeed path text
      | none => (.error .noSuchFile, [])

def masker (app : Application) : Except Failure Masker :=
  app.settings.masker app.surroundings.characters

structure Tools where
  service : Service
  registry : Registry
  storage : Storage

/-- Prepares what a request needs.  A directory that has been read is kept. -/
def prepare (app : Application) : Except Failure Tools × Application × List Log.Entry :=
  match app.storage with
  | .error e => (.error e, app, [])
  | .ok storage =>
    match app.readDirectory with
    | (.error e, entries) => (.error e, app, entries)
    | (.ok d, entries) =>
      let kept := { app with directory := some d }
      match app.masker with
      | .error e => (.error e, kept, entries)
      | .ok masker =>
        (.ok
          ⟨⟨app.settings.selector, masker, app.settings.managedInternally⟩,
            ⟨d, app.settings.tenantIds, app.surroundings.statuses⟩, storage⟩,
          kept, entries)

def recordStore (ttlSeconds : Int) (now : Instant) : RecordStore (Storage × Pool) where
  load code s :=
    match s.1 with
    | .memory m =>
      let r := (MemoryStore.recordStore now).load code m
      (r.1, .memory r.2, s.2)
    | .database =>
      let r := (Database.recordStore ttlSeconds).load code s.2
      (r.1, s.1, r.2)
  store record s :=
    match s.1 with
    | .memory m =>
      let r := (MemoryStore.recordStore now).store record m
      (r.1, .memory r.2, s.2)
    | .database =>
      let r := (Database.recordStore ttlSeconds).store record s.2
      (r.1, s.1, r.2)
  invalidate a s :=
    match s.1 with
    | .memory m =>
      let r := (MemoryStore.recordStore now).invalidate a m
      (r.1, .memory r.2, s.2)
    | .database =>
      let r := (Database.recordStore ttlSeconds).invalidate a s.2
      (r.1, s.1, r.2)

def converse {α : Type} (app : Application) (now : Instant) (t : Tools) (d : Dialogue α) :
    Except Failure α × Application × List Log.Entry :=
  let o :=
    d.run (t.registry.answer (recordStore app.settings.codeTtlSeconds now))
      app.surroundings.codes (t.storage, app.pool) app.drawn
  (o.result, { app with storage := .ok o.state.1, pool := o.state.2, drawn := o.drawn }, o.entries)

end Application

end AccountRecovery.Api

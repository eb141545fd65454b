import AccountRecovery.Database.Pool
import AccountRecovery.Log
/-!
# Schema changes

Schema changes are files with statements.  They are made in the order of their names, each on a
connection of its own, up to the first one that fails.  A file that cannot be read fails before
there is a connection for it.
-/

namespace AccountRecovery.Database

/-- What comes of reading a file: its text, or the failure of one that holds no text, is a directory
or is not there any more. -/
inductive Content where
  | text (t : String)
  | unreadable (why : Failure)
deriving Repr, DecidableEq

instance : Coe String Content :=
  ⟨.text⟩

structure ScriptFile where
  name : String
  content : Content
deriving Repr, DecidableEq

structure Progress where
  result : Except Failure Unit
  pool : Pool
  entries : List Log.Entry

/-- The files that hold schema changes, in the order of their names. -/
def migrationsIn (files : List ScriptFile) : List ScriptFile :=
  (files.filter fun f => ".sql".toList.isSuffixOf f.name.toList).mergeSort
    fun f g => !decide (g.name < f.name)

def runScript (f : ScriptFile) : Session Unit :=
  match f.content with
  | .text t => Session.withConnection (Session.execute (.script t) none)
  | .unreadable why => throw why

def runScripts : List ScriptFile → Pool → Progress
  | [], p => ⟨.ok (), p, []⟩
  | f :: fs, p =>
    let start : Log.Entry := ⟨.info, .database, "Executing migration: " ++ f.name⟩
    match (runScript f).run p with
    | (.ok _, p) =>
      let rest := runScripts fs p
      { rest with
        entries :=
          start :: ⟨.info, .database, "Migration complete: " ++ f.name⟩ :: rest.entries }
    | (.error e, p) =>
      ⟨.error (.migration f.name e), p,
        [start, ⟨.error, .database, "Migration failed: " ++ f.name ++ " - " ++ e.text⟩]⟩

/-- Makes all changes in a directory, of which the path is told if it is not there. -/
def migrate (path : String) (directory : Option (List ScriptFile)) (p : Pool) : Progress :=
  match directory with
  | none => ⟨.ok (), p, [⟨.warning, .database, "Migrations directory not found: " ++ path⟩]⟩
  | some files =>
    match migrationsIn files with
    | [] => ⟨.ok (), p, [⟨.info, .database, "No migration files found"⟩]⟩
    | fs =>
      let done := runScripts fs p
      { done with
        entries :=
          ⟨.info, .database, "Running " ++ toString fs.length ++ " migration(s)"⟩ ::
            done.entries }

def schema : List ScriptFile :=
  [⟨"001_create_recovery_data.sql",
    "\n".intercalate
      ["-- Recovery records bound to issued recovery codes.",
        "-- One record per (account, scenario); store() upserts on that key.",
        "CREATE TABLE IF NOT EXISTS recovery_data (",
        "    code TEXT PRIMARY KEY,",
        "    username TEXT NOT NULL,",
        "    tenant_domain TEXT NOT NULL,",
        "    user_store_domain TEXT NOT NULL,",
        "    scenario TEXT NOT NULL,",
        "    step TEXT NOT NULL,",
        "    remaining_set_ids TEXT NOT NULL DEFAULT '',",
        "    created_at TIMESTAMPTZ NOT NULL DEFAULT NOW(),",
        "    CONSTRAINT recovery_data_account_scenario_key",
        "        UNIQUE (tenant_domain, user_store_domain, username, scenario)",
        ");",
        "",
        "CREATE INDEX IF NOT EXISTS idx_recovery_data_account",
        "    ON recovery_data (tenant_domain, user_store_domain, username);"]⟩]

end AccountRecovery.Database

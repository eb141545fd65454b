/-!
# Log records

What the program tells about its work.  A record names the part of the program that wrote it.
-/

namespace AccountRecovery

namespace Log

inductive Level where
  | debug
  | info
  | warning
  | error
deriving Repr, DecidableEq

def Level.name : Level → String
  | debug => "DEBUG"
  | info => "INFO"
  | warning => "WARNING"
  | error => "ERROR"

inductive Source where
  | accounts
  | channels
  | claims
  | recovery
  | directory
  | database
  | routes
  | application
deriving Repr, DecidableEq

def Source.name : Source → String
  | accounts => "src.domain.accounts"
  | channels => "src.domain.channels"
  | claims => "src.domain.claims"
  | recovery => "src.domain.recovery"
  | directory => "src.adapters.memory.directory"
  | database => "src.adapters.repository.postgres"
  | routes => "src.api.v1.routes"
  | application => "src.api.main"

structure Entry where
  level : Level
  source : Source
  message : String
deriving Repr, DecidableEq

end Log

end AccountRecovery

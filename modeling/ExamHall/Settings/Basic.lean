import ExamHall.Text.Numeral

/-!
# Settings

What an installation can configure. Derived addresses are computed from their
parts.
-/

namespace ExamHall

/-- The kind of installation. -/
inductive Environment where
  | development
  | production
  | staging
  | test
deriving DecidableEq, Repr

/-- The spelling of an environment. -/
def Environment.word : Environment → String
  | .development => "development"
  | .production => "production"
  | .staging => "staging"
  | .test => "test"

/-- Where the database is. -/
structure DatabaseSettings where
  server : String
  port : Nat
  user : String
  password : String
  name : String
  address : Option String
deriving DecidableEq, Repr

/-- The address of the database: as given, or made from its parts. -/
def DatabaseSettings.url (database : DatabaseSettings) : String :=
  match database.address with
  | some address => address
  | none =>
    "postgresql://" ++ database.user ++ ":" ++ database.password ++ "@" ++
      database.server ++ ":" ++ Text.ofNat database.port ++ "/" ++ database.name

/-- Where the message broker is. -/
structure BrokerSettings where
  host : String
  port : Nat
  index : Nat
  password : String
deriving DecidableEq, Repr

/-- The address of the message broker. -/
def BrokerSettings.url (broker : BrokerSettings) : String :=
  let login :=
    if broker.password.isEmpty then "" else ":" ++ broker.password ++ "@"
  "redis://" ++ login ++ broker.host ++ ":" ++ Text.ofNat broker.port ++ "/" ++
    Text.ofNat broker.index

/-- The settings of an installation. -/
structure Settings where
  host : String
  port : Nat
  environment : Environment
  isStrict : Bool
  projectName : String
  apiPath : String
  secretKey : String
  algorithm : String
  origins : List String
  database : DatabaseSettings
  broker : BrokerSettings
  maxQuestions : Nat
  maxManualIds : Nat
  sweepIntervalSeconds : Nat
  sweepBatchSize : Nat
  stalledGradingAfterSeconds : Nat
  notificationsEnabled : Bool
  channelRoot : String
  logLevel : String
  logJson : Bool
  metricsEnabled : Bool
deriving DecidableEq, Repr

/-- The address that the server listens on. -/
def Settings.serverAddress (settings : Settings) : String :=
  settings.host ++ ":" ++ Text.ofNat settings.port

/-- A configuration that cannot be used. -/
inductive ConfigError where
  | invalidPort (value : String)
  | invalidValue (field value : String)
  | invalidOrigins (value : String)
  | missingSecret (field : String)
deriving DecidableEq, Repr

/-- What a configuration error tells the operator. -/
def ConfigError.message : ConfigError → String
  | .invalidPort value => "invalid server port: " ++ value
  | .invalidValue field value => "invalid value for " ++ field ++ ": " ++ value
  | .invalidOrigins value => "invalid cors origins: " ++ value
  | .missingSecret field => "missing required secret for " ++ field

end ExamHall

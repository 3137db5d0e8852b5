import ExamHall.Json.Decode
import ExamHall.Json.Reader
import ExamHall.Settings.Basic
import ExamHall.Text.Case
import ExamHall.Text.Pieces

/-!
# Loading settings

Settings are read from named variables. A variable counts after trimming, and a
blank one is not set. First every variable is read in a fixed order, then the
ranges are checked, and a strict installation has to bring its own secrets.
-/

namespace ExamHall

/-- The variables of a process by name. -/
abbrev Variables := List (String × String)

namespace Variables

/-- The trimmed value of a variable that is not blank. -/
def find? (values : Variables) (name : String) : Option String :=
  (values.lookup name).bind fun value =>
    if Text.isBlankText value then none else some (Text.trim value)

/-- The value of a variable, or a default. -/
def get (values : Variables) (name default : String) : String :=
  (values.find? name).getD default

end Variables

namespace Settings

/-- The signing key of an installation that sets none. -/
def developmentKey : String := "examforge-dev-secret"

/-- The origins that may call when none are set. -/
def defaultOrigins : List String :=
  ["http://localhost:5173", "http://localhost:3000", "http://localhost:8080"]

/-- The longest time between two sweeps. -/
def maxSweepInterval : Nat := 600

/-- The largest number of questions that may be picked by hand. -/
def maxManualLimit : Nat := 100

/-- Whether a word switches something on. -/
def isOn (word : String) : Bool :=
  ["1", "true", "TRUE", "yes", "YES", "on", "ON"].contains word

/-- Whether a variable switches something on, with a default for one that is not
set. -/
def switch (values : Variables) (name : String) (default : Bool) : Bool :=
  ((values.find? name).map isOn).getD default

/-- The environment that a word names, in any capitalisation. -/
def environmentOf (word : Option String) : Environment :=
  match word.map Text.lower with
  | some "production" | some "prod" => .production
  | some "staging" => .staging
  | some "test" | some "testing" => .test
  | _ => .development

/-- The number that a variable holds, below a bound. -/
def number (values : Variables) (bound : Nat) (name default : String) :
    Except ConfigError Nat :=
  let value := values.get name default
  match Text.readUnsigned? bound value with
  | some number => .ok number
  | none => .error (.invalidValue name value)

/-- The allowed origins: a JSON list, or names between commas. -/
def originsOf (value : Option String) : Except ConfigError (List String) :=
  match value with
  | none => .ok defaultOrigins
  | some text => do
    let origins ←
      if text.toList.head? = some '[' then
        match (Json.ofText? text).map (Json.asList Json.asText) with
        | some (.ok origins) => .ok origins
        | _ => .error (.invalidOrigins text)
      else
        .ok (((Text.pieces ',' text.toList).map Text.trimChars).filter
            (!·.isEmpty) |>.map String.ofList)
    .ok (if origins.isEmpty then defaultOrigins else origins)

/-- The port that the server listens on, which is not zero. -/
def portOf (value : String) : Except ConfigError Nat :=
  match (Text.readUnsigned? (twoTo 16) value).filter (0 < ·) with
  | some port => .ok port
  | none => .error (.invalidPort value)

/-- Reads every variable, without a check of ranges. -/
def read (values : Variables) : Except ConfigError Settings := do
  let environment := environmentOf
    ((values.find? "EXAMFORGE_ENV").or (values.find? "ENVIRONMENT"))
  let origins ← originsOf (values.find? "BACKEND_CORS_ORIGINS")
  let databasePort ← number values (twoTo 16) "POSTGRES_PORT" "5432"
  let brokerPort ← number values (twoTo 16) "REDIS_PORT" "6379"
  let brokerIndex ← number values (twoTo 16) "REDIS_DB" "0"
  let maxQuestions ← number values (twoTo 32) "GENERATION_MAX_QUESTIONS" "200"
  let maxManualIds ← number values (twoTo 32) "GENERATION_MAX_MANUAL_IDS" "100"
  let sweepIntervalSeconds ←
    number values (twoTo 64) "EXPIRY_SWEEP_INTERVAL_SECONDS" "30"
  let sweepBatchSize ← number values (twoTo 32) "EXPIRY_SWEEP_BATCH_SIZE" "500"
  let stalledGradingAfterSeconds ←
    number values (twoTo 64) "STALLED_GRADING_AFTER_SECONDS" "120"
  let port ← portOf (values.get "EXAMFORGE_PORT" "8000")
  .ok
    { host := values.get "EXAMFORGE_HOST" "0.0.0.0"
      port
      environment
      isStrict := switch values "EXAMFORGE_STRICT_CONFIG" false ||
        decide (environment = .production)
      projectName := values.get "PROJECT_NAME" "Examforge API"
      apiPath := values.get "API_V1_STR" "/api/v1"
      secretKey := values.get "SECRET_KEY" developmentKey
      algorithm := values.get "ALGORITHM" "HS256"
      origins
      database :=
        { server := values.get "POSTGRES_SERVER" "localhost"
          port := databasePort
          user := values.get "POSTGRES_USER" "examforge"
          password := values.get "POSTGRES_PASSWORD" ""
          name := values.get "POSTGRES_DB" "examforge"
          address := values.find? "DATABASE_URL" }
      broker :=
        { host := values.get "REDIS_HOST" "localhost"
          port := brokerPort
          index := brokerIndex
          password := values.get "REDIS_PASSWORD" "" }
      maxQuestions
      maxManualIds
      sweepIntervalSeconds
      sweepBatchSize
      stalledGradingAfterSeconds
      notificationsEnabled :=
        switch values "PROGRESS_NOTIFICATIONS_ENABLED" true
      channelRoot := values.get "PROGRESS_CHANNEL_PREFIX" "examforge:progress"
      logLevel := values.get "EXAMFORGE_LOG_LEVEL" "info"
      logJson := switch values "EXAMFORGE_LOG_JSON" false
      metricsEnabled := switch values "PROMETHEUS_ENABLED" false }

/-- The first reason why settings cannot be used. -/
def fault? (settings : Settings) : Option ConfigError :=
  if settings.sweepIntervalSeconds = 0 ∨
      maxSweepInterval < settings.sweepIntervalSeconds then
    some (.invalidValue "EXPIRY_SWEEP_INTERVAL_SECONDS"
        (Text.ofNat settings.sweepIntervalSeconds))
  else if settings.sweepBatchSize = 0
    then some (.invalidValue "EXPIRY_SWEEP_BATCH_SIZE" "0")
  else if settings.maxQuestions = 0
    then some (.invalidValue "GENERATION_MAX_QUESTIONS" "0")
  else if settings.maxManualIds = 0 ∨
      maxManualLimit < settings.maxManualIds then
    some (.invalidValue "GENERATION_MAX_MANUAL_IDS"
        (Text.ofNat settings.maxManualIds))
  else if settings.isStrict = false then none
  else if settings.secretKey = developmentKey
    then some (.missingSecret "SECRET_KEY")
  else if settings.database.address = none ∧
      settings.database.password = "" then
    some (.missingSecret "POSTGRES_PASSWORD")
  else none

/-- Settings that can be used, or the first fault. -/
def load (values : Variables) : Except ConfigError Settings := do
  let settings ← read values
  match settings.fault? with
  | some fault => .error fault
  | none => .ok settings

end Settings

end ExamHall

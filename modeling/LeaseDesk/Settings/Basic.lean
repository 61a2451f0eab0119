import LeaseDesk.Settings.LogFilter
import LeaseDesk.Text.Basic
import LeaseDesk.Text.LetterCase
import LeaseDesk.Text.Numerals
import LeaseDesk.Text.Quoted

/-!
# Settings

The service is set up by six variables of its environment. `read` makes settings of them, with a default
for each one that is not set; only the two numbers can be unreadable, and the port is looked at first.
`check` finds out whether settings that could be read make sense.
-/

namespace LeaseDesk

/-- How the service is set up. -/
structure Settings where
  /-- the address of the database, if records are kept in one -/
  databaseUrl : Option String
  /-- the port the service listens at -/
  port : Nat
  /-- what is logged -/
  logLevel : String
  /-- the address of the license register, if there is one -/
  registerUrl : Option String
  /-- how long the register may take to reply, in seconds -/
  timeoutSeconds : Nat
  /-- missing tables are created at the start -/
  createsTables : Bool
deriving DecidableEq

namespace Settings

/-- What can be wrong with settings. -/
inductive Fault
  /-- the port is not a number of 16 bits -/
  | port (value : String)
  /-- the timeout is not a number of 64 bits -/
  | timeout (value : String)
  /-- what is to be logged is not a log filter -/
  | logLevel (value : String)
  /-- the register is given no time to reply -/
  | noTime
deriving DecidableEq

/-- The fault in words. -/
def Fault.message : Fault → String
  | port value => "PORT must be a port number, got " ++ Text.quotation value
  | timeout value =>
    "LICENSE_VALIDATOR_TIMEOUT_SECS must be a whole number, got " ++ Text.quotation value
  | logLevel value => "LOG_LEVEL is not a valid filter: " ++ Text.quotation value
  | noTime => "LICENSE_VALIDATOR_TIMEOUT_SECS must be greater than zero"

/-- The environment: the values of the variables that are set. -/
abbrev Environment : Type := String → Option String

/-- The value of a variable, unless it is blank. -/
def given (env : Environment) (name : String) : Option String :=
  (env name).filter fun value => !Text.isBlankText value

/-- The value of a numeric variable of at most `most`, or a default. -/
def number (env : Environment) (name : String) (default most : Nat) (fault : String → Fault) :
    Except Fault Nat :=
  match env name with
  | none => .ok default
  | some value =>
    match Text.Decimal.readBounded most value with
    | none => .error (fault value)
    | some n => .ok n

/-- The words for no. -/
def refusals : List String := ["0", "false", "no", "off"]

/-- Whatever is not a word for no means yes, and so does saying nothing. -/
def isWanted (env : Environment) (name : String) : Bool :=
  match env name with
  | none => true
  | some value => !refusals.contains (Text.lower (Text.trim value))

/-- The settings made by an environment. -/
def read (env : Environment) : Except Fault Settings :=
  match number env "PORT" 8080 65535 .port with
  | .error f => .error f
  | .ok port =>
    match number env "LICENSE_VALIDATOR_TIMEOUT_SECS" 5 Text.Decimal.largest64 .timeout with
    | .error f => .error f
    | .ok timeoutSeconds => .ok
      { databaseUrl := given env "DATABASE_URL"
        port := port
        logLevel := (env "LOG_LEVEL").getD "info,fleetlease_api=debug"
        registerUrl := given env "LICENSE_VALIDATOR_URL"
        timeoutSeconds := timeoutSeconds
        createsTables := isWanted env "RUN_MIGRATIONS" }

/-- Settings have to make sense. -/
def check (s : Settings) : Except Fault Unit :=
  if !isLogFilter s.logLevel then .error (.logLevel s.logLevel)
  else if s.timeoutSeconds == 0 then .error .noTime
  else .ok ()

end Settings

end LeaseDesk

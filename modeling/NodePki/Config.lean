import NodePki.Time.Duration

/-!
# Configuration

The settings of the program, read from variables of its environment. A variable that is not set or
does not hold what it should leaves the default.
-/

namespace NodePki

/-- The settings. -/
structure Config where
  /-- The namespace to work in when none is named. -/
  defaultNamespace : String := "default"
  /-- The level of events to show. -/
  logLevel : String := "info"
  /-- How many days a node certificate is valid. -/
  nodeValidityDays : Nat := 365
  /-- How many days the certificate of a new authority is valid. -/
  authorityValidityDays : Nat := 3650
  /-- How many seconds to go on trying. -/
  retryTimeoutSeconds : Nat := 180
  /-- How many seconds to wait between attempts. -/
  retryIntervalSeconds : Nat := 3
  /-- The certificate type when none is named. -/
  certificateType : String := "elasticsearch.all"
  deriving DecidableEq, Repr

namespace Config

/-- The settings of an empty environment. -/
def default : Config := {}

/-- The greatest number that a variable can hold. -/
def maxNumber : Nat := UInt64.size - 1

/-- The number that a text writes: digits after at most one plus sign, up to `maxNumber`. -/
def number? (text : String) : Option Nat :=
  let digits :=
    match text.toList with
    | '+' :: rest => rest
    | cs => cs
  if digits.isEmpty || !digits.all Char.isDigit then none
  else
    let n := digits.foldl (fun n c => n * 10 + (c.toNat - 0x30)) 0
    if n ≤ maxNumber then some n else none

/-- The variables that are read. -/
def variableNames : List String := [
  "POD_NAMESPACE", "LOG_LEVEL", "NODE_CERT_VALIDITY_DAYS", "CA_CERT_VALIDITY_DAYS",
  "NODE_CERT_RETRY_TIMEOUT_SECS", "NODE_CERT_RETRY_INTERVAL_SECS", "NODE_CERTIFICATE_TYPE"]

/-- Reads the settings; `lookup` gives the value of a variable that is set. -/
def ofEnvironment (lookup : String → Option String) : Config :=
  let text (name : String) (otherwise : String) := (lookup name).getD otherwise
  let number (name : String) (otherwise : Nat) := ((lookup name).bind number?).getD otherwise
  { defaultNamespace := text "POD_NAMESPACE" default.defaultNamespace
    logLevel := text "LOG_LEVEL" default.logLevel
    nodeValidityDays := number "NODE_CERT_VALIDITY_DAYS" default.nodeValidityDays
    authorityValidityDays := number "CA_CERT_VALIDITY_DAYS" default.authorityValidityDays
    retryTimeoutSeconds := number "NODE_CERT_RETRY_TIMEOUT_SECS" default.retryTimeoutSeconds
    retryIntervalSeconds := number "NODE_CERT_RETRY_INTERVAL_SECS" default.retryIntervalSeconds
    certificateType := text "NODE_CERTIFICATE_TYPE" default.certificateType }

/-- How long a node certificate is valid. -/
def nodeValidity (c : Config) : Duration := .ofDays c.nodeValidityDays

/-- How long the certificate of a new authority is valid. -/
def authorityValidity (c : Config) : Duration := .ofDays c.authorityValidityDays

/-- How long to go on trying. -/
def retryTimeout (c : Config) : Duration := .ofSeconds c.retryTimeoutSeconds

/-- How long to wait between attempts. -/
def retryInterval (c : Config) : Duration := .ofSeconds c.retryIntervalSeconds

end Config

end NodePki

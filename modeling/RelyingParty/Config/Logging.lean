import RelyingParty.Json.Record
import RelyingParty.Text.Case
import RelyingParty.Text.Digits

/-!
# Logging settings

How much is logged. The level is kept as written; a text that names no level counts as `INFO`. The log
output of a process is installed once, and stays.
-/

namespace RelyingParty.Config
set_option autoImplicit false

/-- A log level, from the least to the most output. -/
inductive LogLevel where
  | error
  | warn
  | info
  | debug
  | trace
deriving DecidableEq

namespace LogLevel

/-- All levels, the least output first. -/
def all : List LogLevel := [error, warn, info, debug, trace]

/-- The name of a level. -/
def name : LogLevel → String
  | error => "ERROR"
  | warn => "WARN"
  | info => "INFO"
  | debug => "DEBUG"
  | trace => "TRACE"

/-- The number of a level, from one. -/
def number : LogLevel → Nat
  | error => 1
  | warn => 2
  | info => 3
  | debug => 4
  | trace => 5

/-- The level with a number, or with a name regardless of ASCII case. -/
def ofText? (s : String) : Option LogLevel :=
  match Text.readNatural? (Nat.pow 2 64) s with
  | some n => all.find? fun l => l.number == n
  | none => all.find? fun l => Text.lowerAscii l.name == Text.lowerAscii s

end LogLevel

/-- The settings of the log output. -/
structure LoggingSettings where
  level : String
  withTarget : Bool
  withThreadIds : Bool
deriving DecidableEq

namespace LoggingSettings

/-- The settings where none are given. -/
def default : LoggingSettings := ⟨"info", true, true⟩

/-- The level that the settings stand for. -/
def maxLevel (s : LoggingSettings) : LogLevel :=
  (LogLevel.ofText? s.level).getD .info

/-- Settings in a document. -/
def toJson (s : LoggingSettings) : Json :=
  .object [
    ("level", .string s.level),
    ("with_target", .bool s.withTarget),
    ("with_thread_ids", .bool s.withThreadIds)]

/-- The settings that a document holds. -/
def ofJson? : Json.Decoder LoggingSettings := fun json => do
  let r ← Json.Record.ofJson? ["level", "with_target", "with_thread_ids"] json
  return {
    level := ← r.withDefault "level" Json.string? default.level
    withTarget := ← r.withDefault "with_target" Json.bool? default.withTarget
    withThreadIds := ← r.withDefault "with_thread_ids" Json.bool? default.withThreadIds }

end LoggingSettings

/-- The log output of a process: the settings that were installed, if any. -/
structure LogOutput where
  installed : Option LoggingSettings

/-- Installs settings unless some are installed already, and says whether it did. -/
def LogOutput.install (o : LogOutput) (s : LoggingSettings) : LogOutput × Bool :=
  match o.installed with
  | none => (⟨some s⟩, true)
  | some _ => (o, false)

end RelyingParty.Config

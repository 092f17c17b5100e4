import TypedQuery.CommandLine.Location
import TypedQuery.Error
import TypedQuery.Settings

/-!
# Failures of a command

Why a command ends without an answer. The description of a failure goes from the command down to
the cause: every level that has a wording of its own adds it after a colon.
-/

set_option autoImplicit false

namespace TypedQuery.CommandLine

/-- Why a file cannot be read as a text. -/
inductive FileFault where
  | missing
  | notADirectory
  | directory
  | nameTooLong
  | malformedText
  deriving DecidableEq, Repr

/-- The description of a file that cannot be read. -/
def FileFault.message : FileFault → String
  | .missing => "No such file or directory (os error 2)"
  | .notADirectory => "Not a directory (os error 20)"
  | .directory => "Is a directory (os error 21)"
  | .nameTooLong => "File name too long (os error 36)"
  | .malformedText => "stream did not contain valid UTF-8"

/-- What is wrong with a settings file. -/
inductive SettingsFailure where
  | unreadable (fault : FileFault)
  | refused (fault : Settings.Fault)
  deriving DecidableEq, Repr

/-- The description of a settings file that cannot be used. -/
def SettingsFailure.message : SettingsFailure → String
  | .unreadable fault => "IO error: " ++ fault.message ++ ": " ++ fault.message
  | .refused fault => "Configuration error: " ++ fault.message

/-- Why a command fails. -/
inductive Failure where
  /-- The settings file that the command names is of no use. -/
  | namedSettings (path : String) (fault : SettingsFailure)
  /-- The settings file that was found is of no use. -/
  | foundSettings (fault : SettingsFailure)
  | noDatabase
  | unopenedDatabase (name : String) (fault : OpeningFault)
  | query (error : TypedQuery.Error)
  deriving DecidableEq, Repr

/-- An error followed by the causes behind it. -/
def errorChain (error : TypedQuery.Error) : String :=
  match error.engineFault? with
  | some fault => error.message ++ ": " ++ fault.message ++ ": " ++ fault.listing
  | none => error.message

/-- The description of a failure. -/
def Failure.message : Failure → String
  | .namedSettings path fault => "Failed to load config " ++ path ++ ": " ++ fault.message
  | .foundSettings fault => fault.message
  | .noDatabase =>
    "No database. Use --database, set TQL_DATABASE or add `database` to tql.toml"
  | .unopenedDatabase name fault =>
    "Failed to open " ++ name ++ ": Database error: " ++ fault.message ++ ": " ++ fault.message
      ++ ": " ++ fault.cause
  | .query error => errorChain error

end TypedQuery.CommandLine

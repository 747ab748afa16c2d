import ChainWatch.State.Error
import ChainWatch.Wire.Decode
import ChainWatch.Chain.Codec
import ChainWatch.Url.Text

/-!
# Failures and health as JSON

A failure is reported as an object naming its kind, family first (`StateError.Client.Request`),
with its text under `message`; a snapshot error also says whether it is transient. A success is
reported as its value under `ok`. Health and its status report have JSON forms of their own.
-/

namespace ChainWatch

namespace Report

/-- A success: the value under `ok`. -/
def ok (v : Json) : Json := .obj [("ok", v)]

/-- A failure: its kind, its text, and further members. -/
def failure (kind message : String) (extra : List (String × Json) := []) : Json :=
  .obj ([("error", .str kind), ("message", .str message)] ++ extra)

end Report

/-- The report of a configuration error. -/
def ConfigError.toJson (e : ConfigError) : Json :=
  Report.failure ("ConfigurationError." ++ e.kindName) e.message

/-- The report of an address that is not a usable URL. -/
def UrlError.toJson (e : UrlError) : Json := Report.failure ("UrlParseError." ++ e.name) e.message

/-- The report of a decoding error. -/
def DecodeError.toJson (e : DecodeError) : Json := Report.failure "DecodeError" e.message

/-- The report of a failed call. -/
def ClientError.toJson (e : ClientError) : Json :=
  Report.failure ("ClientError." ++ e.kindName) e.message

/-- The report of a service that could not be used. -/
def HealthError.toJson (e : HealthError) : Json :=
  Report.failure ("HealthError." ++ e.kindName) e.message

/-- The report of a snapshot error, with whether it is transient. -/
def StateError.toJson (e : StateError) : Json :=
  Report.failure ("StateError." ++ e.kindName) e.message [("is_transient", .bool e.isTransient)]

/-- The JSON form of a health. -/
def Health.toJson : Health → Json
  | .unknown => .obj [("state", .str "unknown")]
  | .syncing p => .obj [("state", .str "syncing"), ("progress", Json.ofOption .float p)]
  | .synced => .obj [("state", .str "synced")]
  | .unavailable r => .obj [("state", .str "unavailable"), ("reason", .str r)]

/-- The JSON form of a status report. -/
def SyncStatus.toJson (s : SyncStatus) : Json :=
  .obj [("is_working", .bool s.isWorking), ("is_synced", .bool s.isSynced),
    ("sync_progress", Json.ofOption .float s.syncProgress),
    ("error", Json.ofOption .str s.error)]

end ChainWatch

import JobControl.Json.Codec
import JobControl.Settings

/-!
# Reading settings

Settings are read from requests, from files and from the environment, and all of them in the
same way but for single values: a document says of each value what kind it is, the environment
does not. A manner of reading says how single values are taken. Sections and fields that are
left out stand for their defaults.
-/

namespace JobControl

open Json (taken)

/-- How single values are taken. -/
structure Manner where
  text : Json → Option String
  long : Json → Option Int64
  count : Json → Option Nat
  flag : Json → Option Bool

namespace Manner

/-- Each value is of the kind that is asked for. -/
def exact : Manner where
  text := decode
  long := decode
  count := decode
  flag := decode

def texts (m : Manner) (j : Json) : Option (List String) :=
  j.array?.bind fun items => items.mapM m.text

/-- A text that `null` leaves open. -/
def textOrNull (m : Manner) : Json → Option (Option String)
  | .null => some none
  | j => (m.text j).map some

def apiKey (m : Manner) (j : Json) : Option ApiKey := do
  let fields ← j.object?
  return {
    name := ← taken m.text none fields "name"
    hash := ← taken m.text none fields "key_hash"
    roles := ← taken m.texts (some []) fields "roles"
    capabilities := ← taken m.texts (some []) fields "capabilities"
    isActive := ← taken m.flag (some true) fields "is_active" }

def storage (m : Manner) (j : Json) : Option StorageSettings := do
  let fields ← j.object?
  let unset := StorageSettings.default
  return {
    snapshotPath := ← taken m.textOrNull (some unset.snapshotPath) fields "snapshot_path"
    backupRetention := ← taken m.count (some unset.backupRetention) fields "backup_retention" }

def auth (m : Manner) (j : Json) : Option AuthSettings := do
  let fields ← j.object?
  let unset := AuthSettings.default
  return {
    secret := ← taken m.text (some unset.secret) fields "jwt_secret"
    tokenHours := ← taken m.long (some unset.tokenHours) fields "jwt_expiration_hours"
    apiKeys := ← taken (fun j => j.array?.bind fun items => items.mapM m.apiKey)
      (some unset.apiKeys) fields "api_keys" }

def records (m : Manner) (j : Json) : Option RecordSettings := do
  let fields ← j.object?
  let unset := RecordSettings.default
  return {
    level := ← taken m.text (some unset.level) fields "log_level"
    format := ← taken m.text (some unset.format) fields "log_format"
    capacity := ← taken m.count (some unset.capacity) fields "event_buffer_size"
    metrics := ← taken m.flag (some unset.metrics) fields "metrics_enabled" }

def settings (m : Manner) (j : Json) : Option Settings := do
  let fields ← j.object?
  return {
    storage := ← taken m.storage (some .default) fields "storage"
    auth := ← taken m.auth (some .default) fields "auth"
    records := ← taken m.records (some .default) fields "observability" }

end Manner

end JobControl

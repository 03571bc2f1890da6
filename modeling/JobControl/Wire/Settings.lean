import JobControl.Settings.Manner

/-!
# Settings as documents
-/

namespace JobControl

instance : Codec ApiKey where
  encode k := .obj
    [("name", encode k.name), ("key_hash", encode k.hash), ("roles", encode k.roles),
      ("capabilities", encode k.capabilities), ("is_active", encode k.isActive)]
  read _ := Manner.exact.apiKey

instance : Codec StorageSettings where
  encode s := .obj
    [("snapshot_path", encode s.snapshotPath), ("backup_retention", encode s.backupRetention)]
  read _ := Manner.exact.storage

instance : Codec AuthSettings where
  encode s := .obj
    [("jwt_secret", encode s.secret), ("jwt_expiration_hours", encode s.tokenHours),
      ("api_keys", encode s.apiKeys)]
  read _ := Manner.exact.auth

instance : Codec RecordSettings where
  encode s := .obj
    [("log_level", encode s.level), ("log_format", encode s.format),
      ("event_buffer_size", encode s.capacity), ("metrics_enabled", encode s.metrics)]
  read _ := Manner.exact.records

instance : Codec Settings where
  encode s := .obj
    [("storage", encode s.storage), ("auth", encode s.auth),
      ("observability", encode s.records)]
  read _ := Manner.exact.settings

end JobControl

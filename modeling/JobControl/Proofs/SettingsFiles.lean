import JobControl.Proofs.FilledTables
import JobControl.Proofs.PrintedStatements
import JobControl.Settings.File
import JobControl.Wire.Settings

/-!
# Settings files

Settings that were written to a file are read from it. The text is read
back as the statements that its lines are (`parse?_written`), whatever
characters the settings have in them. In the middle stands the document
that describes the settings: what the lines fill (`ofStatements?_lines`),
and what is read as the settings again (`ofToml?_sections`).

The document has every field but the path of the snapshot, which is left
out if it is not set, and stands for none if it is left out. Every other
default is never asked for, so that it does not matter what it is. Keys are
an array of tables, below the heading of the section and behind its other
fields; without keys there is no heading to show it, and an empty array
takes its place. Only counts can stand in the way of writing (`HaveRoom`).
-/

namespace JobControl

namespace Settings

open Toml (Line Plain Fields IsPath)

/-! ## The document of settings -/

def textsToml (ss : List String) : Toml := .array false (ss.map .text)

def storageFields (s : StorageSettings) : Fields :=
  (s.snapshotPath.map fun path => ("snapshot_path", Toml.text path)).toList
    ++ [("backup_retention", .int s.backupRetention)]

def apiKeyFields (k : ApiKey) : Fields :=
  [("name", .text k.name), ("key_hash", .text k.hash), ("roles", textsToml k.roles),
    ("capabilities", textsToml k.capabilities), ("is_active", .bool k.isActive)]

def tokenFields (s : AuthSettings) : Fields :=
  [("jwt_secret", .text s.secret), ("jwt_expiration_hours", .int s.tokenHours.toInt)]

def authFields (s : AuthSettings) : Fields :=
  tokenFields s ++ [("api_keys", .array (!s.apiKeys.isEmpty)
    (s.apiKeys.map fun k => .table .heading (apiKeyFields k)))]

def recordFields (s : RecordSettings) : Fields :=
  [("log_level", .text s.level), ("log_format", .text s.format),
    ("event_buffer_size", .int s.capacity), ("metrics_enabled", .bool s.metrics)]

/-- The fields of all sections. -/
def sections (s : Settings) : Fields :=
  [("storage", .table .heading (storageFields s.storage)),
    ("auth", .table .heading (authFields s.auth)),
    ("observability", .table .heading (recordFields s.records))]

/-! ### Lines of settings -/

/-- Counts that have room in a document. -/
structure HaveRoom (s : Settings) : Prop where
  retention : s.storage.backupRetention < 2 ^ 63
  capacity : s.records.capacity < 2 ^ 63

def storageLines (s : StorageSettings) : List Line :=
  .table ["storage"]
    :: (s.snapshotPath.map fun path => Line.field "snapshot_path" (.text path)).toList
    ++ [.field "backup_retention" (.int s.backupRetention)]

def recordLines (s : RecordSettings) : List Line :=
  [.table ["observability"], .field "log_level" (.text s.level),
    .field "log_format" (.text s.format), .field "event_buffer_size" (.int s.capacity),
    .field "metrics_enabled" (.bool s.metrics)]

/-- The lines of settings, whether there is room or not. -/
def lines (s : Settings) : List Line :=
  storageLines s.storage ++ authLines s.auth ++ recordLines s.records

theorem countLine?_eq_some {name : String} {n : Nat} {line : Line} :
    countLine? name n = some line ↔ n < 2 ^ 63 ∧ line = .field name (.int n) := by
  rw [countLine?]
  split
  · rename_i h
    simp [h, eq_comm]
  · rename_i h
    simp [h]

/-- Settings can be written exactly if their counts have room. -/
theorem lines?_eq_some {s : Settings} {ls : List Line} :
    s.lines? = some ls ↔ s.HaveRoom ∧ ls = s.lines := by
  simp only [lines?, storageLines?, recordLines?, Option.bind_eq_bind, Option.pure_def,
    Option.bind_eq_some_iff, Option.some.injEq, countLine?_eq_some]
  constructor
  · rintro ⟨_, ⟨_, ⟨hretention, rfl⟩, rfl⟩, _, ⟨_, ⟨hcapacity, rfl⟩, rfl⟩, rfl⟩
    exact ⟨⟨hretention, hcapacity⟩, rfl⟩
  · rintro ⟨⟨hretention, hcapacity⟩, rfl⟩
    exact ⟨_, ⟨_, ⟨hretention, rfl⟩, rfl⟩, _, ⟨_, ⟨hcapacity, rfl⟩, rfl⟩, rfl⟩

theorem text_eq_ok {s : Settings} {text : String} :
    s.text = .ok text ↔ s.HaveRoom ∧ text = Toml.written s.lines := by
  rw [Settings.text]
  cases hlines : s.lines? with
  | none =>
      have hnone : ¬s.HaveRoom := fun h => nomatch hlines.symm.trans (lines?_eq_some.mpr ⟨h, rfl⟩)
      simp [hnone]
  | some ls =>
      obtain ⟨hroom, rfl⟩ := lines?_eq_some.mp hlines
      simp [hroom, eq_comm]

theorem hasRoom_natCast {n : Nat} (h : n < 2 ^ 63) : (Plain.int n).HasRoom := by
  constructor <;> omega

theorem isProper_of_mem_storageLines {s : StorageSettings} (h : s.backupRetention < 2 ^ 63) :
    ∀ line ∈ storageLines s, line.IsProper := by
  have hsection : IsPath ["storage"] := by decide
  simp only [storageLines, List.forall_mem_append, List.forall_mem_cons, List.cons_append]
  refine ⟨hsection, ?_, ⟨by decide, hasRoom_natCast h⟩, nofun⟩
  intro line hline
  obtain ⟨path, -, rfl⟩ := Option.map_eq_some_iff.mp (Option.mem_toList.mp hline)
  exact ⟨by decide, trivial⟩

theorem isProper_of_mem_authLines (s : AuthSettings) : ∀ line ∈ authLines s, line.IsProper := by
  have hsection : IsPath ["auth"] := by decide
  have hlist : IsPath ["auth", "api_keys"] := by decide
  have hhours : (Plain.int s.tokenHours.toInt).HasRoom := by
    have hlow := s.tokenHours.le_toInt
    have hhigh := s.tokenHours.toInt_lt
    constructor <;> omega
  have hkey : ∀ k : ApiKey, ∀ line ∈ apiKeyLines k, line.IsProper := by
    intro k
    simp only [apiKeyLines, List.forall_mem_cons]
    exact ⟨hlist, ⟨by decide, trivial⟩, ⟨by decide, trivial⟩, ⟨by decide, trivial⟩,
      ⟨by decide, trivial⟩, ⟨by decide, trivial⟩, nofun⟩
  simp only [authLines, List.forall_mem_append, List.forall_mem_cons]
  refine ⟨⟨⟨hsection, ⟨by decide, trivial⟩, ⟨by decide, hhours⟩, nofun⟩, ?_⟩, ?_⟩
  · split
    · exact List.forall_mem_cons.mpr ⟨⟨by decide, trivial⟩, nofun⟩
    · exact nofun
  · intro line hline
    obtain ⟨k, -, hmem⟩ := List.mem_flatMap.mp hline
    exact hkey k line hmem

theorem isProper_of_mem_recordLines {s : RecordSettings} (h : s.capacity < 2 ^ 63) :
    ∀ line ∈ recordLines s, line.IsProper := by
  have hsection : IsPath ["observability"] := by decide
  simp only [recordLines, List.forall_mem_cons]
  exact ⟨hsection, ⟨by decide, trivial⟩, ⟨by decide, trivial⟩, ⟨by decide, hasRoom_natCast h⟩,
    ⟨by decide, trivial⟩, nofun⟩

theorem isProper_of_mem_lines {s : Settings} (h : s.HaveRoom) :
    ∀ line ∈ s.lines, line.IsProper := by
  simp only [lines, List.forall_mem_append]
  exact ⟨⟨isProper_of_mem_storageLines h.retention, isProper_of_mem_authLines s.auth⟩,
    isProper_of_mem_recordLines h.capacity⟩

/-! ### Lines fill the document -/

section Filling

open Toml.Document (addAll addAll_append addAll_table addAll_items fieldStatement)

theorem nodup_names_storageFields (s : StorageSettings) : (storageFields s).names.Nodup := by
  obtain ⟨path, retention⟩ := s
  cases path with
  | none =>
      change ["backup_retention"].Nodup
      decide
  | some path =>
      change ["snapshot_path", "backup_retention"].Nodup
      decide

theorem nodup_names_apiKeyFields (k : ApiKey) : (apiKeyFields k).names.Nodup := by
  change ["name", "key_hash", "roles", "capabilities", "is_active"].Nodup
  decide

theorem nodup_names_tokenFields (s : AuthSettings) : (tokenFields s).names.Nodup := by
  change ["jwt_secret", "jwt_expiration_hours"].Nodup
  decide

theorem nodup_names_authFields (s : AuthSettings) : (authFields s).names.Nodup := by
  change ["jwt_secret", "jwt_expiration_hours", "api_keys"].Nodup
  decide

theorem nodup_names_recordFields (s : RecordSettings) : (recordFields s).names.Nodup := by
  change ["log_level", "log_format", "event_buffer_size", "metrics_enabled"].Nodup
  decide

variable {before : Fields} {here : List String}

theorem addAll_storageLines (s : StorageSettings) (hname : "storage" ∉ before.names) :
    addAll ⟨before, here⟩ ((storageLines s).map Line.statement)
      = some ⟨before ++ [("storage", .table .heading (storageFields s))], ["storage"]⟩ := by
  have hfilled := addAll_table here hname (nodup_names_storageFields s)
  obtain ⟨path, retention⟩ := s
  cases path <;> exact hfilled

/-- With keys, the heading of the section and the headings of the keys follow each other. -/
theorem map_statement_authLines {s : AuthSettings} (hkeys : s.apiKeys ≠ []) :
    (authLines s).map Line.statement
      = (.table ["auth"] :: (tokenFields s).map fieldStatement)
        ++ (s.apiKeys.map apiKeyFields).flatMap fun fields =>
          .item (["auth"] ++ ["api_keys"]) :: fields.map fieldStatement := by
  have hsome : s.apiKeys.isEmpty = false := by simpa using hkeys
  rw [authLines, hsome, List.map_append, List.map_flatMap, List.flatMap_map]
  rfl

theorem addAll_authLines (here : List String) (s : AuthSettings) (hname : "auth" ∉ before.names) :
    ∃ here', addAll ⟨before, here⟩ ((authLines s).map Line.statement)
      = some ⟨before ++ [("auth", .table .heading (authFields s))], here'⟩ := by
  by_cases hkeys : s.apiKeys = []
  · have hfilled := addAll_table here hname (nodup_names_authFields s)
    obtain ⟨secret, hours, keys⟩ := s
    obtain rfl : keys = [] := hkeys
    exact ⟨["auth"], hfilled⟩
  · have hlist : "api_keys" ∉ (tokenFields s).names := by
      change "api_keys" ∉ ["jwt_secret", "jwt_expiration_hours"]
      decide
    have hitem : ∀ fields ∈ s.apiKeys.map apiKeyFields, fields.names.Nodup :=
      List.forall_mem_map.mpr fun k _ => nodup_names_apiKeyFields k
    obtain ⟨here', hitems⟩ := addAll_items [] ["auth"] (Toml.leadsTo_table hname) hlist hitem
    refine ⟨here', ?_⟩
    rw [map_statement_authLines hkeys, addAll_append,
      addAll_table here hname (nodup_names_tokenFields s), Option.bind_some]
    refine hitems.trans ?_
    simp [Toml.Document.arrayField, authFields, hkeys]

/-- The lines of settings fill the document that describes them. -/
theorem ofStatements?_lines (s : Settings) :
    Toml.Document.ofStatements? (s.lines.map Line.statement)
      = some (.table .heading s.sections) := by
  have hauthNew : "auth"
      ∉ Entries.names [("storage", Toml.table .heading (storageFields s.storage))] := by
    change "auth" ∉ ["storage"]
    decide
  have hrecordsNew : "observability" ∉ Entries.names
      [("storage", Toml.table .heading (storageFields s.storage)),
        ("auth", .table .heading (authFields s.auth))] := by
    change "observability" ∉ ["storage", "auth"]
    decide
  obtain ⟨here, hauth⟩ := addAll_authLines ["storage"] s.auth hauthNew
  have hrecords := addAll_table here hrecordsNew (nodup_names_recordFields s.records)
  have hall : addAll .empty (s.lines.map Line.statement)
      = some ⟨s.sections, ["observability"]⟩ := by
    rw [lines, List.map_append, List.map_append, addAll_append, addAll_append,
      Toml.Document.empty, addAll_storageLines s.storage List.not_mem_nil, Option.bind_some,
      List.nil_append, hauth, Option.bind_some]
    exact hrecords
  rw [addAll] at hall
  rw [Toml.Document.ofStatements?, hall]
  rfl

end Filling

/-! ## Reading the document -/

theorem itemsToJson_eq_map (ofTime : Toml.Time → Json) (items : List Toml) :
    Toml.itemsToJson ofTime items = items.map (Toml.toJson ofTime) := by
  induction items with
  | nil => rfl
  | cons item items ih => rw [Toml.itemsToJson, ih, List.map_cons]

theorem toJson_textsToml (ss : List String) : (textsToml ss).toJson timeRecord = encode ss := by
  rw [textsToml, Toml.toJson, itemsToJson_eq_map, List.map_map]
  rfl

theorem toJson_apiKeyFields (k : ApiKey) :
    (Toml.table .heading (apiKeyFields k)).toJson timeRecord = encode k := by
  simp only [apiKeyFields, Toml.toJson, Toml.fieldsToJson, toJson_textsToml]
  rfl

theorem toJson_authFields (s : AuthSettings) :
    (Toml.table .heading (authFields s)).toJson timeRecord = encode s := by
  have hkeys : (s.apiKeys.map fun k => Toml.table .heading (apiKeyFields k)).map
      (Toml.toJson timeRecord) = s.apiKeys.map encode := by
    rw [List.map_map]
    exact List.map_congr_left fun k _ => toJson_apiKeyFields k
  simp only [authFields, tokenFields, List.cons_append, List.nil_append, Toml.toJson,
    Toml.fieldsToJson, itemsToJson_eq_map, hkeys]
  rfl

theorem toJson_recordFields (s : RecordSettings) :
    (Toml.table .heading (recordFields s)).toJson timeRecord = encode s := rfl

open Json (object?)

theorem faithful_apiKey (k : ApiKey) : Faithful k := by
  intro s
  delta instCodecApiKey
  dsimp only [Manner.apiKey, object?, Option.bind_eq_bind, Option.bind_some]
  refine read_field (faithful_string _) rfl ?_
  refine read_field (faithful_string _) rfl ?_
  refine read_field (faithful_list fun text _ => faithful_string text) rfl ?_
  refine read_field (faithful_list fun text _ => faithful_string text) rfl ?_
  exact read_field (faithful_bool _) rfl rfl

theorem faithful_authSettings (s : AuthSettings) : Faithful s := by
  intro spelling
  delta instCodecAuthSettings
  dsimp only [Manner.auth, object?, Option.bind_eq_bind, Option.bind_some]
  refine read_field (faithful_string _) rfl ?_
  refine read_field (faithful_int64 _) rfl ?_
  exact read_field (s := .narrow) (faithful_list fun k _ => faithful_apiKey k) rfl rfl

theorem faithful_recordSettings {s : RecordSettings} (h : s.capacity < 2 ^ 64) : Faithful s := by
  intro spelling
  delta instCodecRecordSettings
  dsimp only [Manner.records, object?, Option.bind_eq_bind, Option.bind_some]
  refine read_field (faithful_string _) rfl ?_
  refine read_field (faithful_string _) rfl ?_
  refine read_field (faithful_nat h) rfl ?_
  exact read_field (faithful_bool _) rfl rfl

/-- A path that is not set is left out, and stands for none. -/
theorem read_storageFields {s : StorageSettings} (h : s.backupRetention < 2 ^ 64) :
    Manner.exact.storage ((Toml.table .heading (storageFields s)).toJson timeRecord) = some s := by
  obtain ⟨path, retention⟩ := s
  cases path with
  | none => exact read_field (s := .narrow) (faithful_nat h) rfl rfl
  | some path => exact read_field (s := .narrow) (faithful_nat h) rfl rfl

theorem read_sections {storage auth records : Json} {s : Settings}
    (hstorage : Manner.exact.storage storage = some s.storage)
    (hauth : Manner.exact.auth auth = some s.auth)
    (hrecords : Manner.exact.records records = some s.records) :
    Manner.exact.settings
      (.obj [("storage", storage), ("auth", auth), ("observability", records)]) = some s := by
  dsimp only [Manner.settings, object?, Option.bind_eq_bind, Option.bind_some]
  rw [Json.taken_of_once rfl, hstorage, Option.bind_some, Json.taken_of_once rfl, hauth,
    Option.bind_some, Json.taken_of_once rfl, hrecords, Option.bind_some]
  rfl

/-- The document that describes settings is read as these settings. -/
theorem ofToml?_sections {s : Settings} (h : s.HaveRoom) :
    ofToml? (.table .heading s.sections) = some s := by
  have hstorage := read_storageFields (Nat.lt_trans h.retention (by decide))
  have hauth := faithful_authSettings s.auth .narrow
  have hrecords := faithful_recordSettings (Nat.lt_trans h.capacity (by decide)) .narrow
  rw [← toJson_authFields] at hauth
  rw [← toJson_recordFields] at hrecords
  rw [ofToml?, sections, Toml.toJson]
  simp only [Toml.fieldsToJson]
  exact read_sections hstorage hauth hrecords

theorem checked_eq_ok {s : Settings} (h : s.defect? = none) : s.checked = .ok s := by
  rw [checked, h]

/-- **Settings survive their text.** Settings without a defect that can be written are read
back from what was written, all of them and with every key in its place. -/
theorem ofText_text {s : Settings} {text : String} (hvalid : s.defect? = none)
    (htext : s.text = .ok text) : ofText text = .ok s := by
  obtain ⟨hroom, rfl⟩ := text_eq_ok.mp htext
  rw [ofText, Toml.parse?_written (isProper_of_mem_lines hroom), ofStatements?_lines,
    Option.bind_some, ofToml?_sections hroom]
  exact checked_eq_ok hvalid

/-- Settings in whose text every kind of quotes stands. -/
def quotedSettings : Settings where
  storage := ⟨some "C:\\store\\snapshot.json", 6⟩
  auth := ⟨"two lines,\n'''three''' and \"\"\"three\"\"\" quotes", 24,
    [⟨"it's \"ops\"", "aGFzaA==", ["www-data", "it's \\"], ["\x01"], false⟩]⟩
  records := ⟨"info", "json", 1000, true⟩

/-- The text of `quotedSettings`. -/
def quotedText : String :=
  r#"[storage]
snapshot_path = 'C:\store\snapshot.json'
backup_retention = 6

[auth]
jwt_secret = """
two lines,
'''three''' and ""\"three""\" quotes"""
jwt_expiration_hours = 24

[[auth.api_keys]]
name = """it's "ops""""
key_hash = "aGFzaA=="
roles = [
    "www-data",
    '''it's \''',
]
capabilities = ["\u0001"]
is_active = false

[observability]
log_level = "info"
log_format = "json"
event_buffer_size = 1000
metrics_enabled = true
"#

set_option maxRecDepth 4000 in
theorem ofText_text_quotedSettings : quotedSettings.defect? = none
    ∧ quotedSettings.text = .ok quotedText ∧ ofText quotedText = .ok quotedSettings := by
  have hvalid : quotedSettings.defect? = none := by decide
  have htext : quotedSettings.text = .ok quotedText := rfl
  exact ⟨hvalid, htext, ofText_text hvalid htext⟩

end Settings

end JobControl

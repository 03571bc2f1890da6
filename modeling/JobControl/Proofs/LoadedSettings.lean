import JobControl.Proofs.Commands
import JobControl.Proofs.Overlays
import JobControl.Settings.Loading
import Mathlib.Control.Monad.Basic

/-!
# Settings that are loaded

Each field of loaded settings is read from one value of the layers, or is
left at its default if there is no such value (`Setting.holds_of_settings`).
The layer of the environment lies over that of the file. So a field that no
variable speaks of is what the file alone would make of it, and a field that
one variable speaks of is what the text of the variable is taken for.

For a field that is a text, this is not always the text itself. What looks
like a truth value or a number has been taken for one before anybody asks
for a text, and is written anew.

Of two variables that speak of one field, which of them is laid over the
other is not settled by their names. Nothing is said of them.
-/

namespace JobControl

open Overlay (found lay merged parts path)

/-! ## Fields of a document -/

theorem Json.lookup_eq_head?_filter {fields : List (String × Json)} {name : String} :
    fields.lookup name = ((fields.filter (·.1 == name)).head?).map (·.2) := by
  induction fields with
  | nil => rfl
  | cons field fields ih =>
      rw [List.lookup_cons, List.filter_cons, Bool.beq_comm]
      cases field.1 == name with
      | true => rfl
      | false => exact ih

theorem Json.lookup_of_once {fields : List (String × Json)} {name : String} {value : Option Json}
    (h : once fields name = some value) : fields.lookup name = value := by
  rw [lookup_eq_head?_filter]
  rw [once] at h
  split at h
  · rename_i hnone
    rw [hnone]
    exact Option.some.inj h
  · rename_i hone
    rw [hone]
    exact Option.some.inj h
  · cases h

/-- What is taken from a field is read from its value, or is what stands for
it. -/
theorem Json.elim_of_taken {α : Type} {read : Json → Option α} {missing : Option α}
    {fields : List (String × Json)} {name : String} {a : α}
    (h : taken read missing fields name = some a) :
    (fields.lookup name).elim missing read = some a := by
  rw [taken] at h
  split at h
  · rename_i honce
    rwa [lookup_of_once honce]
  · rename_i honce
    rwa [lookup_of_once honce]
  · cases h

/-! ## Fields of settings -/

/-- A field of settings: its section and its name in a document, how it is
read, what stands for it if it is left out, and where it is kept. -/
structure Setting where
  {Value : Type}
  part : String
  field : String
  read : Json → Option Value
  unset : Value
  get : Settings → Value

namespace Setting

def snapshotPath : Setting :=
  ⟨"storage", "snapshot_path", Manner.converting.textOrNull, StorageSettings.default.snapshotPath,
    (·.storage.snapshotPath)⟩

def backupRetention : Setting :=
  ⟨"storage", "backup_retention", Variable.count, StorageSettings.default.backupRetention,
    (·.storage.backupRetention)⟩

def secret : Setting :=
  ⟨"auth", "jwt_secret", Variable.text, AuthSettings.default.secret, (·.auth.secret)⟩

def tokenHours : Setting :=
  ⟨"auth", "jwt_expiration_hours", Variable.long, AuthSettings.default.tokenHours,
    (·.auth.tokenHours)⟩

def apiKeys : Setting :=
  ⟨"auth", "api_keys", fun j => j.array?.bind fun items => items.mapM Manner.converting.apiKey,
    AuthSettings.default.apiKeys, (·.auth.apiKeys)⟩

def level : Setting :=
  ⟨"observability", "log_level", Variable.text, RecordSettings.default.level, (·.records.level)⟩

def format : Setting :=
  ⟨"observability", "log_format", Variable.text, RecordSettings.default.format,
    (·.records.format)⟩

def capacity : Setting :=
  ⟨"observability", "event_buffer_size", Variable.count, RecordSettings.default.capacity,
    (·.records.capacity)⟩

def metrics : Setting :=
  ⟨"observability", "metrics_enabled", Variable.flag, RecordSettings.default.metrics,
    (·.records.metrics)⟩

/-- All fields of settings. -/
def all : List Setting :=
  [snapshotPath, backupRetention, secret, tokenHours, apiKeys, level, format, capacity, metrics]

/-- The names that lead to a field in a document. -/
def names (x : Setting) : List String := [x.part, x.field]

/-- A field has the value that a document says, or its default. -/
def Holds (x : Setting) (j : Json) (s : Settings) : Prop :=
  (found x.names j).elim (some x.unset) x.read = some (x.get s)

theorem found_names (x : Setting) (j : Json) : found x.names j
    = ((Overlay.fieldsOf j).lookup x.part).bind fun part =>
        (Overlay.fieldsOf part).lookup x.field := by
  simp only [names, found, Option.bind_fun_some]

/-- A field of a section that is read as a whole. -/
theorem holds_of_part {α : Type} {x : Setting} {read : Json → Option α} {unset a : α}
    {fields : List (String × Json)} {s : Settings}
    (hpart : Json.taken read (some unset) fields x.part = some a)
    (hunset : a = unset → x.get s = x.unset)
    (hfield : ∀ part, read part = some a →
      Json.taken x.read (some x.unset) (Overlay.fieldsOf part) x.field = some (x.get s)) :
    x.Holds (.obj fields) s := by
  have hread := Json.elim_of_taken hpart
  rw [Holds, found_names]
  change (((fields.lookup x.part).bind _).elim _ _) = _
  cases hthere : fields.lookup x.part with
  | none =>
      rw [hthere] at hread
      exact congrArg some (hunset (Option.some.inj hread).symm).symm
  | some part =>
      rw [hthere] at hread
      exact Json.elim_of_taken (hfield part hread)

section Parts

variable {part : Json}

theorem taken_of_storage {a : StorageSettings} (h : Manner.converting.storage part = some a) :
    Json.taken snapshotPath.read (some snapshotPath.unset) (Overlay.fieldsOf part)
        snapshotPath.field = some a.snapshotPath
      ∧ Json.taken backupRetention.read (some backupRetention.unset) (Overlay.fieldsOf part)
        backupRetention.field = some a.backupRetention := by
  simp only [Manner.storage, Option.bind_eq_bind, Option.bind_eq_some_iff] at h
  obtain ⟨fields, hfields, path, hpath, retention, hretention, h⟩ := h
  cases h
  rw [Overlay.fieldsOf, hfields]
  exact ⟨hpath, hretention⟩

theorem taken_of_auth {a : AuthSettings} (h : Manner.converting.auth part = some a) :
    Json.taken secret.read (some secret.unset) (Overlay.fieldsOf part) secret.field
        = some a.secret
      ∧ Json.taken tokenHours.read (some tokenHours.unset) (Overlay.fieldsOf part)
        tokenHours.field = some a.tokenHours
      ∧ Json.taken apiKeys.read (some apiKeys.unset) (Overlay.fieldsOf part) apiKeys.field
        = some a.apiKeys := by
  simp only [Manner.auth, Option.bind_eq_bind, Option.bind_eq_some_iff] at h
  obtain ⟨fields, hfields, text, hsecret, hours, hhours, keys, hkeys, h⟩ := h
  cases h
  rw [Overlay.fieldsOf, hfields]
  exact ⟨hsecret, hhours, hkeys⟩

theorem taken_of_records {a : RecordSettings} (h : Manner.converting.records part = some a) :
    Json.taken level.read (some level.unset) (Overlay.fieldsOf part) level.field = some a.level
      ∧ Json.taken format.read (some format.unset) (Overlay.fieldsOf part) format.field
        = some a.format
      ∧ Json.taken capacity.read (some capacity.unset) (Overlay.fieldsOf part) capacity.field
        = some a.capacity
      ∧ Json.taken metrics.read (some metrics.unset) (Overlay.fieldsOf part) metrics.field
        = some a.metrics := by
  simp only [Manner.records, Option.bind_eq_bind, Option.bind_eq_some_iff] at h
  obtain ⟨fields, hfields, text, hlevel, form, hformat, count, hcapacity, flag, hmetrics, h⟩ := h
  cases h
  rw [Overlay.fieldsOf, hfields]
  exact ⟨hlevel, hformat, hcapacity, hmetrics⟩

end Parts

/-- **Each field of settings that are read holds what the document says.** -/
theorem holds_of_settings {j : Json} {s : Settings} (h : Manner.converting.settings j = some s) :
    ∀ x ∈ all, x.Holds j s := by
  simp only [Manner.settings, Option.bind_eq_bind, Option.bind_eq_some_iff] at h
  obtain ⟨fields, hfields, storage, hstorage, auth, hauth, records, hrecords, h⟩ := h
  cases h
  obtain rfl : j = .obj fields := by
    cases j with
    | obj _ => cases hfields; rfl
    | null | bool _ | int _ | float _ | str _ | arr _ | garbled => cases hfields
  simp only [all, List.forall_mem_cons, List.not_mem_nil, false_imp_iff, implies_true, and_true]
  refine ⟨
    holds_of_part hstorage (congrArg StorageSettings.snapshotPath) fun _ h =>
      (taken_of_storage h).1,
    holds_of_part hstorage (congrArg StorageSettings.backupRetention) fun _ h =>
      (taken_of_storage h).2,
    holds_of_part hauth (congrArg AuthSettings.secret) fun _ h => (taken_of_auth h).1,
    holds_of_part hauth (congrArg AuthSettings.tokenHours) fun _ h => (taken_of_auth h).2.1,
    holds_of_part hauth (congrArg AuthSettings.apiKeys) fun _ h => (taken_of_auth h).2.2,
    holds_of_part hrecords (congrArg RecordSettings.level) fun _ h => (taken_of_records h).1,
    holds_of_part hrecords (congrArg RecordSettings.format) fun _ h => (taken_of_records h).2.1,
    holds_of_part hrecords (congrArg RecordSettings.capacity) fun _ h => (taken_of_records h).2.2.1,
    holds_of_part hrecords (congrArg RecordSettings.metrics) fun _ h => (taken_of_records h).2.2.2⟩

end Setting

/-! ## Variables -/

namespace Variable

/-- A variable does not speak of the value to which some names lead. -/
def spares (names : List String) (name : String) : Bool :=
  (setting? name).all fun setting => parts (path setting) names

/-- No variable but one speaks of the value to which some names lead. -/
def Alone (vars : Table String) (name : String) (names : List String) : Prop :=
  ∀ entry ∈ vars.toList, entry.1 ≠ name → spares names entry.1 = true

/-- What the text of a variable may be taken for. -/
theorem value_cases (text : String) : (∃ b, value text = .bool b) ∨ (∃ n, value text = .int n)
    ∨ (∃ x, value text = .float x) ∨ value text = .str text := by
  rw [value]
  split
  · exact .inl ⟨true, rfl⟩
  · exact .inl ⟨false, rfl⟩
  · split
    · exact .inr (.inl ⟨_, rfl⟩)
    · split
      · exact .inr (.inr (.inl ⟨_, rfl⟩))
      · exact .inr (.inr (.inr rfl))

theorem object?_value (text : String) : (value text).object? = none := by
  obtain ⟨b, h⟩ | ⟨n, h⟩ | ⟨x, h⟩ | h := value_cases text <;> rw [h] <;> rfl

/-- A variable stands for a text where one may be left open. -/
theorem textOrNull_value (text : String) :
    Manner.converting.textOrNull (value text) = (Variable.text (value text)).map some := by
  obtain ⟨b, h⟩ | ⟨n, h⟩ | ⟨x, h⟩ | h := value_cases text <;> rw [h] <;> rfl

theorem mem_layer {vars : Table String} {entry : String × Json} : entry ∈ layer vars
    ↔ ∃ name text, vars[name]? = some text ∧ setting? name = some entry.1
      ∧ value text = entry.2 := by
  simp only [layer, List.mem_filterMap, Option.map_eq_some_iff, Prod.exists,
    Std.ExtTreeMap.mem_toList_iff_getElem?_eq_some]
  constructor
  · rintro ⟨name, text, hthere, setting, hsetting, rfl⟩
    exact ⟨name, text, hthere, hsetting, rfl⟩
  · rintro ⟨name, text, hthere, hsetting, hvalue⟩
    exact ⟨name, text, hthere, entry.1, hsetting, Prod.ext rfl hvalue⟩

section Layer

variable {vars : Table String} {names : List String} {below : Json}

theorem found_layer_of_spares (h : ∀ entry ∈ vars.toList, spares names entry.1 = true) :
    found names (lay below (layer vars)) = found names below := by
  refine Overlay.found_lay_of_parts fun entry hentry => ?_
  obtain ⟨name, text, hthere, hsetting, -⟩ := mem_layer.mp hentry
  have hspares := h _ (Std.ExtTreeMap.mem_toList_iff_getElem?_eq_some.mpr hthere)
  rwa [spares, hsetting, Option.all_some] at hspares

theorem found_layer {name text setting : String} (hthere : vars[name]? = some text)
    (hsetting : setting? name = some setting) (hpath : path setting = names.map .name)
    (halone : Alone vars name names) :
    found names (lay below (layer vars)) = some (value text) := by
  refine Overlay.found_lay (object?_value text) (fun entry hentry => ?_)
    (.inr ⟨(setting, value text), mem_layer.mpr ⟨name, text, hthere, hsetting, rfl⟩, hpath, rfl⟩)
  obtain ⟨other, text', hthere', hsetting', hvalue⟩ := mem_layer.mp hentry
  by_cases hsame : other = name
  · subst hsame
    rw [hthere] at hthere'
    rw [hsetting] at hsetting'
    cases hthere'
    cases hsetting'
    exact .inr ⟨hpath, hvalue.symm⟩
  · have hspares := halone _ (Std.ExtTreeMap.mem_toList_iff_getElem?_eq_some.mpr hthere') hsame
    rw [spares, hsetting', Option.all_some] at hspares
    exact .inl hspares

end Layer

end Variable

/-! ## Loading -/

/-- What the file says from which settings are loaded, if there is one. -/
inductive Settings.FileSays (files : Files) (given : Option String) :
    List (String × Json) → Prop
  | nothing (h : source? files given = .ok none) : FileSays files given []
  | file {path : String} {layer : List (String × Json)} (h : source? files given = .ok (some path))
      (hlayer : fileLayer files path = .ok layer) : FileSays files given layer

section Load

variable {files : Files} {given : Option String} {vars : Table String} {s : Settings}

theorem Settings.eq_of_checked {s' : Settings} (h : s.checked = .ok s') : s = s' := by
  rw [checked] at h
  split at h
  · cases h
  · exact Except.ok.inj h

theorem Settings.of_load (h : load files given vars = .ok s) :
    ∃ layer, FileSays files given layer
      ∧ Manner.converting.settings (lay (merged [layer]) (Variable.layer vars)) = some s := by
  simp only [load, bind_eq_ok] at h
  obtain ⟨source, hsource, h⟩ := h
  cases source with
  | none =>
      obtain ⟨layer, hlayer, h⟩ := bind_eq_ok.mp h
      cases hlayer
      refine ⟨[], .nothing hsource, ?_⟩
      split at h
      · rename_i read hread
        rwa [← eq_of_checked h]
      · cases h
  | some path =>
      obtain ⟨layer, hlayer, h⟩ := bind_eq_ok.mp h
      refine ⟨layer, .file hsource hlayer, ?_⟩
      split at h
      · rename_i read hread
        rwa [← eq_of_checked h]
      · cases h

/-- **What settings are loaded with.** A field that no variable speaks of
has the value that the file says, or its default. If one variable speaks of
the secret or of the path of the snapshot, that is what its text is taken
for, as a text again: the text itself, unless it is taken for a truth value
or a number. -/
theorem Settings.loaded_over_file (h : load files given vars = .ok s) :
    ∃ layer, FileSays files given layer
      ∧ (∀ x ∈ Setting.all, (∀ entry ∈ vars.toList, Variable.spares x.names entry.1 = true) →
        x.Holds (merged [layer]) s)
      ∧ (∀ text, vars["SCHEDULER_AUTH__JWT_SECRET"]? = some text →
        Variable.Alone vars "SCHEDULER_AUTH__JWT_SECRET" Setting.secret.names →
        Variable.text (Variable.value text) = some s.auth.secret
          ∧ (Variable.value text = .str text → s.auth.secret = text))
      ∧ ∀ text, vars["SCHEDULER_STORAGE__SNAPSHOT_PATH"]? = some text →
        Variable.Alone vars "SCHEDULER_STORAGE__SNAPSHOT_PATH" Setting.snapshotPath.names →
        Variable.text (Variable.value text) = s.storage.snapshotPath
          ∧ (Variable.value text = .str text → s.storage.snapshotPath = some text) := by
  obtain ⟨layer, hsays, hsettings⟩ := of_load h
  have hholds := Setting.holds_of_settings hsettings
  refine ⟨layer, hsays, fun x hx hspares => ?_, fun text hthere halone => ?_,
    fun text hthere halone => ?_⟩
  · have hx := hholds x hx
    rwa [Setting.Holds, Variable.found_layer_of_spares hspares] at hx
  · have hsecret := hholds .secret (by simp [Setting.all])
    have hnamed : Variable.setting? "SCHEDULER_AUTH__JWT_SECRET" = some "auth.jwt_secret" := by
      decide
    rw [Setting.Holds, Variable.found_layer hthere hnamed (by decide) halone] at hsecret
    refine ⟨hsecret, fun htext => ?_⟩
    rw [htext] at hsecret
    exact (Option.some.inj hsecret).symm
  · have hpath := hholds .snapshotPath (by simp [Setting.all])
    have hnamed : Variable.setting? "SCHEDULER_STORAGE__SNAPSHOT_PATH"
        = some "storage.snapshot_path" := by
      decide
    rw [Setting.Holds, Variable.found_layer hthere hnamed (by decide) halone] at hpath
    obtain ⟨shown, hshown, heq⟩ := Option.map_eq_some_iff.mp
      ((Variable.textOrNull_value text).symm.trans hpath)
    refine ⟨hshown.trans heq, fun htext => ?_⟩
    rw [htext] at hshown
    cases hshown
    exact heq.symm

end Load

/-- A file that names a secret and the number of backups. -/
def usualFile : Files :=
  (∅ : Files).insert ["scheduler.toml"] (.file
    "[auth]\njwt_secret = \"secret-of-the-file\"\n[storage]\nbackup_retention = 6\n")

/-- The secret of the environment takes the place of that of the file, and
everything else stays. -/
theorem secret_loaded_over_file :
    let vars := Table.ofEntries [("SCHEDULER_AUTH__JWT_SECRET", "secret of the environment")]
    ∃ s, Settings.load usualFile none vars = .ok s
      ∧ s.auth.secret = "secret of the environment" ∧ s.storage.backupRetention = 6
      ∧ ∃ layer, Settings.FileSays usualFile none layer
        ∧ Setting.backupRetention.Holds (merged [layer]) s := by
  intro vars
  have h : Settings.load usualFile none vars
      = .ok ⟨⟨none, 6⟩, ⟨"secret of the environment", 24, []⟩, .default⟩ := by
    decide +kernel
  obtain ⟨layer, hsays, hkept, hsecret, -⟩ := Settings.loaded_over_file h
  have hthere : vars["SCHEDULER_AUTH__JWT_SECRET"]? = some "secret of the environment" := by
    decide +kernel
  refine ⟨_, h, ?_, rfl, layer, hsays, hkept _ (by simp [Setting.all]) (by decide +kernel)⟩
  exact (hsecret _ hthere (by rw [Variable.Alone]; decide +kernel)).2 rfl

/-- A secret of digits is taken for a number, and loses its leading zero. -/
theorem secret_not_always_verbatim :
    Settings.load ∅ none
        (Table.ofEntries [("SCHEDULER_AUTH__JWT_SECRET", "01234567890123456")])
      = .ok ⟨.default, ⟨"1234567890123456", 24, []⟩, .default⟩ := by
  decide +kernel

end JobControl

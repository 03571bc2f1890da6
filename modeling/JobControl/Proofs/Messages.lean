import JobControl.Proofs.Codecs
import JobControl.Proofs.Runs
import JobControl.Wire.Request
import JobControl.Wire.Response

/-!
# Messages come back from their documents

Every request and every response is what its document is read as. The
kinds of values that occur in messages only are gone through first, in the
same way as those that are stored; then the commands and the results, each
by its constructors, as each writes fields of its own. What a message
carries beside them - the name of the operation in front, the credential
behind - must not stand in the way of a field, so the fields of a command
are looked up among all of these.

Two things have to be asked. A double that is not finite has no document.
And counts are numbers of 64 bits: there is no other bound on them here.
-/

namespace JobControl

open Json (object? once required optional withDefault Readable ReadsBack)

/-! ## The numbers in a message -/

/-- The numbers of processors in a rewrite. -/
def Rewrite.cpus : Rewrite → List Float
  | .job expected replacement => [expected.task.numCpus, replacement.task.numCpus]
  | .task _ expected replacement => [expected.numCpus, replacement.numCpus]

def View.cpus : View → List Float
  | populateJobConfig job => [job.task.numCpus]
  | _ => []

def Command.cpus : Command → List Float
  | createJob job _ | scheduleCronJob job _ | replaceCronTemplate job _ => [job.task.numCpus]
  | setQuota _ quota => [quota.numCpus]
  | rewriteConfigs commands => commands.flatMap Rewrite.cpus
  | addInstances addition _ => [addition.task.numCpus]
  | _ => []

/-- The numbers of processors in a request: all doubles that there are in it. -/
def Request.cpus : Request → List Float
  | view v => v.cpus
  | command c _ => c.cpus

def Result.cpus : Result → List Float
  | populated specs => specs.map (·.numCpus)
  | tasks listed | stagedTasks listed => listed.map (·.spec.numCpus)
  | jobSummaries summaries => summaries.map (·.job.task.numCpus)
  | jobs listed => listed.map (·.task.numCpus)
  | quota info => [info.quota.numCpus, info.production.numCpus, info.nonProduction.numCpus]
  | _ => []

def JobStats.counts (s : JobStats) : List Nat := [s.active, s.pending, s.finished, s.failed]

def Result.counts : Result → List Nat
  | roles summaries => summaries.flatMap fun s => [s.jobs, s.cronJobs]
  | jobSummaries summaries => summaries.flatMap (·.stats.counts)
  | _ => []

/-- The numbers of processors in a response: all doubles that there are in it. -/
def Response.cpus (r : Response) : List Float := r.result.elim [] Result.cpus

def Response.counts (r : Response) : List Nat := r.result.elim [] Result.counts

/-! ## What is only in messages -/

theorem faithful_optionInt64 (o : Option Int64) : Faithful o :=
  faithful_option fun n _ => ⟨faithful_int64 n, nofun⟩

theorem faithful_instanceIds (ids : Std.ExtTreeSet Int32) : Faithful ids :=
  faithful_set fun n _ => faithful_int32 n

theorem faithful_names (names : Names) : Faithful names :=
  faithful_set fun name _ => faithful_string name

theorem faithful_optionLock (o : Option Lock) : Faithful o :=
  faithful_option fun l _ => ⟨faithful_lock l, nofun⟩

theorem faithful_taskQuery (q : TaskQuery) : Faithful q := by
  intro s
  delta instCodecTaskQuery
  dsimp only [object?, Json.optional, required, withDefault, Option.bind_eq_bind, Option.bind_some]
  refine read_field (faithful_optionString _) rfl ?_
  refine read_field (faithful_optionString _) rfl ?_
  refine read_field (faithful_optionString _) rfl ?_
  refine read_field (faithful_names _) rfl ?_
  refine read_field (faithful_set fun status _ => faithful_status status) rfl ?_
  refine read_field (faithful_instanceIds _) rfl ?_
  exact read_field (faithful_optionString _) rfl rfl

theorem faithful_releaseMode (mode : ReleaseMode) : Faithful mode := by
  intro s
  cases mode <;> rfl

theorem faithful_instanceKey (k : InstanceKey) : Faithful k := by
  intro s
  delta instCodecInstanceKey
  dsimp only [object?, required, Option.bind_eq_bind, Option.bind_some]
  refine read_field (faithful_jobKey _) rfl ?_
  exact read_field (faithful_int32 _) rfl rfl

theorem faithful_addition {a : Addition} (h : a.task.numCpus.isFinite = true) : Faithful a := by
  intro s
  delta instCodecAddition
  dsimp only [object?, required, Option.bind_eq_bind, Option.bind_some]
  refine read_field (faithful_jobKey _) rfl ?_
  refine read_field (faithful_taskSpec h) rfl ?_
  exact read_field (faithful_instanceIds _) rfl rfl

/-- The type of a rewrite stands in front of its fields, and says which there are. -/
theorem faithful_rewrite {r : Rewrite} (h : ∀ x ∈ r.cpus, x.isFinite = true) : Faithful r := by
  intro s
  delta instCodecRewrite
  cases r with
  | job expected replacement =>
      obtain ⟨hexpected, hreplacement⟩ : expected.task.numCpus.isFinite = true
          ∧ replacement.task.numCpus.isFinite = true := by simpa [Rewrite.cpus] using h
      dsimp only [object?, required, Option.bind_eq_bind, Option.bind_some]
      refine read_field (faithful_json (.str "job_rewrite")) rfl ?_
      refine Option.bind_eq_some_iff.mpr ⟨"job_rewrite", rfl, ?_⟩
      refine read_field (faithful_job hexpected) rfl ?_
      exact read_field (faithful_job hreplacement) rfl rfl
  | task key expected replacement =>
      obtain ⟨hexpected, hreplacement⟩ : expected.numCpus.isFinite = true
          ∧ replacement.numCpus.isFinite = true := by simpa [Rewrite.cpus] using h
      dsimp only [object?, required, Option.bind_eq_bind, Option.bind_some]
      refine read_field (faithful_json (.str "instance_rewrite")) rfl ?_
      refine Option.bind_eq_some_iff.mpr ⟨"instance_rewrite", rfl, ?_⟩
      refine read_field (faithful_instanceKey _) rfl ?_
      refine read_field (faithful_taskSpec hexpected) rfl ?_
      exact read_field (faithful_taskSpec hreplacement) rfl rfl

theorem faithful_credential (c : Credential) : Faithful c := by
  intro s
  delta instCodecCredential
  cases c with
  | apiKey key =>
      dsimp only [object?, required, Option.bind_eq_bind, Option.bind_some]
      refine read_field (faithful_json (.str "api_key")) rfl ?_
      refine Option.bind_eq_some_iff.mpr ⟨"api_key", rfl, ?_⟩
      exact read_field (faithful_string _) rfl rfl
  | bearer token =>
      dsimp only [object?, required, Option.bind_eq_bind, Option.bind_some]
      refine read_field (faithful_json (.str "bearer")) rfl ?_
      refine Option.bind_eq_some_iff.mpr ⟨"bearer", rfl, ?_⟩
      exact read_field (faithful_string _) rfl rfl

theorem faithful_optionCredential (o : Option Credential) : Faithful o :=
  faithful_option fun c _ => ⟨faithful_credential c, by cases c <;> nofun⟩

theorem Operation.ofName?_name (o : Operation) : ofName? o.name = some o := by
  cases o <;> rfl

/-! ## Requests -/

section Requests

variable {op session : Json}

/-- The fields of a request, and what it says on the operation and the caller. -/
def Command.document (op session : Json) (c : Command) : List (String × Json) :=
  ("op", op) :: (c.fields ++ [("session", session)])

/-- Each field of a command is found among all fields of the request. -/
theorem Command.ofFields?_document {c : Command} (h : ∀ x ∈ c.cpus, x.isFinite = true) :
    ofFields? .wide c.operation (c.document op session) = some c := by
  cases c <;> dsimp only [operation, ofFields?, document, fields, required, Json.optional,
    withDefault, Option.bind_eq_bind]
  case createJob job lock | scheduleCronJob job lock | replaceCronTemplate job lock =>
    refine read_field (faithful_job (h _ List.mem_cons_self)) rfl ?_
    exact read_field (faithful_optionLock lock) rfl rfl
  case descheduleCronJob key lock =>
    refine read_field (faithful_jobKey key) rfl ?_
    exact read_field (faithful_optionLock lock) rfl rfl
  case startCronJob key => exact read_field (faithful_jobKey key) rfl rfl
  case killTasks query lock =>
    refine read_field (faithful_taskQuery query) rfl ?_
    exact read_field (faithful_optionLock lock) rfl rfl
  case restartShards key shards lock =>
    refine read_field (faithful_jobKey key) rfl ?_
    refine read_field (faithful_instanceIds shards) rfl ?_
    exact read_field (faithful_optionLock lock) rfl rfl
  case setQuota role quota =>
    refine read_field (faithful_string role) rfl ?_
    exact read_field (faithful_resources (h _ List.mem_cons_self)) rfl rfl
  case startMaintenance hosts | drainHosts hosts | maintenanceStatus hosts
      | endMaintenance hosts => exact read_field (faithful_names hosts) rfl rfl
  case forceTaskState taskId status =>
    refine read_field (faithful_string taskId) rfl ?_
    exact read_field (faithful_status status) rfl rfl
  case performBackup | listBackups | commitRecovery | unloadRecovery | snapshot => rfl
  case stageRecovery backupId => exact read_field (faithful_string backupId) rfl rfl
  case queryRecovery query | deleteRecoveryTasks query =>
    exact read_field (faithful_taskQuery query) rfl rfl
  case rewriteConfigs commands =>
    have hcommands : Faithful commands := faithful_list fun command hmem =>
      faithful_rewrite fun x hx => h x (List.mem_flatMap.mpr ⟨command, hmem, hx⟩)
    exact read_field hcommands rfl rfl
  case addInstances addition lock =>
    refine read_field (faithful_addition (h _ List.mem_cons_self)) rfl ?_
    exact read_field (faithful_optionLock lock) rfl rfl
  case acquireLock key =>
    refine read_field (faithful_json (encodeLockSubject key)) rfl ?_
    rw [read_lockSubject]
    rfl
  case releaseLock lock mode =>
    refine read_field (faithful_lock lock) rfl ?_
    exact read_field (faithful_releaseMode mode) rfl rfl

theorem View.ofFields?_fields {v : View} (h : ∀ x ∈ v.cpus, x.isFinite = true) :
    ofFields? .wide v.operation (("op", op) :: v.fields) = some v := by
  cases v <;> dsimp only [operation, ofFields?, fields, required, Json.optional, withDefault,
    Option.bind_eq_bind]
  case populateJobConfig job => exact read_field (faithful_job (h _ List.mem_cons_self)) rfl rfl
  case getTasksStatus query => exact read_field (faithful_taskQuery query) rfl rfl
  case getRoleSummary | getVersion => rfl
  case getJobSummary role | getJobs role => exact read_field (faithful_optionString role) rfl rfl
  case getQuota role => exact read_field (faithful_string role) rfl rfl

theorem View.isMutating_operation (v : View) : v.operation.isMutating = false := by
  cases v <;> rfl

theorem Command.isMutating_operation (c : Command) : c.operation.isMutating = true := by
  cases c <;> rfl

theorem Command.once_session (c : Command) :
    once (c.document op session) "session" = some (some session) := by
  cases c <;> rfl

theorem Request.once_op (r : Request) : ∃ fields, encode r = .obj fields
    ∧ once fields "op" = some (some (.str r.operation.name)) := by
  refine ⟨_, rfl, ?_⟩
  cases r with
  | view v => cases v <;> rfl
  | command c credential => cases c <;> rfl

/-- The operation is read first; it says whether the rest is a command. -/
theorem faithful_request {r : Request} (h : ∀ x ∈ r.cpus, x.isFinite = true) : Faithful r := by
  intro s
  obtain ⟨fields, hfields, hop⟩ := r.once_op
  delta instCodecRequest at hfields ⊢
  dsimp only at hfields ⊢
  rw [hfields]
  dsimp only [object?, required, Option.bind_eq_bind, Option.bind_some]
  refine read_field (faithful_string r.operation.name) hop ?_
  rw [Operation.ofName?_name, Option.bind_some]
  cases r with
  | view v =>
      cases hfields
      rw [Request.operation, v.isMutating_operation, View.ofFields?_fields h]
      rfl
  | command c credential =>
      cases hfields
      rw [Request.operation, c.isMutating_operation, if_pos rfl]
      have hcommand : Command.ofFields? .wide c.operation
          (c.document (.str c.operation.name) (encode credential)) = some c :=
        Command.ofFields?_document h
      rw [Command.document] at hcommand
      rw [hcommand, Option.bind_some]
      exact read_field (faithful_optionCredential credential) c.once_session rfl

end Requests

/-! ## Responses -/

theorem faithful_quotaInfo {i : QuotaInfo}
    (h : ∀ x ∈ (Result.quota i).cpus, x.isFinite = true) : Faithful i := by
  obtain ⟨hquota, hproduction, hnonProduction⟩ : i.quota.numCpus.isFinite = true
      ∧ i.production.numCpus.isFinite = true ∧ i.nonProduction.numCpus.isFinite = true := by
    simpa [Result.cpus] using h
  intro s
  delta instCodecQuotaInfo
  dsimp only [object?, required, Option.bind_eq_bind, Option.bind_some]
  refine read_field (faithful_resources hquota) rfl ?_
  refine read_field (faithful_resources hproduction) rfl ?_
  exact read_field (faithful_resources hnonProduction) rfl rfl

theorem faithful_jobStats {c : JobStats} (h : ∀ n ∈ c.counts, n < 2 ^ 64) : Faithful c := by
  obtain ⟨hactive, hpending, hfinished, hfailed⟩ : c.active < 2 ^ 64 ∧ c.pending < 2 ^ 64
      ∧ c.finished < 2 ^ 64 ∧ c.failed < 2 ^ 64 := by simpa [JobStats.counts] using h
  intro s
  delta instCodecJobStats
  dsimp only [object?, required, Option.bind_eq_bind, Option.bind_some]
  refine read_field (faithful_nat hactive) rfl ?_
  refine read_field (faithful_nat hpending) rfl ?_
  refine read_field (faithful_nat hfinished) rfl ?_
  exact read_field (faithful_nat hfailed) rfl rfl

theorem faithful_jobSummary {c : JobSummary} (hcpus : c.job.task.numCpus.isFinite = true)
    (hcounts : ∀ n ∈ c.stats.counts, n < 2 ^ 64) : Faithful c := by
  intro s
  delta instCodecJobSummary
  dsimp only [object?, Json.optional, required, withDefault, Option.bind_eq_bind, Option.bind_some]
  refine read_field (faithful_job hcpus) rfl ?_
  refine read_field (faithful_jobStats hcounts) rfl ?_
  exact read_field (faithful_optionInt64 _) rfl rfl

theorem faithful_roleSummary {c : RoleSummary} (hjobs : c.jobs < 2 ^ 64)
    (hcronJobs : c.cronJobs < 2 ^ 64) : Faithful c := by
  intro s
  delta instCodecRoleSummary
  dsimp only [object?, required, Option.bind_eq_bind, Option.bind_some]
  refine read_field (faithful_string _) rfl ?_
  refine read_field (faithful_nat hjobs) rfl ?_
  exact read_field (faithful_nat hcronJobs) rfl rfl

theorem faithful_hostMode (mode : HostMode) : Faithful mode := by
  intro s
  cases mode <;> rfl

theorem faithful_responseCode (code : ResponseCode) : Faithful code := by
  intro s
  cases code <;> rfl

theorem Json.named?_of_mem {all : List String} {name : String} {s : Json.Spelling}
    (h : name ∈ all) : named? all id s (.str name) = some name := by
  have hfound : (all.find? fun other => id other == name).isSome = true :=
    List.find?_isSome.mpr ⟨name, h, by simp⟩
  obtain ⟨found, hfound⟩ := Option.isSome_iff_exists.mp hfound
  obtain rfl : found = name := by simpa using List.find?_some hfound
  exact hfound

/-- The type of a result stands in front of its value, and says of what kind it is. -/
theorem read_encodeTyped {α β : Type} [Codec α] {a : α} {type : String} {s : Json.Spelling}
    {rest : List (String × Json) → String → Option β} {b : β} (htype : type ∈ Result.types)
    (hrest : rest [("type", .str type), ("value", encode a)] type = some b) :
    ((encodeTyped type a).object?.bind fun fields =>
      (required s fields "type").bind fun (j : Json) =>
        (Json.named? Result.types id s j).bind (rest fields)) = some b := by
  dsimp only [encodeTyped, object?, required, Option.bind_some]
  refine read_field (faithful_json (.str type)) rfl ?_
  rw [Json.named?_of_mem htype]
  exact hrest

theorem faithful_result {v : Result} (hcpus : ∀ x ∈ v.cpus, x.isFinite = true)
    (hcounts : ∀ n ∈ v.counts, n < 2 ^ 64) : Faithful v := by
  intro s
  delta instCodecResult
  cases v <;> refine read_encodeTyped (by decide) ?_
  case populated listed =>
    have hlisted : Faithful listed := faithful_list fun spec hmem =>
      faithful_taskSpec (hcpus _ (List.mem_map_of_mem hmem))
    exact read_field hlisted rfl rfl
  case tasks listed | stagedTasks listed =>
    have hlisted : Faithful listed := faithful_list fun t hmem =>
      faithful_task (hcpus _ (List.mem_map_of_mem hmem))
    exact read_field hlisted rfl rfl
  case roles summaries =>
    have hsummaries : Faithful summaries := faithful_list fun c hmem =>
      faithful_roleSummary (hcounts _ (List.mem_flatMap.mpr ⟨c, hmem, by simp⟩))
        (hcounts _ (List.mem_flatMap.mpr ⟨c, hmem, by simp⟩))
    exact read_field hsummaries rfl rfl
  case jobSummaries summaries =>
    have hsummaries : Faithful summaries := faithful_list fun c hmem =>
      faithful_jobSummary (hcpus _ (List.mem_map_of_mem hmem)) fun n hn =>
        hcounts _ (List.mem_flatMap.mpr ⟨c, hmem, hn⟩)
    exact read_field hsummaries rfl rfl
  case jobs listed =>
    have hlisted : Faithful listed := faithful_list fun j hmem =>
      faithful_job (hcpus _ (List.mem_map_of_mem hmem))
    exact read_field hlisted rfl rfl
  case quota info => exact read_field (faithful_quotaInfo hcpus) rfl rfl
  case hosts modes =>
    exact read_field (faithful_table fun mode _ => faithful_hostMode mode) rfl rfl
  case backups ids => exact read_field (faithful_list fun id _ => faithful_string id) rfl rfl
  case version major =>
    refine read_field (faithful_json (.obj [("major", encode major)])) rfl ?_
    exact read_field (faithful_int32 major) rfl rfl
  case lock l => exact read_field (faithful_lock l) rfl rfl

/-- A field that is left out where its value is what stands for a missing one. -/
theorem read_omissible {α β : Type} [Codec α] {a : α} {s : Json.Spelling} {missing : Option α}
    {fields : List (String × Json)} {name : String} {rest : α → Option β} {b : β} (omitted : Bool)
    (ha : Faithful a) (hfield : once fields name = some (bif omitted then none else some (encode a)))
    (hmissing : omitted = true → missing = some a) (hrest : rest a = some b) :
    (Json.taken (Codec.read s) missing fields name).bind rest = some b := by
  cases omitted with
  | false => exact read_field ha hfield hrest
  | true =>
      have htaken : Json.taken (Codec.read s) missing fields name = missing := by
        rw [Json.taken, hfield]
        rfl
      rw [htaken, hmissing rfl]
      exact hrest

theorem faithful_response {r : Response} (hcpus : ∀ x ∈ r.cpus, x.isFinite = true)
    (hcounts : ∀ n ∈ r.counts, n < 2 ^ 64) : Faithful r := by
  obtain ⟨code, message, result, warnings⟩ := r
  have hresult : Faithful result := by
    refine faithful_option fun v hv => ?_
    obtain rfl : result = some v := hv
    exact ⟨faithful_result hcpus hcounts, by cases v <;> nofun⟩
  intro s
  delta instCodecResponse
  dsimp only [object?, Json.optional, required, withDefault, Option.bind_eq_bind, Option.bind_some]
  refine read_field (faithful_responseCode code) ?_ ?_
  · cases message <;> cases result <;> cases warnings <;> rfl
  refine read_omissible message.isNone (faithful_optionString message) ?_ ?_ ?_
  · cases message <;> cases result <;> cases warnings <;> rfl
  · cases message <;> simp
  refine read_omissible result.isNone hresult ?_ ?_ ?_
  · cases message <;> cases result <;> cases warnings <;> rfl
  · cases result <;> simp
  refine read_omissible warnings.isEmpty
    (faithful_list fun text _ => faithful_string text) ?_ ?_ rfl
  · cases message <;> cases result <;> cases warnings <;> rfl
  · cases warnings <;> simp

/-! ## Texts of messages -/

section Texts

variable {room : Nat}

theorem readable_str (text : String) : Readable room (.str text) := .str

theorem readable_nat {n : Nat} (h : n < 2 ^ 64) : Readable room (encode n) :=
  .int (by omega) (by omega)

@[simp] theorem readable_taskQuery (q : TaskQuery) : Readable (room + 2) (encode q) := by
  delta instCodecTaskQuery
  simp

@[simp] theorem readable_releaseMode (mode : ReleaseMode) : Readable room (encode mode) := by
  cases mode <;> exact .str

@[simp] theorem readable_instanceKey (k : InstanceKey) : Readable (room + 2) (encode k) := by
  delta instCodecInstanceKey
  simp

theorem readable_addition {a : Addition} (h : ReadsBack a.task.numCpus) :
    Readable (room + 3) (encode a) := by
  delta instCodecAddition
  simp [readable_taskSpec h]

theorem readable_rewrite {r : Rewrite} (h : ∀ x ∈ r.cpus, ReadsBack x) :
    Readable (room + 4) (encode r) := by
  delta instCodecRewrite
  cases r with
  | job expected replacement =>
      obtain ⟨hexpected, hreplacement⟩ : ReadsBack expected.task.numCpus
          ∧ ReadsBack replacement.task.numCpus := by simpa [Rewrite.cpus] using h
      simp [readable_str, readable_job hexpected, readable_job hreplacement]
  | task key expected replacement =>
      obtain ⟨hexpected, hreplacement⟩ : ReadsBack expected.numCpus
          ∧ ReadsBack replacement.numCpus := by simpa [Rewrite.cpus] using h
      simp [readable_str, readable_taskSpec hexpected, readable_taskSpec hreplacement]

@[simp] theorem readable_credential (c : Credential) : Readable (room + 1) (encode c) := by
  delta instCodecCredential
  cases c <;> simp [readable_str]

@[simp] theorem readable_lockSubject (k : JobKey) :
    Readable (room + 2) (encodeLockSubject k) := by
  simp [encodeLockSubject, readable_str]

theorem View.readable_of_mem_fields {v : View} (h : ∀ x ∈ v.cpus, ReadsBack x) :
    ∀ field ∈ v.fields, Readable (room + 5) field.2 := by
  cases v <;> simp only [fields, List.forall_mem_cons, List.not_mem_nil, false_implies, implies_true,
      and_true]
  case populateJobConfig job => exact readable_job (h _ List.mem_cons_self)
  all_goals simp

theorem Command.readable_of_mem_fields {c : Command} (h : ∀ x ∈ c.cpus, ReadsBack x) :
    ∀ field ∈ c.fields, Readable (room + 5) field.2 := by
  cases c <;> simp only [fields, List.forall_mem_cons, List.not_mem_nil, false_implies, implies_true,
      and_true]
  case createJob | scheduleCronJob | replaceCronTemplate =>
    exact ⟨readable_job (h _ List.mem_cons_self), by simp⟩
  case setQuota => exact ⟨by simp, readable_resources (h _ List.mem_cons_self)⟩
  case addInstances => exact ⟨readable_addition (h _ List.mem_cons_self), by simp⟩
  case rewriteConfigs =>
    exact readable_list fun command hmem =>
      readable_rewrite fun x hx => h x (List.mem_flatMap.mpr ⟨command, hmem, hx⟩)
  all_goals simp

theorem readable_request {r : Request} (h : ∀ x ∈ r.cpus, ReadsBack x) :
    Readable (room + 6) (encode r) := by
  delta instCodecRequest
  refine readable_obj.mpr (List.forall_mem_cons.mpr ⟨.str, ?_⟩)
  cases r with
  | view v => exact v.readable_of_mem_fields h
  | command c credential =>
      refine List.forall_mem_append.mpr ⟨c.readable_of_mem_fields h, ?_⟩
      simp

theorem readable_jobStats {c : JobStats} (h : ∀ n ∈ c.counts, n < 2 ^ 64) :
    Readable (room + 1) (encode c) := by
  obtain ⟨hactive, hpending, hfinished, hfailed⟩ : c.active < 2 ^ 64 ∧ c.pending < 2 ^ 64
      ∧ c.finished < 2 ^ 64 ∧ c.failed < 2 ^ 64 := by simpa [JobStats.counts] using h
  delta instCodecJobStats
  simp [readable_nat hactive, readable_nat hpending, readable_nat hfinished, readable_nat hfailed]

theorem readable_result {v : Result} (hcpus : ∀ x ∈ v.cpus, ReadsBack x)
    (hcounts : ∀ n ∈ v.counts, n < 2 ^ 64) : Readable (room + 7) (encode v) := by
  delta instCodecResult
  cases v <;> refine readable_obj.mpr (List.forall_mem_cons.mpr ⟨.str, ?_⟩) <;>
    simp only [List.forall_mem_cons, List.not_mem_nil, false_implies, implies_true,
      and_true]
  case populated listed =>
    exact readable_list fun spec hmem => readable_taskSpec (hcpus _ (List.mem_map_of_mem hmem))
  case tasks listed | stagedTasks listed =>
    exact readable_list fun t hmem => readable_task (hcpus _ (List.mem_map_of_mem hmem))
  case roles summaries =>
    refine readable_list fun c hmem => ?_
    have hjobs : c.jobs < 2 ^ 64 := hcounts _ (List.mem_flatMap.mpr ⟨c, hmem, by simp⟩)
    have hcronJobs : c.cronJobs < 2 ^ 64 := hcounts _ (List.mem_flatMap.mpr ⟨c, hmem, by simp⟩)
    delta instCodecRoleSummary
    simp [readable_nat hjobs, readable_nat hcronJobs]
  case jobSummaries summaries =>
    refine readable_list fun c hmem => ?_
    have hstats : ∀ n ∈ c.stats.counts, n < 2 ^ 64 := fun n hn =>
      hcounts _ (List.mem_flatMap.mpr ⟨c, hmem, hn⟩)
    have hjob : ReadsBack c.job.task.numCpus := hcpus _ (List.mem_map_of_mem hmem)
    delta instCodecJobSummary
    simp [readable_job hjob, readable_jobStats hstats]
  case jobs listed =>
    exact readable_list fun j hmem => readable_job (hcpus _ (List.mem_map_of_mem hmem))
  case quota info =>
    obtain ⟨hquota, hproduction, hnonProduction⟩ : ReadsBack info.quota.numCpus
        ∧ ReadsBack info.production.numCpus ∧ ReadsBack info.nonProduction.numCpus := by
      simpa [Result.cpus] using hcpus
    delta instCodecQuotaInfo
    simp [readable_resources hquota, readable_resources hproduction,
      readable_resources hnonProduction]
  case hosts modes => exact readable_table fun mode _ => .str
  case backups ids => exact readable_list fun id _ => .str
  case version major => exact readable_obj.mpr (by simp)
  case lock l => exact readable_lock l

theorem readable_response {r : Response} (hcpus : ∀ x ∈ r.cpus, ReadsBack x)
    (hcounts : ∀ n ∈ r.counts, n < 2 ^ 64) : Readable (room + 8) (encode r) := by
  obtain ⟨code, message, result, warnings⟩ := r
  delta instCodecResponse
  refine readable_obj.mpr ?_
  simp only [List.forall_mem_append, List.forall_mem_cons, List.not_mem_nil, false_implies, implies_true,
      and_true]
  refine ⟨⟨⟨.str, ?_⟩, ?_⟩, ?_⟩
  · cases message <;> simp
  · cases result with
    | none => simp
    | some v => simpa using readable_result hcpus hcounts
  · cases warnings <;> simp

end Texts

/-- **Messages come back from their documents.** A request whose doubles are
finite is what its document is read as, whatever it asks for, and names its
operation in it, once; so is a response whose doubles are finite, and whose
counts are within 64 bits. The texts of these documents are read back as
well, if the doubles in them are read back from theirs. -/
theorem message_read_back :
    (∀ r : Request, (∀ x ∈ r.cpus, x.isFinite = true) → decode (encode r) = some r
      ∧ ((∀ x ∈ r.cpus, ReadsBack x) →
        (Json.ofText? (Json.compact (encode r))).bind decode = some r))
    ∧ (∀ r : Request, ∃ fields, encode r = .obj fields
      ∧ once fields "op" = some (some (.str r.operation.name)))
    ∧ ∀ r : Response, (∀ x ∈ r.cpus, x.isFinite = true) → (∀ n ∈ r.counts, n < 2 ^ 64) →
      decode (encode r) = some r
      ∧ ((∀ x ∈ r.cpus, ReadsBack x) →
        (Json.ofText? (Json.compact (encode r))).bind decode = some r) := by
  refine ⟨fun r hfinite => ?_, Request.once_op, fun r hfinite hcounts => ?_⟩
  · have hdocument : decode (encode r) = some r := faithful_request hfinite .narrow
    refine ⟨hdocument, fun hreads => ?_⟩
    rw [Json.ofText?_compact (readable_request hreads)]
    exact hdocument
  · have hdocument : decode (encode r) = some r := faithful_response hfinite hcounts .narrow
    refine ⟨hdocument, fun hreads => ?_⟩
    rw [Json.ofText?_compact (readable_response hreads hcounts)]
    exact hdocument

/-! ## A batch, and what is answered -/

/-- A job that runs at midnight. -/
def midnight : Job :=
  { Job.plain ⟨"www-data", "prod", "report"⟩ "alice" 3 with cronSchedule := some "0 0 * * *" }

/-- The job is to have another count, and one instance of it half of the
processors. -/
def batch : Request :=
  .command (.rewriteConfigs
      [.job midnight { midnight with instanceCount := 5 },
        .task ⟨midnight.key, 2⟩ midnight.task { midnight.task with numCpus := 0.5 }])
    (some (.bearer "token"))

/-- A response with everything that may be left out. -/
def summarized : Response where
  code := .warning
  message := some "one task is failing"
  result := some (.jobSummaries [⟨midnight, ⟨2, 1, 40, 1⟩, some 1700006400000⟩])
  warnings := ["next run is late"]

theorem message_read_back_of_batch :
    batch.cpus = [1, 1, 1, 0.5] ∧ decode (encode batch) = some batch
      ∧ (Json.ofText? (Json.compact (encode batch))).bind decode = some batch
      ∧ summarized.counts = [2, 1, 40, 1] ∧ decode (encode summarized) = some summarized
      ∧ (Json.ofText? (Json.compact (encode summarized))).bind decode = some summarized := by
  obtain ⟨hrequest, -, hresponse⟩ := message_read_back
  obtain ⟨hbatch, hbatchText⟩ := hrequest batch (by decide +kernel)
  obtain ⟨hsummarized, hsummarizedText⟩ :=
    hresponse summarized (by decide +kernel) (by decide +kernel)
  exact ⟨by rfl, hbatch, hbatchText (by decide +kernel), by rfl, hsummarized,
    hsummarizedText (by decide +kernel)⟩

end JobControl

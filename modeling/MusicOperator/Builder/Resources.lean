import MusicOperator.Api.V1

/-!
  The desired-state builder (`internal/builder/resource_builder.go`): pure functions from a
  `MusicService` to the descriptors the reconcilers create and diff against.

  Every `resource.MustParse` makes its builder partial: `buildAppStatefulSet`,
  `buildDatabaseConfig` and the two database StatefulSet builders return `Option`, `none` being
  the panic. `buildAutoscaler` and `buildDatabaseReplicaAutoscaler` dereference
  `spec.autoscaling` (resp. `spec.database` and `spec.database.autoscaling`) and are `none` where
  that pointer is `nil`. The shell scripts are kept verbatim (braces written `\x7b`/`\x7d`):
  the init containers carrying them are compared whole by `statefulSetNeedsUpdate`.
-/

namespace MusicOperator.Builder

/-! ## Child names

Every descriptor is named after its parent, `ms.name` followed by a suffix (`-db-master`,
`-db-replica`, ...). Two such names of one parent differ when the suffixes do, and a suffixed
name differs from the parent's own. -/

@[simp] theorem append_right_inj_iff {a s t : String} : a ++ s = a ++ t ↔ s = t :=
  ⟨fun e => String.ext (List.append_cancel_left (congrArg String.data e)), congrArg _⟩

@[simp] theorem self_eq_append_iff {a t : String} : a = a ++ t ↔ t = "" := by
  refine ⟨fun e => String.ext ?_, fun h => h ▸ (String.append_empty a).symm⟩
  have := congrArg String.data e
  simpa only [String.data_append, List.self_eq_append_right] using this

variable [QuantityParser]

/-- `resource.MustParse`; `none` where it panics. -/
def mustParse (s : String) : Option Quantity := QuantityParser.parse s

/-- `getLabels`: the object labels of a component. -/
def getLabels (ms : MusicService) (component : String) : List (String × String) :=
  [("app", ms.name), ("component", component), ("app.kubernetes.io/name", "music-service"),
    ("app.kubernetes.io/instance", ms.name), ("app.kubernetes.io/managed-by", "music-operator")]

/-- The metadata every descriptor carries: name, component labels, controller reference. -/
def objectMeta (ms : MusicService) (name component : String) : ObjectMeta :=
  { name := name, labels := getLabels ms component, owner := some ms.name }

/-- The pod labels (and selector) of a tier. -/
def podLabels (ms : MusicService) (component : String) : List (String × String) :=
  [("app", ms.name), ("component", component)]

/-! ## Application tier -/

def buildAppService (ms : MusicService) : Service :=
  { metadata := objectMeta ms ms.name "app"
    spec :=
      { selector := podLabels ms "music-service"
        ports := [{ name := "http", port := ms.spec.port, targetPort := some 80, protocol := "TCP" }]
        type := "ClusterIP" } }

def buildAppStatefulSet (ms : MusicService) : Option StatefulSet := do
  let storageSize ← mustParse ms.spec.storage.size
  pure
    { metadata := objectMeta ms ms.name "app"
      spec :=
        { replicas := some ms.spec.replicas
          serviceName := ms.name
          selector := podLabels ms "music-service"
          template :=
            { labels := podLabels ms "music-service"
              spec :=
                { containers :=
                    [{ name := "music-service"
                       image := ms.spec.image
                       resources := ms.spec.resources.getD {}
                       ports := [{ name := "http", containerPort := 80, protocol := "TCP" }]
                       env :=
                         [{ name := "STREAMING_BITRATE", value := ms.spec.streaming.bitrate },
                          { name := "MAX_CONNECTIONS",
                            value := toString ms.spec.streaming.maxConnections }]
                       volumeMounts := [{ name := "music-data", mountPath := "/data" }] }] } }
          volumeClaimTemplates :=
            [{ name := "music-data", accessModes := ["ReadWriteOnce"], storage := some storageSize }] } }

/-! ## Database configuration and scripts -/

/-- `databaseConfig`: the defaults of the database tier, overridden by `spec.database`. -/
structure DatabaseConfig where
  image : String
  storageSize : Quantity
  rootPassword : String
  replicas : Int
  masterHost : String
  replicationEnabled : Bool
  replicationGTID : Bool
  replicationSecret : String
deriving DecidableEq, Repr

def replicationSecretName (ms : MusicService) : String := ms.name ++ "-db-replication"

def buildDatabaseConfig (ms : MusicService) : Option DatabaseConfig := do
  let defaultSize ← mustParse "10Gi"
  let config : DatabaseConfig :=
    { image := "mariadb:10.11", storageSize := defaultSize, rootPassword := "rootpass",
      replicas := 0, masterHost := ms.name ++ "-db-master", replicationEnabled := true,
      replicationGTID := true, replicationSecret := replicationSecretName ms }
  match ms.spec.database with
  | none => pure config
  | some db =>
    let storageSize ← match db.storage with
      | some st => mustParse st.size
      | none => pure config.storageSize
    pure
      { config with
        replicas := db.replicas
        image := if db.image ≠ "" then db.image else config.image
        storageSize := storageSize
        rootPassword := if db.rootPassword ≠ "" then db.rootPassword else config.rootPassword
        replicationEnabled := match db.replication with
          | some r => r.enabled.getD config.replicationEnabled
          | none => config.replicationEnabled
        replicationGTID := match db.replication with
          | some r => r.gtid.getD config.replicationGTID
          | none => config.replicationGTID }

def buildReplicaSetupScript (masterHost : String) : String :=
  "\n#!/bin/bash\nset -e\necho \"Waiting for local MariaDB to be ready...\"\n" ++
  "until mysql -h 127.0.0.1 -P 3306 -uroot -p$\x7bMYSQL_ROOT_PASSWORD\x7d -e \"SELECT 1\" > /dev/null 2>&1; do\n\tsleep 2\ndone\n" ++
  "echo \"Waiting for master to be ready...\"\n" ++
  "until mysql -h " ++ masterHost ++ " -P 3306 -uroot -p$\x7bMYSQL_ROOT_PASSWORD\x7d -e \"SELECT 1\" > /dev/null 2>&1; do\n\tsleep 2\ndone\n" ++
  "echo \"Master is ready, ensuring replication user...\"\n" ++
  "mysql -h " ++ masterHost ++ " -P 3306 -uroot -p$\x7bMYSQL_ROOT_PASSWORD\x7d -e \"CREATE USER IF NOT EXISTS '$\x7bREPLICATION_USER\x7d'@'%' IDENTIFIED BY '$\x7bREPLICATION_PASSWORD\x7d'; GRANT REPLICATION SLAVE ON *.* TO '$\x7bREPLICATION_USER\x7d'@'%'; FLUSH PRIVILEGES;\"\n" ++
  "echo \"Configuring replica...\"\n" ++
  "mysql -h 127.0.0.1 -P 3306 -uroot -p$\x7bMYSQL_ROOT_PASSWORD\x7d -e \"STOP SLAVE; RESET SLAVE ALL; CHANGE MASTER TO MASTER_HOST='" ++ masterHost ++ "', MASTER_USER='$\x7bREPLICATION_USER\x7d', MASTER_PASSWORD='$\x7bREPLICATION_PASSWORD\x7d', MASTER_PORT=3306, MASTER_USE_GTID=slave_pos; START SLAVE;\"\n" ++
  "mysql -h 127.0.0.1 -P 3306 -uroot -p$\x7bMYSQL_ROOT_PASSWORD\x7d -e \"SHOW SLAVE STATUS\\\\G\" | grep -E \"Slave_IO_Running: Yes|Slave_SQL_Running: Yes\" || true\n" ++
  "echo \"Replication setup complete. Sleeping...\"\nsleep infinity\n"

def buildMasterConfigScript : String :=
  "\nset -e\ncat <<'EOF' > /db-config/server-id.cnf\n[mysqld]\nserver-id=1\nlog_bin=mysql-bin\nbinlog_format=ROW\ngtid_strict_mode=ON\nlog_slave_updates=ON\nEOF\n"

def buildReplicaConfigScript : String :=
  "\nset -e\nordinal=$\x7bPOD_NAME##*-\x7d\nserver_id=$((200 + ordinal))\ncat <<EOF > /db-config/server-id.cnf\n[mysqld]\nserver-id=$\x7bserver_id\x7d\nlog_bin=mysql-bin\nbinlog_format=ROW\ngtid_strict_mode=ON\nlog_slave_updates=ON\nread_only=ON\nskip_slave_start=1\nEOF\n"

/-- The `secretKeyRef` environment variable `name` reading `key` of the replication Secret. -/
def secretEnv (config : DatabaseConfig) (name key : String) : EnvVar :=
  { name := name, valueFrom := some (.secretKeyRef config.replicationSecret key) }

def buildReplicaSetupContainer (config : DatabaseConfig) (script : String) : List Container :=
  if !config.replicationEnabled then [] else
    [{ name := "replication-setup"
       image := config.image
       command := ["/bin/sh", "-c", script]
       env :=
         [{ name := "MYSQL_ROOT_PASSWORD", value := config.rootPassword },
          secretEnv config "REPLICATION_USER" "username",
          secretEnv config "REPLICATION_PASSWORD" "password"] }]

/-! ## Database StatefulSets -/

/-- The `mysqladmin ping` probe the database containers use. -/
def pingProbe (initialDelaySeconds periodSeconds : Int) : Probe :=
  { exec := ["/bin/sh", "-c", "mysqladmin ping -uroot -p$MYSQL_ROOT_PASSWORD"],
    initialDelaySeconds := initialDelaySeconds, periodSeconds := periodSeconds }

/-- The `mariadb` container shared by master and replicas, with its environment. -/
def mariadbContainer (config : DatabaseConfig) (env : List EnvVar) : Container :=
  { name := "mariadb"
    image := config.image
    env := env
    ports := [{ name := "mysql", containerPort := 3306, protocol := "TCP" }]
    readinessProbe := some (pingProbe 10 10)
    livenessProbe := some (pingProbe 30 20)
    volumeMounts :=
      [{ name := "db-data", mountPath := "/var/lib/mysql" },
       { name := "db-config", mountPath := "/etc/mysql/conf.d" }] }

def databaseEnv (config : DatabaseConfig) : List EnvVar :=
  [{ name := "MYSQL_ROOT_PASSWORD", value := config.rootPassword },
   { name := "MYSQL_DATABASE", value := "musicdb" }]

def dbConfigVolume : Volume := { name := "db-config", emptyDir := true }

def dbDataTemplate (config : DatabaseConfig) : ClaimTemplate :=
  { name := "db-data", accessModes := ["ReadWriteOnce"], storage := some config.storageSize }

def buildDatabaseMasterStatefulSet (ms : MusicService) : Option StatefulSet := do
  let config ← buildDatabaseConfig ms
  pure
    { metadata := objectMeta ms (ms.name ++ "-db-master") "db-master"
      spec :=
        { replicas := some 1
          serviceName := ms.name ++ "-db-master"
          selector := podLabels ms "db-master"
          template :=
            { labels := podLabels ms "db-master"
              spec :=
                { initContainers :=
                    [{ name := "init-db-config"
                       image := config.image
                       command := ["/bin/sh", "-c", buildMasterConfigScript]
                       volumeMounts := [{ name := "db-config", mountPath := "/db-config" }] }]
                  containers := [mariadbContainer config (databaseEnv config)]
                  volumes := [dbConfigVolume] } }
          volumeClaimTemplates := [dbDataTemplate config] } }

/-- The replica's `mariadb` environment: the base variables, plus the two replication
    credentials when replication is enabled. -/
def replicaEnv (config : DatabaseConfig) : List EnvVar :=
  databaseEnv config ++
    if config.replicationEnabled then
      [secretEnv config "REPLICATION_USER" "username",
       secretEnv config "REPLICATION_PASSWORD" "password"]
    else []

def buildDatabaseReplicaStatefulSet (ms : MusicService) : Option StatefulSet := do
  let config ← buildDatabaseConfig ms
  let initContainers : List Container :=
    [{ name := "init-db-config"
       image := config.image
       command := ["/bin/sh", "-c", buildReplicaConfigScript]
       env := [{ name := "POD_NAME", valueFrom := some (.fieldRef "metadata.name") }]
       volumeMounts := [{ name := "db-config", mountPath := "/db-config" }] }]
  pure
    { metadata := objectMeta ms (ms.name ++ "-db-replica") "db-replica"
      spec :=
        { replicas := some config.replicas
          serviceName := ms.name ++ "-db-replica"
          selector := podLabels ms "db-replica"
          template :=
            { labels := podLabels ms "db-replica"
              spec :=
                { initContainers := initContainers
                  containers := mariadbContainer config (replicaEnv config) ::
                    buildReplicaSetupContainer config (buildReplicaSetupScript config.masterHost)
                  volumes := [dbConfigVolume] } }
          volumeClaimTemplates := [dbDataTemplate config] } }

/-! ## Database Services -/

def buildDatabaseMasterService (ms : MusicService) : Service :=
  { metadata := objectMeta ms (ms.name ++ "-db-master") "db-master"
    spec :=
      { selector := podLabels ms "db-master"
        ports := [{ name := "mysql", port := 3306, protocol := "TCP" }]
        type := "ClusterIP"
        clusterIP := "None" } }

def buildDatabaseReadService (ms : MusicService) : Service :=
  { metadata := objectMeta ms (ms.name ++ "-db-read") "db-read"
    spec :=
      { selector := podLabels ms "db-replica"
        ports := [{ name := "mysql", port := 3306, protocol := "TCP" }]
        type := "ClusterIP" } }

/-! ## Autoscalers -/

def buildResourceMetric (resourceName : String) (targetUtilization : Int) : MetricSpec :=
  { type := "Resource"
    resource := some
      { name := resourceName
        target := { type := "Utilization", averageUtilization := some targetUtilization } } }

/-- The metric list of an `AutoscalingSpec`: CPU, then memory when its target is set. -/
def autoscalerMetrics (a : AutoscalingSpec) : List MetricSpec :=
  buildResourceMetric "cpu" a.targetCPUUtilizationPercentage ::
    match a.targetMemoryUtilizationPercentage with
    | some m => [buildResourceMetric "memory" m]
    | none => []

/-- The autoscaler for StatefulSet `target`, named `name`: the shape shared by
    `buildAutoscaler` and `buildDatabaseReplicaAutoscaler`. -/
def autoscalerFor (ms : MusicService) (name component target : String) (a : AutoscalingSpec) :
    HorizontalPodAutoscaler :=
  { metadata := objectMeta ms name component
    spec :=
      { scaleTargetRef := { apiVersion := "apps/v1", kind := "StatefulSet", name := target }
        minReplicas := some a.minReplicas
        maxReplicas := a.maxReplicas
        metrics := autoscalerMetrics a } }

def buildAutoscaler (ms : MusicService) : Option HorizontalPodAutoscaler :=
  ms.spec.autoscaling.map (autoscalerFor ms (ms.name ++ "-autoscaler") "autoscaler" ms.name)

def buildDatabaseReplicaAutoscaler (ms : MusicService) : Option HorizontalPodAutoscaler := do
  let db ← ms.spec.database
  let a ← db.autoscaling
  pure (autoscalerFor ms (ms.name ++ "-db-replica-autoscaler") "db-autoscaler"
    (ms.name ++ "-db-replica") a)

/-! ## Names and replica counts of the descriptors -/

theorem buildAppStatefulSet_some {ms : MusicService} {d : StatefulSet}
    (h : buildAppStatefulSet ms = some d) :
    d.metadata.name = ms.name ∧ d.spec.replicas = some ms.spec.replicas := by
  unfold buildAppStatefulSet at h
  cases hq : mustParse ms.spec.storage.size <;> simp only [hq, Option.bind_eq_bind,
    Option.none_bind, Option.some_bind, reduceCtorEq, Option.pure_def, Option.some.injEq] at h
  subst h
  exact ⟨rfl, rfl⟩

omit [QuantityParser] in
theorem buildAutoscaler_some {ms : MusicService} {h : HorizontalPodAutoscaler}
    (hb : buildAutoscaler ms = some h) : h.metadata.name = ms.name ++ "-autoscaler" := by
  obtain ⟨_, -, rfl⟩ := Option.map_eq_some'.mp hb
  rfl

omit [QuantityParser] in
theorem buildDatabaseReplicaAutoscaler_some {ms : MusicService} {h : HorizontalPodAutoscaler}
    (hb : buildDatabaseReplicaAutoscaler ms = some h) :
    h.metadata.name = ms.name ++ "-db-replica-autoscaler" ∧
      h.spec.scaleTargetRef.name = ms.name ++ "-db-replica" := by
  unfold buildDatabaseReplicaAutoscaler at hb
  simp only [Option.bind_eq_bind, Option.bind_eq_some, Option.pure_def, Option.some.injEq] at hb
  obtain ⟨_, _, _, _, rfl⟩ := hb
  exact ⟨rfl, rfl⟩

theorem buildDatabaseConfig_replicas {ms : MusicService} {config : DatabaseConfig}
    {db : DatabaseSpec} (h : buildDatabaseConfig ms = some config)
    (hdb : ms.spec.database = some db) : config.replicas = db.replicas := by
  unfold buildDatabaseConfig at h
  simp only [hdb, Option.bind_eq_bind, Option.bind_eq_some, Option.pure_def] at h
  obtain ⟨_, _, h⟩ := h
  split at h
  · obtain ⟨_, _, h⟩ := Option.bind_eq_some.mp h
    cases h
    rfl
  · cases h
    rfl

theorem buildDatabaseMasterStatefulSet_some {ms : MusicService} {d : StatefulSet}
    (h : buildDatabaseMasterStatefulSet ms = some d) :
    d.metadata.name = ms.name ++ "-db-master" := by
  unfold buildDatabaseMasterStatefulSet at h
  cases hc : buildDatabaseConfig ms <;> simp only [hc, Option.bind_eq_bind, Option.none_bind,
    Option.some_bind, reduceCtorEq, Option.pure_def, Option.some.injEq] at h
  subst h
  rfl

theorem buildDatabaseMasterStatefulSet_replicas {ms : MusicService} {d : StatefulSet}
    (h : buildDatabaseMasterStatefulSet ms = some d) : d.spec.replicas = some 1 := by
  unfold buildDatabaseMasterStatefulSet at h
  cases hc : buildDatabaseConfig ms <;> simp only [hc, Option.bind_eq_bind, Option.none_bind,
    Option.some_bind, reduceCtorEq, Option.pure_def, Option.some.injEq] at h
  subst h
  rfl

/-- Both database StatefulSets are built exactly when the database configuration is. -/
theorem buildDatabaseStatefulSets_isSome (ms : MusicService) :
    (buildDatabaseMasterStatefulSet ms).isSome = (buildDatabaseConfig ms).isSome ∧
      (buildDatabaseReplicaStatefulSet ms).isSome = (buildDatabaseConfig ms).isSome := by
  unfold buildDatabaseMasterStatefulSet buildDatabaseReplicaStatefulSet
  cases buildDatabaseConfig ms <;> exact ⟨rfl, rfl⟩

theorem buildDatabaseReplicaStatefulSet_some {ms : MusicService} {d : StatefulSet}
    (h : buildDatabaseReplicaStatefulSet ms = some d) :
    d.metadata.name = ms.name ++ "-db-replica" ∧
      ∀ db, ms.spec.database = some db → d.spec.replicas = some db.replicas := by
  unfold buildDatabaseReplicaStatefulSet at h
  cases hc : buildDatabaseConfig ms <;> simp only [hc, Option.bind_eq_bind, Option.none_bind,
    Option.some_bind, reduceCtorEq, Option.pure_def, Option.some.injEq] at h
  subst h
  exact ⟨rfl, fun db hdb => by rw [buildDatabaseConfig_replicas hc hdb]⟩

end MusicOperator.Builder

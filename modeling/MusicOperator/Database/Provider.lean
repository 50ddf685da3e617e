import Mathlib.Logic.Function.Basic

/-!
  The database-engine providers (`internal/database/provider.go`).

  A `Provider` is an engine's defaults and its replication init script. The package keeps a map
  from engine name to provider, filled with MariaDB, PostgreSQL and MySQL; `GetProvider` returns
  the entry of a name, falling back to the `mariadb` entry, and `RegisterProvider` sets an entry.
  The map is package-level mutable state: here it is passed explicitly, as a `Registry`. A Go
  interface value may be `nil`, so an entry holds a `ProviderValue`.

  Nothing in the repository calls `GetProvider` or `RegisterProvider`: the builders carry their
  own MariaDB defaults (`buildDatabaseConfig`).
-/

namespace MusicOperator.Database

/-- The `Provider` interface, as the results of its methods. -/
structure Provider where
  name : String
  defaultImage : String
  defaultPort : Int
  defaultRootPassword : String
  defaultStorageSize : String
  buildInitReplicationScript : String → String → String

/-- An interface value: `nil`, or a provider. -/
abbrev ProviderValue := Option Provider

/-! ## The three engines -/

/-- The `BuildInitReplicationScript` text of `MariaDBProvider` and `MySQLProvider`, which format
    the same script: wait until the master accepts the root password. -/
def mysqlInitReplicationScript (masterHost password : String) : String :=
  "\n#!/bin/bash\nset -e\necho \"Waiting for master to be ready...\"\nuntil mysql -h " ++
    masterHost ++ " -uroot -p" ++ password ++ " -e \"SELECT 1\" > /dev/null 2>&1; do\n" ++
    "  sleep 2\ndone\necho \"Master is ready, configuring replication...\"\n"

/-- `PostgreSQLProvider.BuildInitReplicationScript`: wait until `pg_isready` answers; the
    password is not used. -/
def postgreSQLInitReplicationScript (masterHost _password : String) : String :=
  "\n#!/bin/bash\nset -e\necho \"Waiting for master to be ready...\"\nuntil pg_isready -h " ++
    masterHost ++ " -U postgres > /dev/null 2>&1; do\n" ++
    "  sleep 2\ndone\necho \"Master is ready, configuring replication...\"\n"

def mariaDBProvider : Provider where
  name := "mariadb"
  defaultImage := "mariadb:10.11"
  defaultPort := 3306
  defaultRootPassword := "rootpass"
  defaultStorageSize := "10Gi"
  buildInitReplicationScript := mysqlInitReplicationScript

def postgreSQLProvider : Provider where
  name := "postgresql"
  defaultImage := "postgres:15"
  defaultPort := 5432
  defaultRootPassword := "postgres"
  defaultStorageSize := "10Gi"
  buildInitReplicationScript := postgreSQLInitReplicationScript

def mySQLProvider : Provider where
  name := "mysql"
  defaultImage := "mysql:8.0"
  defaultPort := 3306
  defaultRootPassword := "rootpass"
  defaultStorageSize := "10Gi"
  buildInitReplicationScript := mysqlInitReplicationScript

/-! ## The registry -/

/-- The package's provider map: the entry of every name, `none` when unset. The `mariadb` entry,
    which `GetProvider` falls back to, is set. -/
structure Registry where
  entries : String → Option ProviderValue
  mariadb_set : (entries "mariadb").isSome

/-- The map as the package initialises it. -/
def providers : Registry where
  entries dbType :=
    if dbType = "mariadb" then some (some mariaDBProvider)
    else if dbType = "postgresql" then some (some postgreSQLProvider)
    else if dbType = "mysql" then some (some mySQLProvider)
    else none
  mariadb_set := rfl

/-- `GetProvider`: the entry of `dbType` when it is set, `nil` included; otherwise the `mariadb`
    entry (the zero value `nil` if it were unset). -/
def getProvider (reg : Registry) (dbType : String) : ProviderValue :=
  match reg.entries dbType with
  | some p => p
  | none => (reg.entries "mariadb").getD none

/-- `RegisterProvider`: set the entry of `name`, replacing any. -/
def registerProvider (reg : Registry) (name : String) (provider : ProviderValue) : Registry where
  entries := Function.update reg.entries name (some provider)
  mariadb_set := by
    by_cases h : "mariadb" = name
    · rw [h, Function.update_same]; rfl
    · rw [Function.update_noteq h]; exact reg.mariadb_set

end MusicOperator.Database

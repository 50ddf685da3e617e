import MusicOperator.Database.Provider

/-!
  What `GetProvider` returns after any registrations.

  1. `RegisterProvider` only sets entries, so after a run of registrations the entry of a name is
     the provider last registered under it, or the entry it had before (`entries_registerAll`).
  2. From the package's initial map, `GetProvider dbType` returns the provider last registered
     under `dbType`; else the built-in provider for `dbType`; else, for an unknown engine, what it
     returns for `mariadb` (`getProvider_after_registrations`). So an unknown engine is served
     silently by MariaDB, or by whatever was last registered as `mariadb`.
-/

namespace MusicOperator.Database

/-- A run of `RegisterProvider` calls, in order. -/
def registerAll (reg : Registry) : List (String × ProviderValue) → Registry
  | [] => reg
  | (name, p) :: rest => registerAll (registerProvider reg name p) rest

/-- The provider registered last under `name` in `regs`, if any. -/
def lastRegistered (regs : List (String × ProviderValue)) (name : String) : Option ProviderValue :=
  (regs.reverse.find? (·.1 = name)).map (·.2)

theorem lastRegistered_cons (n : String) (p : ProviderValue) (rest : List (String × ProviderValue))
    (t : String) : lastRegistered ((n, p) :: rest) t =
      (lastRegistered rest t).or (if n = t then some p else none) := by
  simp only [lastRegistered, List.reverse_cons, List.find?_append]
  cases rest.reverse.find? (·.1 = t) <;> by_cases h : n = t <;> simp [h]

/-- After a run of registrations, an entry is the last provider registered under its name, or
    the entry it had before. -/
theorem entries_registerAll : ∀ (reg : Registry) (regs : List (String × ProviderValue))
    (t : String), (registerAll reg regs).entries t = (lastRegistered regs t).or (reg.entries t)
  | _, [], _ => rfl
  | reg, (n, p) :: rest, t => by
    rw [registerAll, entries_registerAll _ rest t, lastRegistered_cons]
    cases lastRegistered rest t with
    | some q => rfl
    | none =>
      by_cases h : n = t
      · subst h
        simp [registerProvider]
      · simp [registerProvider, h, Function.update_noteq (Ne.symm h)]

/-- **`GetProvider` after registrations.** After any run of `RegisterProvider` calls on the
    package's map, `GetProvider dbType` returns the provider registered last under `dbType`; if
    none was, the built-in provider for `dbType`; if there is none, the provider registered last
    under `mariadb`, or the built-in MariaDB provider. -/
theorem getProvider_after_registrations (regs : List (String × ProviderValue)) (dbType : String) :
    getProvider (registerAll providers regs) dbType =
      match lastRegistered regs dbType with
      | some p => p
      | none => (providers.entries dbType).getD
          ((lastRegistered regs "mariadb").getD (some mariaDBProvider)) := by
  unfold getProvider
  rw [entries_registerAll, entries_registerAll]
  cases lastRegistered regs dbType with
  | some p => rfl
  | none =>
    cases providers.entries dbType with
    | some p => rfl
    | none => cases lastRegistered regs "mariadb" <;> rfl

/-- An unknown engine is served by MariaDB, until another provider is registered as
    `mariadb`. -/
example : (getProvider (registerAll providers [("oracle", some mySQLProvider)]) "sqlserver").map
    (·.name) = some "mariadb" := by
  decide

example : (getProvider (registerAll providers [("mariadb", some postgreSQLProvider)])
    "sqlserver").map (·.name) = some "postgresql" := by
  decide

end MusicOperator.Database

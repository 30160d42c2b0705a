import SqlBridge.Proofs.Credentials.Secrecy

namespace SqlBridge

namespace Environment

/-- The variables differ in the values of user name and password at most, and not in whether these are
set or empty. -/
structure Alike (env₁ env₂ : Environment) : Prop where
  lookup_eq : ∀ name, name ≠ "DB_USER" → name ≠ "DB_PASSWORD" → env₁.lookup name = env₂.lookup name
  isSome_eq : ∀ name, (env₁.lookup name).isSome = (env₂.lookup name).isSome
  empty_iff : ∀ name, env₁.getD name "" = "" ↔ env₂.getD name "" = ""

namespace Alike

variable {env₁ env₂ : Environment}

theorem append (halike : env₁.Alike env₂) (key value : String) :
    Alike (env₁ ++ [(key, value)]) (env₂ ++ [(key, value)]) where
  lookup_eq name huser hpassword := by
    rw [List.lookup_append, List.lookup_append, halike.lookup_eq name huser hpassword]
  isSome_eq name := by
    rw [List.lookup_append, List.lookup_append, Option.isSome_or, Option.isSome_or,
      halike.isSome_eq name]
  empty_iff name := by
    have hset := halike.isSome_eq name
    have hempty := halike.empty_iff name
    simp only [getD, List.lookup_append] at hempty ⊢
    cases h₁ : env₁.lookup name <;> cases h₂ : env₂.lookup name <;> simp_all

/-- Reading the same variables from a file keeps variables alike. -/
theorem addAll (halike : env₁.Alike env₂) (added : List (String × String)) :
    (env₁.addAll added).1 = (env₂.addAll added).1 ∧
      Alike (env₁.addAll added).2 (env₂.addAll added).2 := by
  induction added generalizing env₁ env₂ with
  | nil => exact ⟨rfl, halike⟩
  | cons entry added ih =>
    obtain ⟨key, value⟩ := entry
    rw [Environment.addAll, Environment.addAll, Environment.add, Environment.add,
      halike.isSome_eq key]
    split_ifs
    · exact ih halike
    · exact ⟨rfl, halike⟩
    · exact ih (halike.append key value)

theorem load (halike : env₁.Alike env₂) (files : Files) (path : String) :
    (env₁.load files path).1 = (env₂.load files path).1 ∧
      Alike (env₁.load files path).2 (env₂.load files path).2 := by
  rw [Environment.load, Environment.load, halike.lookup_eq fileVariable (by decide) (by decide)]
  rcases readFile files ((env₂.lookup fileVariable).getD path) with p | _ | s
  · exact ⟨rfl, halike⟩
  · exact ⟨rfl, halike⟩
  · exact halike.addAll (ofText s)

variable {name : String}

theorem getD_eq (halike : env₁.Alike env₂) (huser : name ≠ "DB_USER")
    (hpassword : name ≠ "DB_PASSWORD") (default : String) :
    env₁.getD name default = env₂.getD name default := by
  rw [getD, getD, halike.lookup_eq name huser hpassword]

theorem nonempty?_eq (halike : env₁.Alike env₂) (huser : name ≠ "DB_USER")
    (hpassword : name ≠ "DB_PASSWORD") : env₁.nonempty? name = env₂.nonempty? name := by
  rw [nonempty?, nonempty?, halike.lookup_eq name huser hpassword]

theorem present?_eq (halike : env₁.Alike env₂) (huser : name ≠ "DB_USER")
    (hpassword : name ≠ "DB_PASSWORD") : env₁.present? name = env₂.present? name := by
  rw [present?, present?, halike.lookup_eq name huser hpassword]

theorem fileSettings_eq (halike : env₁.Alike env₂) (alwaysParse : Bool) :
    env₁.fileSettings alwaysParse = env₂.fileSettings alwaysParse := by
  rw [fileSettings, fileSettings, halike.nonempty?_eq (by decide) (by decide),
    halike.getD_eq (by decide) (by decide), halike.getD_eq (by decide) (by decide)]

theorem serverSettings (halike : env₁.Alike env₂) (engine : Engine) (alwaysParse : Bool) :
    Settings.LoadsAlike (env₁.serverSettings engine alwaysParse)
      (env₂.serverSettings engine alwaysParse) := by
  have hport : env₁.integer? "DB_PORT" = env₂.integer? "DB_PORT" := by
    rw [integer?, integer?, halike.present?_eq (by decide) (by decide)]
  have hcharset := halike.getD_eq (show "DB_CHARSET" ≠ "DB_USER" by decide) (by decide) "UTF8"
  rw [Environment.serverSettings, Environment.serverSettings,
    halike.nonempty?_eq (by decide) (by decide), halike.nonempty?_eq (by decide) (by decide), hport]
  cases env₂.nonempty? "DB_HOST" with
  | none => exact .failed _
  | some host =>
    cases env₂.nonempty? "DB_NAME" with
    | none => exact .failed _
    | some dbname =>
      cases env₂.integer? "DB_PORT" with
      | error p => exact .failed p
      | ok port =>
        refine .loaded ⟨halike.empty_iff "DB_USER", halike.empty_iff "DB_PASSWORD", ?_⟩
        simp only [hcharset]

theorem settings (halike : env₁.Alike env₂) :
    Settings.LoadsAlike env₁.settings env₂.settings := by
  have hflag : env₁.flag "DB_ALWAYS_PARSE_QUERY_VARS" true =
      env₂.flag "DB_ALWAYS_PARSE_QUERY_VARS" true := by
    rw [flag, flag, halike.present?_eq (by decide) (by decide)]
  rw [Environment.settings, Environment.settings, halike.getD_eq (by decide) (by decide), hflag]
  cases Engine.parse (.text (env₂.getD "DB_ENGINE" "pgsql")) with
  | error p => exact .failed p
  | ok engine =>
    cases env₂.flag "DB_ALWAYS_PARSE_QUERY_VARS" true with
    | error p => exact .failed p
    | ok alwaysParse =>
      by_cases hengine : engine = .sqlite
      · subst hengine
        change Settings.LoadsAlike (.ok (env₁.fileSettings alwaysParse))
          (.ok (env₂.fileSettings alwaysParse))
        rw [halike.fileSettings_eq]
        exact .refl _
      · change Settings.LoadsAlike (if engine = .sqlite then _ else _)
          (if engine = .sqlite then _ else _)
        rw [if_neg hengine, if_neg hengine]
        exact halike.serverSettings engine alwaysParse

/-- Variables that differ in credentials alone open connections that differ in them alone. -/
theorem connectFromEnvironment {σ : Type} (halike : env₁.Alike env₂) (name : String) (files : Files)
    (path : String) :
    Step.Alike (σ := σ) (.connectFromEnvironment name env₁ files path)
      (.connectFromEnvironment name env₂ files path) := by
  refine .connectFromEnvironment name ?_
  obtain ⟨hread, hadded⟩ := halike.load files path
  rw [loadSettings, loadSettings]
  revert hread hadded
  rcases env₁.load files path with ⟨read, added₁⟩
  rcases env₂.load files path with ⟨read', added₂⟩
  rintro rfl hadded
  cases read with
  | error p => exact .failed p
  | ok => exact Alike.settings hadded

end Alike

end Environment

end SqlBridge

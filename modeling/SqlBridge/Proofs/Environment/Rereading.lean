import SqlBridge.Environment.Settings
import SqlBridge.Proofs.Environment.Loading

namespace SqlBridge

open Text

namespace Environment

/-- Reading a file now would leave the variables as they are: the file is missing, or every variable
that its lines declare is set. -/
def AddsNothing (env : Environment) (files : Files) (path : String) : Prop :=
  files.find (env.source path) = .nothing ∨
    ∃ text declared, files.HasText (env.source path) text ∧ Declares text declared ∧
      ∀ entry ∈ declared, (env.lookup entry.1).isSome

variable {env env' : Environment} {files : Files} {path : String}
  {declared : List (String × String)} {s : Settings}

theorem lookup_isSome_of_mem {entry : String × String} (hmem : entry ∈ declared) :
    (declared.lookup entry.1).isSome := by
  rw [Option.isSome_iff_ne_none, ne_eq, List.lookup_eq_none_iff, not_forall]
  exact ⟨entry, by simp [hmem]⟩

/-- When adding has come to its end, every declared variable is set. -/
theorem Adding.isSome_of_mem (hadding : env.Adding declared (.ok (), env')) :
    ∀ entry ∈ declared, (env'.lookup entry.1).isSome := by
  intro entry hmem
  cases hadding with
  | finished _ hvalues =>
    rw [hvalues, valueAfter, Option.isSome_or, lookup_isSome_of_mem hmem, Bool.or_true]

theorem addAll_eq_self (hset : ∀ entry ∈ declared, (env.lookup entry.1).isSome) :
    env.addAll declared = (.ok (), env) := by
  induction declared with
  | nil => rfl
  | cons entry declared ih =>
    obtain ⟨hentry, hset⟩ := List.forall_mem_cons.1 hset
    have hadd : env.add entry.1 entry.2 = .ok env := by rw [add, if_pos hentry]
    rw [addAll, hadd]
    exact ih hset

theorem load_eq_ok_cases (hload : env.load files path = (.ok (), env')) :
    files.find (env.source path) = .nothing ∧ env' = env ∨
      ∃ text, files.HasText (env.source path) text ∧ env.Adding (ofText text) (.ok (), env') := by
  have hcases := load_cases env files path
  rw [hload] at hcases
  rcases hcases with ⟨hnothing, hsame⟩ | ⟨problem, herror⟩ | hadded
  · exact .inl ⟨hnothing, congrArg Prod.snd hsame⟩
  · cases congrArg Prod.fst herror
  · exact .inr hadded

theorem load_eq_self_iff : env.load files path = (.ok (), env) ↔ env.AddsNothing files path := by
  constructor
  · intro hload
    rcases load_eq_ok_cases hload with ⟨hnothing, -⟩ | ⟨text, htext, hadding⟩
    · exact .inl hnothing
    · exact .inr ⟨text, ofText text, htext, ofText_eq_iff.1 rfl, hadding.isSome_of_mem⟩
  · rintro (hnothing | ⟨text, declared, htext, hdeclares, hset⟩)
    · exact load_of_nothing hnothing
    · rw [load_of_hasText htext, ofText_eq_iff.2 hdeclares, addAll_eq_self hset]

/-- A file that was read has nothing more to add. -/
theorem addsNothing_of_load (hload : env.load files path = (.ok (), env'))
    (hsame : files.find (env'.source path) = files.find (env.source path)) :
    env'.AddsNothing files path := by
  rcases load_eq_ok_cases hload with ⟨hnothing, -⟩ | ⟨text, htext, hadding⟩
  · exact .inl (hsame.trans hnothing)
  · exact .inr ⟨text, ofText text, hsame.trans htext, ofText_eq_iff.1 rfl, hadding.isSome_of_mem⟩

/-- Only a file that newly says which file to read changes what is read next. -/
theorem source_of_load (hload : env.load files path = (.ok (), env'))
    (hne : env'.source path ≠ env.source path) :
    env.lookup fileVariable = none ∧ ∃ text declared, files.HasText path text ∧
      Declares text declared ∧ declared.lookup fileVariable = some (env'.source path) := by
  rcases load_eq_ok_cases hload with ⟨-, rfl⟩ | ⟨text, htext, hadding⟩
  · exact absurd rfl hne
  · cases hadding with
    | finished _ hvalues =>
      have hvariable := hvalues fileVariable
      cases hunset : env.lookup fileVariable with
      | some named =>
        rw [valueAfter, hunset, Option.some_or] at hvariable
        exact absurd (by rw [source, source, hvariable, hunset]) hne
      | none =>
        rw [valueAfter, hunset, Option.none_or] at hvariable
        -- No variable named a file, so the one that was read is the one that was given.
        have hgiven : env.source path = path := by rw [source, hunset, Option.getD_none]
        rw [hgiven] at htext hne
        refine ⟨rfl, text, ofText text, htext, ofText_eq_iff.1 rfl, ?_⟩
        cases hnamed : (ofText text).lookup fileVariable with
        | none =>
          rw [hnamed] at hvariable
          exact absurd (by rw [source, hvariable, Option.getD_none]) hne
        | some named =>
          rw [hnamed] at hvariable
          rw [source, hvariable, Option.getD_some]

theorem loadSettings_eq_ok_iff : env.loadSettings files path = (.ok s, env') ↔
    env.load files path = (.ok (), env') ∧ env'.settings = .ok s := by
  rw [loadSettings]
  rcases env.load files path with ⟨problem | ⟨⟩, loaded⟩
  · simp
  · constructor
    · intro hread
      obtain ⟨hsettings, rfl⟩ := Prod.mk.inj hread
      exact ⟨rfl, hsettings⟩
    · rintro ⟨hload, hsettings⟩
      obtain ⟨-, rfl⟩ := Prod.mk.inj hload
      exact congrArg (·, loaded) hsettings

/-- Settings that were read are read again, and the variables stay as they are, if the file to read is
the same as before. It is another one only when no variable named it and the file that was read set that
variable. Then reading again changes nothing just when the file named there adds nothing: when it is
missing, or declares no variable that is not set. -/
theorem loadSettings_again_unless_renamed
    (hfirst : env.loadSettings files path = (.ok s, env')) :
    (files.find (env'.source path) = files.find (env.source path) →
      env'.loadSettings files path = (.ok s, env')) ∧
    (env'.source path ≠ env.source path → env.lookup fileVariable = none ∧
      ∃ text declared, files.HasText path text ∧ Declares text declared ∧
        declared.lookup fileVariable = some (env'.source path)) ∧
    (env'.loadSettings files path = (.ok s, env') ↔ env'.AddsNothing files path) := by
  obtain ⟨hload, hsettings⟩ := loadSettings_eq_ok_iff.1 hfirst
  have hagain : env'.loadSettings files path = (.ok s, env') ↔ env'.AddsNothing files path := by
    rw [loadSettings_eq_ok_iff, load_eq_self_iff, and_iff_left hsettings]
  refine ⟨fun hsame => ?_, source_of_load hload, hagain⟩
  exact hagain.2 (addsNothing_of_load hload hsame)

theorem loadSettings_again_unless_renamed_by_own_name :
    let text := "DB_NAME=a'b\nSQLCONN_ENV_FILE=./.env\nDB_ENGINE=sqlite\nDB_NAME=c"
    let files := Files.ofList [(".env", .file text.toUTF8), ("./.env", .file text.toUTF8)]
    let env' : Environment :=
      [("DB_NAME", "a'b"), ("SQLCONN_ENV_FILE", "./.env"), ("DB_ENGINE", "sqlite")]
    let s : Settings := ⟨.sqlite, "", "a'b", "", "", some "UTF8", .null, true⟩
    loadSettings [] files ".env" = (.ok s, env') ∧ env'.loadSettings files ".env" = (.ok s, env') := by
  intro text files env' s
  have htext : files.HasText (source [] ".env") text := rfl
  have hdeclared : ofText text = env' ++ [("DB_NAME", "c")] := by decide +kernel
  have hnamed : env'.source ".env" = "./.env" := by decide
  have hsettings : env'.settings = .ok s := by
    unfold env'
    rfl
  have hfirst : loadSettings [] files ".env" = (.ok s, env') := by
    rw [loadSettings_eq_ok_iff, load_of_hasText htext, hdeclared]
    exact ⟨rfl, hsettings⟩
  have hsame : files.find (env'.source ".env") = files.find (source [] ".env") := by
    rw [hnamed]
    rfl
  exact ⟨hfirst, (loadSettings_again_unless_renamed hfirst).1 hsame⟩

/-- A file that names another one is followed by it when the settings are read again. -/
theorem loadSettings_again_reads_named_file :
    let text := "DB_ENGINE=sqlite\nSQLCONN_ENV_FILE=more.env"
    let files := Files.ofList [(".env", .file text.toUTF8), ("more.env", .file "DB_NAME=app".toUTF8)]
    let env' : Environment := [("DB_ENGINE", "sqlite"), ("SQLCONN_ENV_FILE", "more.env")]
    loadSettings [] files ".env" = (.ok ⟨.sqlite, "", "", "", "", some "UTF8", .null, true⟩, env') ∧
      env'.loadSettings files ".env" =
        (.ok ⟨.sqlite, "", "app", "", "", some "UTF8", .null, true⟩, env' ++ [("DB_NAME", "app")]) := by
  intro text files env'
  have htext : files.HasText (source [] ".env") text := rfl
  have hdeclared : ofText text = env' := by decide +kernel
  have hnamed : env'.source ".env" = "more.env" := by decide
  have hmore : files.HasText (env'.source ".env") "DB_NAME=app" := by
    rw [hnamed]
    rfl
  have hadded : ofText "DB_NAME=app" = [("DB_NAME", "app")] := by decide +kernel
  constructor
  · rw [loadSettings_eq_ok_iff, load_of_hasText htext, hdeclared]
    unfold env'
    exact ⟨rfl, rfl⟩
  · rw [loadSettings_eq_ok_iff, load_of_hasText hmore, hadded]
    unfold env'
    exact ⟨rfl, rfl⟩

end Environment

end SqlBridge

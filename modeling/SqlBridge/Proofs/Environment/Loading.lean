import SqlBridge.Proofs.Environment.Declarations

namespace SqlBridge

/-- The file at a path has this text, written in UTF-8. -/
def Files.HasText (files : Files) (path text : String) : Prop :=
  files.find path = .file text.toUTF8

/-- Files at the paths that are given, and nothing anywhere else. -/
def Files.ofList (entries : List (String × Found)) : Files :=
  ⟨fun path => (entries.lookup path).getD .nothing⟩

namespace Environment

/-- The path that is read: the one that the variable for it names, or else the one that is given. -/
def source (env : Environment) (path : String) : String :=
  (env.lookup fileVariable).getD path

/-- What a variable is once declared ones were added: what it was, or else the first value that is
declared for it. -/
def valueAfter (env : Environment) (declared : List (String × String)) (name : String) :
    Option String :=
  (env.lookup name).or (declared.lookup name)

/-- A declared variable that cannot be written after those before it: it is not set by then, and has
the character in it that ends a variable for the system. -/
structure Blocks (env : Environment) (before : List (String × String)) (entry : String × String) :
    Prop where
  unset : env.valueAfter before entry.1 = none
  nul : '\x00' ∈ entry.1.toList ∨ '\x00' ∈ entry.2.toList

/-- Every declared variable that is not set by then can be written. -/
def Unblocked (env : Environment) (declared : List (String × String)) : Prop :=
  ∀ before entry after, declared = before ++ entry :: after → ¬ env.Blocks before entry

/-- How adding declared variables ends: all of them have been added, or those before the first that
cannot be written. -/
inductive Adding (env : Environment) (declared : List (String × String)) :
    Except Problem Unit × Environment → Prop where
  | finished {env' : Environment} (hfree : env.Unblocked declared)
      (hvalues : ∀ name, env'.lookup name = env.valueAfter declared name) :
      Adding env declared (.ok (), env')
  | stopped {before after : List (String × String)} {entry : String × String} {env' : Environment}
      (hdeclared : declared = before ++ entry :: after) (hfree : env.Unblocked before)
      (hblocks : env.Blocks before entry)
      (hvalues : ∀ name, env'.lookup name = env.valueAfter before name) :
      Adding env declared (.error .nulByte, env')

variable {env env' : Environment} {files : Files} {path text key value name : String}
  {declared : List (String × String)}

@[simp] theorem valueAfter_nil (env : Environment) (name : String) :
    env.valueAfter [] name = env.lookup name := by
  simp [valueAfter]

theorem valueAfter_of_isSome (hset : (env.lookup name).isSome) (declared : List (String × String)) :
    env.valueAfter declared name = env.lookup name := by
  obtain ⟨value, hvalue⟩ := Option.isSome_iff_exists.1 hset
  rw [valueAfter, hvalue, Option.some_or]

/-- One more variable in the environment is one more that was declared first. -/
theorem valueAfter_of_add (hadd : env.add key value = .ok env') (declared : List (String × String))
    (name : String) : env'.valueAfter declared name = env.valueAfter ((key, value) :: declared) name := by
  rw [add] at hadd
  split at hadd
  · next hset =>
    obtain rfl := Except.ok.inj hadd
    by_cases hname : name = key
    · subst hname
      rw [valueAfter_of_isSome hset, valueAfter_of_isSome hset]
    · rw [valueAfter, valueAfter, List.lookup_cons, beq_false_of_ne hname]
  · split at hadd
    · cases hadd
    · obtain rfl := Except.ok.inj hadd
      rw [valueAfter, valueAfter, List.lookup_append, Option.or_assoc, ← List.lookup_append,
        List.singleton_append]

theorem holdsNul_iff {s : String} : holdsNul s = true ↔ '\x00' ∈ s.toList := by
  rw [holdsNul, List.contains_iff_mem]

/-- One variable fails to be added just when it is the first of its name and cannot be written. -/
theorem add_eq_error_iff {problem : Problem} :
    env.add key value = .error problem ↔ problem = .nulByte ∧ env.Blocks [] (key, value) := by
  rw [add]
  split
  · next hset =>
    have hnot : ¬ env.Blocks [] (key, value) := by
      rintro ⟨hunset, -⟩
      rw [valueAfter_nil] at hunset
      rw [hunset] at hset
      cases hset
    simp [hnot]
  · next hunset =>
    rw [Option.not_isSome_iff_eq_none] at hunset
    split
    · next hnul =>
      rw [Bool.or_eq_true, holdsNul_iff, holdsNul_iff] at hnul
      have hblocks : env.Blocks [] (key, value) := ⟨by rw [valueAfter_nil, hunset], hnul⟩
      simp [hblocks, eq_comm]
    · next hfree =>
      rw [Bool.or_eq_true, holdsNul_iff, holdsNul_iff] at hfree
      have hnot : ¬ env.Blocks [] (key, value) := fun hblocks => hfree hblocks.nul
      simp [hnot]

theorem unblocked_nil (env : Environment) : env.Unblocked [] := by
  intro before entry after hsplit
  simp at hsplit

theorem blocks_cons_iff (hadd : env.add key value = .ok env') {before : List (String × String)}
    {entry : String × String} :
    env.Blocks ((key, value) :: before) entry ↔ env'.Blocks before entry := by
  constructor
  · rintro ⟨hunset, hnul⟩
    exact ⟨by rw [valueAfter_of_add hadd, hunset], hnul⟩
  · rintro ⟨hunset, hnul⟩
    exact ⟨by rw [← valueAfter_of_add hadd, hunset], hnul⟩

theorem Unblocked.cons (hadd : env.add key value = .ok env') (hfree : env'.Unblocked declared) :
    env.Unblocked ((key, value) :: declared) := by
  intro before entry after hsplit hblocks
  cases before with
  | nil =>
    obtain ⟨rfl, -⟩ := List.cons.inj hsplit
    have herror : env.add key value = .error .nulByte := add_eq_error_iff.2 ⟨rfl, hblocks⟩
    rw [hadd] at herror
    cases herror
  | cons first before =>
    obtain ⟨rfl, hrest⟩ := List.cons.inj hsplit
    exact hfree before entry after hrest ((blocks_cons_iff hadd).1 hblocks)

theorem addAll_adding (env : Environment) (declared : List (String × String)) :
    env.Adding declared (env.addAll declared) := by
  -- The environment grows on the way: what was added is the beginning of what was declared.
  induction declared generalizing env with
  | nil => exact .finished (unblocked_nil env) fun name => (valueAfter_nil env name).symm
  | cons entry declared ih =>
    obtain ⟨key, value⟩ := entry
    rw [addAll]
    cases hadd : env.add key value with
    | error problem =>
      obtain ⟨rfl, hblocks⟩ := add_eq_error_iff.1 hadd
      exact .stopped rfl (unblocked_nil env) hblocks fun name => (valueAfter_nil env name).symm
    | ok env' =>
      have hrest := ih env'
      simp only
      generalize env'.addAll declared = ending at hrest
      cases hrest with
      | finished hfree hvalues =>
        refine .finished (hfree.cons hadd) fun name => ?_
        rw [hvalues, valueAfter_of_add hadd]
      | @stopped before after entry _ hdeclared hfree hblocks hvalues =>
        have hsplit : (key, value) :: declared = ((key, value) :: before) ++ entry :: after := by
          rw [hdeclared, List.cons_append]
        refine .stopped hsplit (hfree.cons hadd) ((blocks_cons_iff hadd).2 hblocks) fun name => ?_
        rw [hvalues, valueAfter_of_add hadd]

theorem fromUTF8?_toUTF8 (text : String) : String.fromUTF8? text.toUTF8 = some text := by
  rw [String.toUTF8_eq_toByteArray]
  exact dif_pos text.isValidUTF8

theorem readFile_of_hasText (htext : files.HasText path text) :
    readFile files path = .ok (some text) := by
  rw [readFile, htext]
  simp only [fromUTF8?_toUTF8]

theorem hasText_of_readFile (hread : readFile files path = .ok (some text)) :
    files.HasText path text := by
  rw [readFile] at hread
  split at hread
  · cases hread
  · cases hread
  · cases hread
  · next content hfile =>
    split at hread
    · next decoded hdecoded =>
      obtain rfl := Option.some.inj (Except.ok.inj hread)
      rw [String.fromUTF8?] at hdecoded
      split at hdecoded
      · next hvalid =>
        obtain rfl := Option.some.inj hdecoded
        exact hfile
      · cases hdecoded
    · cases hread

theorem find_of_readFile (hread : readFile files path = .ok none) : files.find path = .nothing := by
  rw [readFile] at hread
  split at hread
  · next hnothing => exact hnothing
  · cases hread
  · cases hread
  · split at hread <;> cases hread

theorem load_of_nothing (hnothing : files.find (env.source path) = .nothing) :
    env.load files path = (.ok (), env) := by
  rw [load, ← source, readFile, hnothing]

theorem load_of_hasText (htext : files.HasText (env.source path) text) :
    env.load files path = env.addAll (ofText text) := by
  rw [load, ← source, readFile_of_hasText htext]

theorem load_of_unreadable (hfound : files.find (env.source path) ≠ .nothing)
    (hnone : ¬ ∃ text, files.HasText (env.source path) text) :
    ∃ problem, env.load files path = (.error problem, env) := by
  rw [load, ← source]
  rcases hread : readFile files (env.source path) with problem | _ | text
  · exact ⟨problem, rfl⟩
  · exact absurd (find_of_readFile hread) hfound
  · exact absurd ⟨text, hasText_of_readFile hread⟩ hnone

/-- All that reading a file can come to. -/
theorem load_cases (env : Environment) (files : Files) (path : String) :
    files.find (env.source path) = .nothing ∧ env.load files path = (.ok (), env) ∨
      (∃ problem, env.load files path = (.error problem, env)) ∨
      ∃ text, files.HasText (env.source path) text ∧
        env.Adding (ofText text) (env.load files path) := by
  by_cases hnothing : files.find (env.source path) = .nothing
  · exact .inl ⟨hnothing, load_of_nothing hnothing⟩
  · by_cases htext : ∃ text, files.HasText (env.source path) text
    · obtain ⟨text, htext⟩ := htext
      refine .inr (.inr ⟨text, htext, ?_⟩)
      rw [load_of_hasText htext]
      exact addAll_adding env (ofText text)
    · exact .inr (.inl (load_of_unreadable hnothing htext))

theorem Adding.lookup_eq {ending : Except Problem Unit × Environment}
    (hadding : env.Adding declared ending) (hvalue : env.lookup name = some value) :
    ending.2.lookup name = some value := by
  cases hadding with
  | finished _ hvalues => rw [hvalues, valueAfter, hvalue, Option.some_or]
  | stopped _ _ _ hvalues => rw [hvalues, valueAfter, hvalue, Option.some_or]

/-- What reading a file does to the variables. The file is the one that a variable names, or else the
one that is given. One that is missing changes nothing, nor does one that has no text to read, which is
reported. From any other the variables that its lines declare are added in order: none that is set is
changed, each of the others gets the first value declared for it, and nothing else is added. Where one
cannot be written this is reported, with those before it added. So no variable is changed or lost in any
case. -/
theorem load_adds_first_declared (env : Environment) (files : Files) (path : String) :
    (files.find (env.source path) = .nothing → env.load files path = (.ok (), env)) ∧
    (files.find (env.source path) ≠ .nothing → (¬ ∃ text, files.HasText (env.source path) text) →
      ∃ problem, env.load files path = (.error problem, env)) ∧
    (∀ text, files.HasText (env.source path) text →
      ∃ declared, Declares text declared ∧ env.Adding declared (env.load files path)) ∧
    ∀ name value, env.lookup name = some value →
      (env.load files path).2.lookup name = some value := by
  have hadds : ∀ text, files.HasText (env.source path) text →
      ∃ declared, Declares text declared ∧ env.Adding declared (env.load files path) := by
    intro text htext
    rw [load_of_hasText htext]
    exact ⟨ofText text, ofText_eq_iff.1 rfl, addAll_adding env (ofText text)⟩
  refine ⟨load_of_nothing, load_of_unreadable, hadds, fun name value hvalue => ?_⟩
  rcases load_cases env files path with ⟨-, hload⟩ | ⟨problem, hload⟩ | ⟨text, -, hadding⟩
  · rw [hload, hvalue]
  · rw [hload, hvalue]
  · exact hadding.lookup_eq hvalue

theorem load_adds_first_declared_up_to_nul :
    let text := "export A = '1'\nKEEP=2\n#B=3\nA=4\nB=\x00\nC=5"
    let env : Environment := [("KEEP", "0"), ("SQLCONN_ENV_FILE", "/etc/app/db.env")]
    let files := Files.ofList [("/etc/app/db.env", .file text.toUTF8), (".env", .directory)]
    files.HasText (env.source ".env") text ∧
      env.load files ".env" = (.error .nulByte, env ++ [("A", "1")]) ∧
      ∃ declared, Declares text declared ∧
        env.Adding declared (.error .nulByte, env ++ [("A", "1")]) := by
  intro text env files
  have hsource : env.source ".env" = "/etc/app/db.env" := rfl
  have htext : files.HasText (env.source ".env") text := by
    rw [hsource]
    rfl
  have hload : env.load files ".env" = (.error .nulByte, env ++ [("A", "1")]) := by
    have hdeclared : ofText text = [("A", "1"), ("KEEP", "2"), ("A", "4"), ("B", "\x00"), ("C", "5")] := by
      decide +kernel
    rw [load_of_hasText htext, hdeclared]
    rfl
  have hadds := (load_adds_first_declared env files ".env").2.2.1 text htext
  rw [hload] at hadds
  exact ⟨htext, hload, hadds⟩

end Environment

end SqlBridge

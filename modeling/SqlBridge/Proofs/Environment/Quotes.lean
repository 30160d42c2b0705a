import SqlBridge.Proofs.Environment.Assignments
import SqlBridge.Proofs.Template.Alphabet

namespace SqlBridge

open Text

namespace Environment

/-- A name of letters, digits and underscores that does not begin with a digit. -/
def IsIdentifier (key : String) : Prop :=
  ∃ first rest, key.toList = first :: rest ∧ (first.isAlpha = true ∨ first = '_') ∧
    ∀ c ∈ rest, c.isAlphanum = true ∨ c = '_'

/-- The line that gives a name the value between two quotes, with the export word in front or
without. -/
def quotedAssignment (exported : Bool) (key : String) (quote : Char) (value : String) : List Char :=
  (if exported then exportWord else []) ++ (key.toList ++ '=' :: (quote :: value.toList ++ [quote]))

variable {env : Environment} {files : Files} {path text key value : String} {quote : Char}
  {exported : Bool}

theorem IsIdentifier.isAssignable (hkey : IsIdentifier key) : IsAssignable key := by
  obtain ⟨first, rest, hsplit, hfirst, hrest⟩ := hkey
  have hplain {c : Char} (hc : c.isAlphanum = true ∨ c = '_') :
      c ≠ '=' ∧ c ≠ '#' ∧ c ≠ '\x00' ∧ isBlank c = false := by
    have hletter : InNameAlphabet c := hc.imp isAlphanum_iff.1 fun hunderscore => by simp [hunderscore]
    refine ⟨?_, ?_, ?_, hletter.isBlank_eq_false⟩ <;> rintro rfl <;> exact absurd hc (by decide)
  refine ⟨by simp [hsplit], ?_⟩
  rw [hsplit]
  refine List.forall_mem_cons.2 ⟨hplain ?_, fun c hc => hplain (hrest c hc)⟩
  exact hfirst.imp_left fun halpha => by rw [Char.isAlphanum, halpha, Bool.true_or]

/-- The line begins with a letter of a word. -/
theorem first_quotedAssignment (hkey : IsAssignable key) :
    ∀ c ∈ (quotedAssignment exported key quote value).head?, c ≠ '#' ∧ isBlank c = false := by
  intro c hc
  cases exported with
  | true =>
    obtain rfl : 'e' = c := Option.some.inj hc
    decide
  | false =>
    have hhead : c ∈ (key.toList ++ '=' :: (quote :: value.toList ++ [quote])).head? := hc
    rw [List.head?_append_of_ne_nil _ hkey.ne_empty] at hhead
    obtain ⟨-, hcomment, -, hblank⟩ := hkey.chars c (List.mem_of_mem_head? hhead)
    exact ⟨hcomment, hblank⟩

theorem getLast?_quotedAssignment :
    (quotedAssignment exported key quote value).getLast? = some quote := by
  simp [quotedAssignment, List.getLast?_append, List.getLast?_cons]

theorem exportWord_quotedAssignment (hkey : IsAssignable key) :
    quotedAssignment exported key quote value =
        exportWord ++ (key.toList ++ '=' :: (quote :: value.toList ++ [quote])) ∨
      ¬ exportWord <+: quotedAssignment exported key quote value ∧
        key.toList ++ '=' :: (quote :: value.toList ++ [quote]) =
          quotedAssignment exported key quote value := by
  cases exported with
  | true => exact .inl rfl
  | false => exact dropExport_eq_iff.1 (dropExport_append hkey _)

/-- What is loaded from a value between quotes. Double quotes are the last that are taken off, so the
value between single ones loses those at its own ends as well. -/
def betweenQuotes (quote : Char) (value : String) : String :=
  if quote = '"' then value else String.ofList (trimBy (· == '"') value.toList)

theorem lineDeclares_quotedAssignment (hkey : IsAssignable key)
    (hquote : quote = '\'' ∨ quote = '"') (hvalue : quote ∉ value.toList) :
    LineDeclares (quotedAssignment exported key quote value) (key, betweenQuotes quote value) := by
  have hunquoted : ∀ c ∈ value.toList, (c == quote) = false := by
    intro c hc
    rw [beq_eq_false_iff_ne]
    rintro rfl
    exact hvalue hc
  have hblank : isBlank quote = false := by
    rcases hquote with rfl | rfl <;> decide
  have hframe {p : Char → Bool} (hp : p quote = false) :
      IsTrimmed p (quote :: value.toList ++ [quote]) (quote :: value.toList ++ [quote]) := by
    refine isTrimmed_self_iff.2 ⟨by simpa using hp, ?_⟩
    rw [List.getLast?_concat]
    simpa using hp
  have hline : IsTrimmed isBlank (quotedAssignment exported key quote value)
      (quotedAssignment exported key quote value) := by
    refine isTrimmed_self_iff.2 ⟨fun c hc => (first_quotedAssignment hkey c hc).2, ?_⟩
    rw [getLast?_quotedAssignment]
    simpa using hblank
  have hcomment : (quotedAssignment exported key quote value).head? ≠ some '#' :=
    fun hhead => (first_quotedAssignment hkey '#' hhead).1 rfl
  have hnamed : key ≠ "" := by simpa using hkey.ne_empty
  have hdeclares {unquoted : List Char} {loaded : String}
      (hsingle : IsTrimmed (· == '\'') (quote :: value.toList ++ [quote]) unquoted)
      (hdouble : IsTrimmed (· == '"') unquoted loaded.toList) :
      LineDeclares (quotedAssignment exported key quote value) (key, loaded) :=
    .intro hline hcomment (exportWord_quotedAssignment hkey) rfl hkey.equals_notMem hkey.isTrimmed
      hnamed (hframe hblank) hsingle hdouble
  -- Single quotes go first. Behind them the value stands free, and loses its own double quotes; double
  -- ones stop that step and go as the pair they are.
  rcases hquote with rfl | rfl
  · refine hdeclares (isTrimmed_framed rfl hunquoted) ?_
    rw [betweenQuotes, if_neg (by decide), String.toList_ofList]
    exact isTrimmed_trimBy (· == '"') value.toList
  · rw [betweenQuotes, if_pos rfl]
    exact hdeclares (hframe rfl) (isTrimmed_framed rfl hunquoted)

theorem quotedAssignment_unbroken (hkey : IsAssignable key) (hquote : quote = '\'' ∨ quote = '"')
    (hvalue : ∀ c ∈ value.toList, isLineBreak c = false) :
    ∀ c ∈ quotedAssignment exported key quote value, isLineBreak c = false := by
  have hword : exportWord.any isLineBreak = false := by decide
  have hexport : ∀ c ∈ if exported then exportWord else [], isLineBreak c = false := by
    cases exported with
    | true => simpa using hword
    | false => simp
  have hquote : isLineBreak quote = false := by
    rcases hquote with rfl | rfl <;> decide
  have hequals : isLineBreak '=' = false := by decide
  simp only [quotedAssignment, List.forall_mem_append, List.forall_mem_cons, List.cons_append]
  exact ⟨hexport, hkey.unbroken, hequals, hquote, hvalue, hquote, by simp⟩

/-- A file of one such line declares one variable. -/
theorem declares_quotedAssignment (hkey : IsAssignable key) (hquote : quote = '\'' ∨ quote = '"')
    (hvalue : ∀ c ∈ value.toList, isLineBreak c = false ∧ c ≠ '\x00' ∧ c ≠ quote)
    (htext : text.toList = quotedAssignment exported key quote value ∨
      ∃ ending, IsLineEnd [] ending ∧
        text.toList = quotedAssignment exported key quote value ++ ending) :
    Declares text [(key, betweenQuotes quote value)] := by
  have hline : ∀ c ∈ quotedAssignment exported key quote value, isLineBreak c = false :=
    quotedAssignment_unbroken hkey hquote fun c hc => (hvalue c hc).1
  have hdeclares : LineDeclares (quotedAssignment exported key quote value)
      (key, betweenQuotes quote value) :=
    lineDeclares_quotedAssignment hkey hquote fun hmem => (hvalue quote hmem).2.2 rfl
  refine ⟨[quotedAssignment exported key quote value], ?_, .declares hdeclares .nil⟩
  rcases htext with htext | ⟨ending, hending, htext⟩
  · rw [htext]
    refine .last (fun hempty => ?_) hline
    have hlast : (quotedAssignment exported key quote value).getLast? = some quote :=
      getLast?_quotedAssignment
    rw [hempty] at hlast
    cases hlast
  · have hsplits := SplitsInto.cons hline hending .nil
    rwa [List.append_nil, ← htext] at hsplits

theorem betweenQuotes_eq_self_iff (hquote : quote = '\'' ∨ quote = '"') :
    betweenQuotes quote value = value ↔
      quote = '"' ∨ value.toList.head? ≠ some '"' ∧ value.toList.getLast? ≠ some '"' := by
  rcases hquote with rfl | rfl
  · have hend (end? : Option Char) : (∀ c ∈ end?, (c == '"') = false) ↔ end? ≠ some '"' := by
      cases end? <;> simp
    rw [betweenQuotes, if_neg (by decide), ← String.toList_inj, String.toList_ofList, trimBy_eq_iff,
      isTrimmed_self_iff, hend, hend]
    simp
  · simp [betweenQuotes]

/-- A variable that is not set is loaded from a file of one line that gives it the text between two
quotes. Between double quotes it is this text, whatever blanks, signs and other quotes are in it.
Between single quotes it is this text without the double quotes at its ends, so it is the text itself
just when there are none. -/
theorem load_takes_text_between_quotes_unless_quoted_again (hkey : IsIdentifier key)
    (hunset : env.lookup key = none) (hquote : quote = '\'' ∨ quote = '"')
    (hvalue : ∀ c ∈ value.toList, isLineBreak c = false ∧ c ≠ '\x00' ∧ c ≠ quote)
    (htext : text.toList = quotedAssignment exported key quote value ∨
      ∃ ending, IsLineEnd [] ending ∧
        text.toList = quotedAssignment exported key quote value ++ ending)
    (hfile : files.HasText (env.source path) text) :
    ∃ loaded, env.load files path = (.ok (), env ++ [(key, loaded)]) ∧
      (quote = '\'' → IsTrimmed (· == '"') value.toList loaded.toList) ∧
      (loaded = value ↔
        quote = '"' ∨ value.toList.head? ≠ some '"' ∧ value.toList.getLast? ≠ some '"') := by
  have hassignable := hkey.isAssignable
  have hread : ofText text = [(key, betweenQuotes quote value)] :=
    ofText_eq_iff.2 (declares_quotedAssignment hassignable hquote hvalue htext)
  have hvaluenul : holdsNul (betweenQuotes quote value) = false := by
    have hnul : '\x00' ∉ value.toList := fun hmem => (hvalue '\x00' hmem).2.1 rfl
    rw [← Bool.not_eq_true, holdsNul_iff, betweenQuotes]
    split
    · exact hnul
    · rwa [String.toList_ofList, mem_trimBy_iff (by decide)]
  refine ⟨betweenQuotes quote value, ?_, ?_, betweenQuotes_eq_self_iff hquote⟩
  · rw [load_of_hasText hfile, hread, addAll,
      add_of_unset hunset hassignable.holdsNul_eq_false
      hvaluenul]
    rfl
  · rintro rfl
    rw [betweenQuotes, if_neg (by decide), String.toList_ofList]
    exact isTrimmed_trimBy (· == '"') value.toList

theorem load_takes_text_between_quotes_unless_quoted_again_of_mixed_value :
    let env : Environment := [("DB_USER", "app")]
    let value := " it is \"so\" = #1 "
    let text := "export DB_PASSWORD=' it is \"so\" = #1 '\r\n"
    let files := Files.ofList [(".env", .file text.toUTF8)]
    env.load files ".env" = (.ok (), [("DB_USER", "app"), ("DB_PASSWORD", value)]) := by
  intro env value text files
  have hkey : IsIdentifier "DB_PASSWORD" :=
    ⟨'D', "B_PASSWORD".toList, rfl, .inl (by decide), by simp⟩
  have htext : text.toList = quotedAssignment true "DB_PASSWORD" '\'' value ++ ['\r', '\n'] := by
    decide +kernel
  have hfile : files.HasText (env.source ".env") text := by
    unfold env
    rfl
  have hkept : (value.toList.all fun c => !isLineBreak c && c != '\x00' && c != '\'') = true := by
    decide +kernel
  have hvalue : ∀ c ∈ value.toList, isLineBreak c = false ∧ c ≠ '\x00' ∧ c ≠ '\'' := by
    rw [List.all_eq_true] at hkept
    intro c hc
    simpa [and_assoc] using hkept c hc
  obtain ⟨loaded, hload, -, hsame⟩ := load_takes_text_between_quotes_unless_quoted_again hkey
    (by decide) (.inl rfl) hvalue (.inr ⟨_, .pair, htext⟩) hfile
  rw [hload, hsame.2 (.inr (by decide))]
  rfl

/-- The double quotes at the ends of a value do not stay, though single ones stand around them. -/
theorem load_loses_quotes_between_quotes :
    let files := Files.ofList [(".env", .file "DB_PASSWORD='\"x\"'".toUTF8)]
    load [] files ".env" = (.ok (), [("DB_PASSWORD", "x")]) := by
  intro files
  have htext : files.HasText (source [] ".env") "DB_PASSWORD='\"x\"'" := rfl
  have hread : ofText "DB_PASSWORD='\"x\"'" = [("DB_PASSWORD", "x")] := by decide +kernel
  rw [load_of_hasText htext, hread]
  rfl

end Environment

end SqlBridge

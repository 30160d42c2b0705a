import SqlBridge.Proofs.Environment.Decimal
import SqlBridge.Proofs.Environment.Loading

namespace SqlBridge

open Text

namespace Environment

/-- A name that a line of a file can give a value to. -/
structure IsAssignable (key : String) : Prop where
  ne_empty : key.toList ≠ []
  chars : ∀ c ∈ key.toList, c ≠ '=' ∧ c ≠ '#' ∧ c ≠ '\x00' ∧ isBlank c = false

/-- A character that does not stay at an end of a value: white space and the quotes. -/
def isStripped (c : Char) : Bool :=
  isBlank c || c == '\'' || c == '"'

/-- A value that is read off a line as it was written to it: it does not break the line, and nothing is
stripped off its ends. -/
structure IsPlain (value : String) : Prop where
  unbroken : ∀ c ∈ value.toList, isLineBreak c = false
  first : ∀ c ∈ value.toList.head?, isStripped c = false
  last : ∀ c ∈ value.toList.getLast?, isStripped c = false

instance (value : String) : Decidable (IsPlain value) :=
  decidable_of_iff ((value.toList.all (!isLineBreak ·) && value.toList.head?.all (!isStripped ·) &&
      value.toList.getLast?.all (!isStripped ·)) = true) <| by
    simp only [Bool.and_eq_true, List.all_eq_true, Option.all_eq_true, Bool.not_eq_true', and_assoc]
    exact ⟨fun ⟨hunbroken, hfirst, hlast⟩ => ⟨hunbroken, hfirst, hlast⟩,
      fun ⟨hunbroken, hfirst, hlast⟩ => ⟨hunbroken, hfirst, hlast⟩⟩

theorem isAssignable_of_isUpper {key : String} (hne : key.toList ≠ [])
    (hchars : (key.toList.all fun c => c.isUpper || c == '_') = true) : IsAssignable key := by
  refine ⟨hne, fun c hc => ?_⟩
  have hword := List.all_eq_true.1 hchars c hc
  rw [Bool.or_eq_true, beq_iff_eq] at hword
  rcases hword with hupper | rfl
  · have hrange : 65 ≤ c.toNat ∧ c.toNat ≤ 90 := by
      simpa [Char.isUpper, UInt32.le_iff_toNat_le] using hupper
    have hne {d : Char} (hd : d.toNat < 65) : c ≠ d := by
      rintro rfl
      omega
    refine ⟨hne (by decide), hne (by decide), hne (by decide), ?_⟩
    simp [isBlank]
    omega
  · exact ⟨by decide, by decide, by decide, by decide⟩

theorem IsAssignable.isTrimmed {key : String} (hkey : IsAssignable key) :
    IsTrimmed isBlank key.toList key.toList :=
  isTrimmed_self_iff.2 ⟨fun c hc => (hkey.chars c (List.mem_of_mem_head? hc)).2.2.2,
    fun c hc => (hkey.chars c (List.mem_of_mem_getLast? hc)).2.2.2⟩

theorem IsAssignable.equals_notMem {key : String} (hkey : IsAssignable key) : '=' ∉ key.toList :=
  fun hmem => (hkey.chars '=' hmem).1 rfl

theorem IsAssignable.unbroken {key : String} (hkey : IsAssignable key) :
    ∀ c ∈ key.toList, isLineBreak c = false := by
  refine fun c hc => Bool.eq_false_iff.2 fun hbreak => ?_
  exact absurd (isBlank_of_isLineBreak hbreak) (by simp [(hkey.chars c hc).2.2.2])

theorem IsAssignable.holdsNul_eq_false {key : String} (hkey : IsAssignable key) :
    holdsNul key = false := by
  rw [← Bool.not_eq_true, holdsNul_iff]
  exact fun hmem => (hkey.chars '\x00' hmem).2.2.1 rfl

/-- The line that gives a value to a name. -/
def assignment (key value : String) : String :=
  key ++ "=" ++ value

/-- The text of a file that sets these variables, a line for each. -/
def assignments (vars : List (String × String)) : String :=
  String.join (vars.map fun (key, value) => assignment key value ++ "\n")

theorem toList_assignment (key value : String) :
    (assignment key value).toList = key.toList ++ '=' :: value.toList := by
  simp [assignment]

theorem toList_assignments (vars : List (String × String)) :
    (assignments vars).toList =
      (vars.map fun (key, value) => (assignment key value).toList).flatMap (· ++ ['\n']) := by
  simp [assignments, String.toList_join, List.flatMap_map]

theorem unquote_of_isPlain {value : String} (hvalue : IsPlain value) :
    unquote value.toList = value.toList := by
  have hkept {p : Char → Bool} (hp : ∀ c, isStripped c = false → p c = false) :
      trimBy p value.toList = value.toList :=
    trimBy_eq_self (fun c hc => hp c (hvalue.first c hc)) fun c hc => hp c (hvalue.last c hc)
  simp only [isStripped, Bool.or_eq_false_iff] at hkept
  have hblank : trim value.toList = value.toList := hkept fun c hc => hc.1.1
  rw [unquote, hblank, hkept fun c hc => hc.1.2, hkept fun c hc => hc.2]

/-- A name that holds no blank is not taken for an export. -/
theorem dropExport_append {key : String} (hkey : IsAssignable key) (rest : List Char) :
    dropExport (key.toList ++ '=' :: rest) = key.toList ++ '=' :: rest := by
  generalize hline : key.toList ++ '=' :: rest = line
  unfold dropExport
  split
  · next after =>
    have hkept : ∀ c ∈ key.toList, (c != '=') = true := fun c hc => by simpa using (hkey.chars c hc).1
    have htaken := congrArg (List.takeWhile (· != '=')) hline
    rw [List.takeWhile_append_of_pos hkept] at htaken
    have hspace : ' ' ∈ key.toList := by simp_all
    exact absurd (hkey.chars ' ' hspace).2.2.2 (by decide)
  · rfl

theorem trim_assignment {key value : String} (hkey : IsAssignable key) (hvalue : IsPlain value) :
    trim (assignment key value).toList = (assignment key value).toList := by
  rw [toList_assignment]
  refine trimBy_eq_self ?_ ?_
  · intro c hc
    rw [List.head?_append_of_ne_nil _ hkey.ne_empty] at hc
    exact (hkey.chars c (List.mem_of_head? hc)).2.2.2
  · intro c hc
    rw [List.getLast?_append_of_ne_nil _ (List.cons_ne_nil _ _)] at hc
    cases hlast : value.toList.getLast? with
    | none =>
      rw [List.getLast?_cons, hlast] at hc
      obtain rfl := Option.some.inj hc
      decide
    | some last =>
      rw [List.getLast?_cons, hlast] at hc
      obtain rfl := Option.some.inj hc
      have hstays := hvalue.last _ hlast
      simp only [isStripped, Bool.or_eq_false_iff] at hstays
      exact hstays.1.1

/-- A line gives back the name and the value that it was written for. -/
theorem ofLine?_assignment {key value : String} (hkey : IsAssignable key) (hvalue : IsPlain value) :
    ofLine? (assignment key value).toList = some (key, value) := by
  have hcomment : (assignment key value).toList.head? ≠ some '#' := by
    rw [toList_assignment, List.head?_append_of_ne_nil _ hkey.ne_empty]
    exact fun hhead => (hkey.chars '#' (List.mem_of_head? hhead)).2.1 rfl
  have hassigned : dropExport (assignment key value).toList = key.toList ++ '=' :: value.toList := by
    rw [toList_assignment, dropExport_append hkey]
  have hkept : trim key.toList = key.toList := trimBy_eq_iff.2 hkey.isTrimmed
  rw [ofLine?_of_assigned (trim_assignment hkey hvalue) hcomment hassigned hkey.equals_notMem, hkept,
    if_neg hkey.ne_empty, unquote_of_isPlain hvalue, String.ofList_toList, String.ofList_toList]

/-- Variables that can be set by lines. -/
structure AreAssignable (vars : List (String × String)) : Prop where
  keys : ∀ entry ∈ vars, IsAssignable entry.1
  values : ∀ entry ∈ vars, IsPlain entry.2 ∧ holdsNul entry.2 = false
  nodup : (vars.map Prod.fst).Nodup

variable {vars : List (String × String)}

theorem assignment_unbroken {key value : String} (hkey : IsAssignable key) (hvalue : IsPlain value) :
    ∀ c ∈ (assignment key value).toList, isLineBreak c = false := by
  intro c hc
  rw [toList_assignment, List.mem_append, List.mem_cons] at hc
  rcases hc with hc | rfl | hc
  · exact hkey.unbroken c hc
  · decide
  · exact hvalue.unbroken c hc

theorem lines_assignments (hvars : AreAssignable vars) {text : String}
    (htext : text = assignments vars ∨ text ++ "\n" = assignments vars) :
    lines text.toList = vars.map fun (key, value) => (assignment key value).toList := by
  have hunbroken : ∀ line ∈ vars.map fun (key, value) => (assignment key value).toList,
      ∀ c ∈ line, isLineBreak c = false := by
    intro line hline
    obtain ⟨entry, hentry, rfl⟩ := List.mem_map.1 hline
    exact assignment_unbroken (hvars.keys entry hentry) (hvars.values entry hentry).1
  rcases htext with rfl | htext
  · have hlines := lines_flatMap_append hunbroken []
    rw [List.append_nil, lines, List.append_nil] at hlines
    rw [toList_assignments, hlines]
  · have hlist := congrArg String.toList htext
    rw [toList_assignments] at hlist
    -- Only the last line can lack its end, and there is one: without variables the text would be empty.
    rcases List.eq_nil_or_concat' vars with rfl | ⟨init, ⟨key, value⟩, rfl⟩
    · simp at hlist
    · rw [List.map_append, List.forall_mem_append] at hunbroken
      obtain ⟨hinit, hlast⟩ := hunbroken
      have htext : text.toList =
          (init.map fun (key, value) => (assignment key value).toList).flatMap (· ++ ['\n']) ++
            (assignment key value).toList := by
        simpa [← List.append_assoc] using hlist
      rw [htext, lines_flatMap_append hinit, lines_eq_singleton (hlast _ (by simp)), List.map_append]
      · rfl
      · simp [toList_assignment]

/-- A file sets the variables that its lines were written for. Its last line may lack its end. -/
theorem ofText_assignments (hvars : AreAssignable vars) {text : String}
    (htext : text = assignments vars ∨ text ++ "\n" = assignments vars) : ofText text = vars := by
  rw [ofText, lines_assignments hvars htext, List.filterMap_map]
  have hread : ∀ entry ∈ vars,
      (ofLine? ∘ fun (key, value) => (assignment key value).toList) entry = some entry :=
    fun entry hentry => ofLine?_assignment (hvars.keys entry hentry) (hvars.values entry hentry).1
  rw [List.filterMap_congr hread, List.filterMap_some]

theorem add_of_unset {env : Environment} {key value : String} (hunset : env.lookup key = none)
    (hkey : holdsNul key = false) (hvalue : holdsNul value = false) :
    env.add key value = .ok (env ++ [(key, value)]) := by
  rw [add, hunset, hkey, hvalue]
  rfl

/-- Variables that are not set yet, each given once, are all added. -/
theorem addAll_of_nodup (env : Environment) (hnuls : ∀ entry ∈ vars, holdsNul entry.1 = false ∧
    holdsNul entry.2 = false) (hnodup : ((env ++ vars).map Prod.fst).Nodup) :
    env.addAll vars = (.ok (), env ++ vars) := by
  induction vars generalizing env with
  | nil => rw [addAll, List.append_nil]
  | cons entry vars ih =>
    obtain ⟨key, value⟩ := entry
    obtain ⟨⟨hkey, hvalue⟩, hnuls⟩ := List.forall_mem_cons.1 hnuls
    have hunset : env.lookup key = none := by
      rw [List.lookup_eq_none_iff]
      rintro ⟨other, _⟩ hother
      rw [List.map_append, List.map_cons, List.nodup_append] at hnodup
      have hne := hnodup.2.2 other (List.mem_map_of_mem hother) key (by simp)
      simpa using hne.symm
    have hsplit : env ++ (key, value) :: vars = env ++ [(key, value)] ++ vars := by simp
    rw [hsplit] at hnodup ⊢
    rw [addAll, add_of_unset hunset hkey hvalue]
    exact ih _ hnuls hnodup

theorem AreAssignable.addAll (hvars : AreAssignable vars) :
    Environment.addAll [] vars = (.ok (), vars) :=
  addAll_of_nodup [] (fun entry hentry => ⟨(hvars.keys entry hentry).holdsNul_eq_false,
    (hvars.values entry hentry).2⟩) hvars.nodup

end Environment

end SqlBridge

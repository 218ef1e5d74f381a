import EscrowLedger.Proofs.Command.Submission
import EscrowLedger.Proofs.Results
import Mathlib.Data.List.Basic

/-!
# What options say

The value of an option can be found in the arguments without reading them in order: it is what
follows the last argument that names the option, or what stands behind the equals sign in it. No
other argument matters, and it does not matter whether the option stands before the name of the
action or after it. Values that look like options are refused, so the value of one option is never
taken for another option.

## Main definitions

* `Command.given`, `Command.isFlagged` — the value that arguments give to an option, and whether a
  flag is among them.
* `Command.Reads` — how arguments are read, one by one.
* `Artifact.optionName` — the option that gives an artifact.

## Main statements

* `Command.reads_of_readArguments` — the reader reads arguments in this way.
* `Command.Reads.given_eq`, `Command.Reads.isFlagged_iff` — what is read is what the arguments say.
* `Command.parse_advance` — the request of a command line that advances a job.
-/

namespace EscrowLedger

/-- The name of the option that gives an artifact. -/
def Artifact.optionName : Artifact → String
  | .sessionKey => "session-key"
  | .exportAuthData => "export-auth"
  | .importAuthData => "import-auth"
  | .publicKey => "public-key"
  | .privateKey => "private-key"

namespace Command

/-- The value behind the equals sign of an argument that names an option. -/
def joinedValue? (name arg : String) : Option String :=
  (("--" ++ name ++ "=").toList.isPrefixOf? arg.toList).map String.ofList

/-- The value that arguments give to an option; of several values the last one counts. -/
def given (name : String) : List String → Option String
  | [] => none
  | arg :: rest =>
    if arg = "--" then none
    else (given name rest).or (if arg = "--" ++ name then rest.head? else joinedValue? name arg)

/-- Whether arguments have a flag. -/
def isFlagged (name : String) (args : List String) : Prop :=
  "--" ++ name ∈ args.takeWhile (· ≠ "--")

/-- Whether a text can be the name of an option. -/
structure IsOptionName (name : String) : Prop where
  ne_empty : name ≠ ""
  not_mem : '=' ∉ name.toList

/-- Whether an argument starts with two hyphens. -/
def IsLong (arg : String) : Prop := ['-', '-'] <+: arg.toList

-- ════════════════════════════════════════════════════════════════════════
-- What a single argument says
-- ════════════════════════════════════════════════════════════════════════

section Arguments

variable {name other value arg : String} {rest : List String}

theorem toList_long (name : String) : ("--" ++ name).toList = '-' :: '-' :: name.toList := by
  rw [String.toList_append]
  rfl

theorem toList_joined (name value : String) :
    ("--" ++ name ++ "=" ++ value).toList = '-' :: '-' :: (name.toList ++ '=' :: value.toList) := by
  simp [String.toList_append]

theorem isLong_long (name : String) : IsLong ("--" ++ name) :=
  ⟨name.toList, (toList_long name).symm⟩

theorem long_inj : "--" ++ name = "--" ++ other ↔ name = other := by
  rw [← String.toList_inj, toList_long, toList_long, List.cons_inj_right, List.cons_inj_right,
    String.toList_inj]

theorem IsOptionName.long_ne (h : IsOptionName name) : "--" ++ name ≠ "--" := by
  intro heq
  rw [← String.append_empty (s := "--"), String.append_assoc, long_inj] at heq
  exact h.ne_empty (by simpa using heq)

theorem joinedValue?_eq_some_iff :
    joinedValue? name arg = some value ↔ arg = "--" ++ name ++ "=" ++ value := by
  simp only [joinedValue?, Option.map_eq_some_iff, List.isPrefixOf?_eq_some_iff_append_eq]
  constructor
  · rintro ⟨cs, hcs, rfl⟩
    rw [← String.toList_inj, String.toList_append, String.toList_ofList, hcs]
  · rintro rfl
    exact ⟨value.toList, String.toList_append.symm, String.ofList_toList⟩

/-- The first equals sign ends the name of an option. -/
theorem takeWhile_ne_equals {cs : List Char} (hname : '=' ∉ cs) (rest : List Char) :
    (cs ++ '=' :: rest).takeWhile (· ≠ '=') = cs := by
  rw [List.takeWhile_append_of_pos, List.takeWhile_cons_of_neg (by simp), List.append_nil]
  intro c hc
  rw [decide_eq_true_eq]
  rintro rfl
  exact hname hc

theorem joined_inj {value' : String} (hname : '=' ∉ name.toList) (hother : '=' ∉ other.toList) :
    "--" ++ name ++ "=" ++ value = "--" ++ other ++ "=" ++ value'
      ↔ name = other ∧ value = value' := by
  constructor
  · intro heq
    rw [← String.toList_inj, toList_joined, toList_joined, List.cons_inj_right,
      List.cons_inj_right] at heq
    have hsame := congrArg (List.takeWhile (· ≠ '=')) heq
    rw [takeWhile_ne_equals hname, takeWhile_ne_equals hother, String.toList_inj] at hsame
    subst hsame
    have hvalue : value.toList = value'.toList := by
      simpa only [List.append_cancel_left_eq, List.cons.injEq, true_and] using heq
    exact ⟨rfl, String.toList_inj.1 hvalue⟩
  · rintro ⟨rfl, rfl⟩
    rfl

theorem long_ne_joined (hother : '=' ∉ other.toList) :
    "--" ++ other ≠ "--" ++ name ++ "=" ++ value := by
  rw [ne_eq, ← String.toList_inj, toList_long, toList_joined, List.cons_inj_right,
    List.cons_inj_right]
  intro heq
  rw [heq] at hother
  exact hother (by simp)

theorem joinedValue?_joined (hname : '=' ∉ name.toList) (hother : '=' ∉ other.toList) :
    joinedValue? name ("--" ++ other ++ "=" ++ value)
      = if other = name then some value else none := by
  refine Option.ext fun v => ?_
  rw [joinedValue?_eq_some_iff, joined_inj hother hname]
  split <;> simp_all

theorem joinedValue?_long (hother : '=' ∉ other.toList) :
    joinedValue? name ("--" ++ other) = none := by
  refine Option.eq_none_iff_forall_ne_some.2 fun v hv => ?_
  exact long_ne_joined hother (joinedValue?_eq_some_iff.1 hv)

theorem joinedValue?_of_not_isLong (harg : ¬IsLong arg) : joinedValue? name arg = none := by
  refine Option.eq_none_iff_forall_ne_some.2 fun v hv => harg ?_
  rw [joinedValue?_eq_some_iff.1 hv, IsLong, toList_joined]
  exact ⟨_, rfl⟩

theorem ne_long_of_not_isLong (harg : ¬IsLong arg) : arg ≠ "--" ++ name := by
  rintro rfl
  exact harg (isLong_long name)

theorem ne_hyphens_of_not_isLong (harg : ¬IsLong arg) : arg ≠ "--" := by
  rintro rfl
  exact harg (List.prefix_refl _)

theorem joined_ne_hyphens : "--" ++ name ++ "=" ++ value ≠ "--" := by
  rw [ne_eq, ← String.toList_inj, toList_joined]
  simp

theorem not_isLong_of_looksLikeOption (h : looksLikeOption arg = false) : ¬IsLong arg := by
  rintro ⟨cs, hcs⟩
  have hhead : arg.toList.head? = some '-' := by rw [← hcs]; rfl
  have hne : arg ≠ "-" := by
    rintro rfl
    cases hcs
  rw [looksLikeOption, hhead, decide_eq_true hne] at h
  cases h

-- ════════════════════════════════════════════════════════════════════════
-- What arguments say
-- ════════════════════════════════════════════════════════════════════════

theorem given_of_not_isLong (harg : ¬IsLong arg) : given name (arg :: rest) = given name rest := by
  rw [given, if_neg (ne_hyphens_of_not_isLong harg), if_neg (ne_long_of_not_isLong harg),
    joinedValue?_of_not_isLong harg, Option.or_none]

theorem given_joined (hname : '=' ∉ name.toList) (hother : '=' ∉ other.toList) :
    given name (("--" ++ other ++ "=" ++ value) :: rest)
      = (given name rest).or (if other = name then some value else none) := by
  rw [given, if_neg joined_ne_hyphens, if_neg (long_ne_joined hname).symm,
    joinedValue?_joined hname hother]

theorem given_flag (hother : IsOptionName other) (hne : other ≠ name) :
    given name (("--" ++ other) :: rest) = given name rest := by
  rw [given, if_neg hother.long_ne, if_neg (mt long_inj.1 hne), joinedValue?_long hother.not_mem,
    Option.or_none]

theorem given_spaced (hother : IsOptionName other) (hvalue : ¬IsLong value) :
    given name (("--" ++ other) :: value :: rest)
      = (given name rest).or (if other = name then some value else none) := by
  rw [given, if_neg hother.long_ne, given_of_not_isLong hvalue, joinedValue?_long hother.not_mem,
    List.head?_cons]
  simp only [long_inj]

theorem isFlagged_cons_iff : isFlagged name (arg :: rest) ↔
    arg ≠ "--" ∧ (arg = "--" ++ name ∨ isFlagged name rest) := by
  rw [isFlagged, isFlagged, List.takeWhile_cons]
  by_cases harg : arg = "--"
  · simp [harg]
  · simp [harg, eq_comm]

theorem not_isFlagged_nil : ¬isFlagged name [] := List.not_mem_nil

theorem not_isFlagged_hyphens : ¬isFlagged name ("--" :: rest) :=
  fun h => (isFlagged_cons_iff.1 h).1 rfl

theorem isFlagged_of_not_isLong (harg : ¬IsLong arg) :
    isFlagged name (arg :: rest) ↔ isFlagged name rest := by
  rw [isFlagged_cons_iff, and_iff_right (ne_hyphens_of_not_isLong harg),
    or_iff_right (ne_long_of_not_isLong harg)]

theorem isFlagged_joined (hname : '=' ∉ name.toList) :
    isFlagged name (("--" ++ other ++ "=" ++ value) :: rest) ↔ isFlagged name rest := by
  rw [isFlagged_cons_iff, and_iff_right joined_ne_hyphens, or_iff_right (long_ne_joined hname).symm]

theorem isFlagged_long (hother : IsOptionName other) :
    isFlagged name (("--" ++ other) :: rest) ↔ other = name ∨ isFlagged name rest := by
  rw [isFlagged_cons_iff, and_iff_right hother.long_ne, long_inj]

end Arguments

-- ════════════════════════════════════════════════════════════════════════
-- How arguments are read
-- ════════════════════════════════════════════════════════════════════════

/-- How arguments are read: what had been read before them, and what has been read in the end, with
the name of the action and what follows it, where an action is named. -/
inductive Reads (grammar : Grammar) :
    Given → List String → Given → Option (String × List String) → Prop
  | done {g : Given} : Reads grammar g [] g none
  /-- After two hyphens there are no options. -/
  | ended {g : Given} {rest positionals : List String} :
    Reads grammar g ("--" :: rest) { g with positionals } none
  | flag {g g' : Given} {name : String} {rest : List String} {tail : Option (String × List String)}
      (hname : IsOptionName name) (hflag : name ∈ grammar.flags)
      (h : Reads grammar { g with flags := name :: g.flags } rest g' tail) :
    Reads grammar g (("--" ++ name) :: rest) g' tail
  | joined {g g' : Given} {name value : String} {rest : List String}
      {tail : Option (String × List String)} (hname : '=' ∉ name.toList)
      (hvalue : name ∈ grammar.values) (h : Reads grammar (g.addValue name value) rest g' tail) :
    Reads grammar g (("--" ++ name ++ "=" ++ value) :: rest) g' tail
  | spaced {g g' : Given} {name value : String} {rest : List String}
      {tail : Option (String × List String)} (hname : IsOptionName name)
      (hvalue : name ∈ grammar.values) (hlong : ¬IsLong value)
      (h : Reads grammar (g.addValue name value) rest g' tail) :
    Reads grammar g (("--" ++ name) :: value :: rest) g' tail
  /-- Letters, of which one stands for a flag, and arguments that are no options. -/
  | other {g read g' : Given} {arg : String} {rest : List String}
      {tail : Option (String × List String)} (hlong : ¬IsLong arg)
      (hvalues : read.values = g.values)
      (hflags : ∀ name ≠ "verbose", name ∈ read.flags ↔ name ∈ g.flags)
      (h : Reads grammar read rest g' tail) :
    Reads grammar g (arg :: rest) g' tail
  | action {g : Given} {arg : String} {rest : List String} (hnames : grammar.namesAction = true)
      (hlong : ¬IsLong arg) :
    Reads grammar g (arg :: rest) g (some (arg, rest))

variable {grammar : Grammar} {g g' : Given} {name : String} {args rest : List String}
  {tail : Option (String × List String)}

theorem eq_of_settle (h : g.settle = .ok g') : g = g' := by
  rw [Given.settle] at h
  split at h
  · exact Except.ok.inj h
  · cases h

theorem eq_of_addFlag (h : g.addFlag name = .ok g') : g' = { g with flags := name :: g.flags } := by
  rw [Given.addFlag] at h
  split at h
  · cases h
  · exact (Except.ok.inj h).symm

/-- An option is its name and, behind an equals sign, its value. -/
theorem splitOption_spec (cs : List Char) : '=' ∉ (splitOption cs).1.toList ∧
    cs = (splitOption cs).1.toList
      ++ (splitOption cs).2.elim [] fun value => '=' :: value.toList := by
  have hsplit : cs.takeWhile (· ≠ '=') ++ cs.dropWhile (· ≠ '=') = cs :=
    List.takeWhile_append_dropWhile
  have hname : '=' ∉ cs.takeWhile (· ≠ '=') := by
    intro hmem
    simpa using List.all_eq_true.1 (List.all_takeWhile (p := (· ≠ '=')) (l := cs)) _ hmem
  have hhead := List.head?_dropWhile_not (· ≠ '=') cs
  rw [splitOption]
  split
  · next c value hdrop =>
    rw [hdrop] at hsplit hhead
    obtain rfl : c = '=' := by simpa using hhead
    refine ⟨by rwa [String.toList_ofList], ?_⟩
    rw [String.toList_ofList, Option.elim_some, String.toList_ofList, hsplit]
  · next hdrop =>
    rw [hdrop, List.append_nil] at hsplit
    rw [hsplit] at hname
    refine ⟨by rwa [String.toList_ofList], ?_⟩
    rw [String.toList_ofList, Option.elim_none, List.append_nil]

theorem readFlag_cases {value : Option String} {result : Option Given}
    (h : readFlag grammar g name value = .ok result) :
    (name ∈ grammar.flags ∧ value = none ∧ result = some { g with flags := name :: g.flags }) ∨
      (name ∈ grammar.values ∧ result = none) := by
  rw [readFlag] at h
  split at h
  · next hflag =>
    left
    simp only [Except.guard_eq_ok_iff] at h
    obtain ⟨hvalue, hhelp, hversion, h⟩ := h
    obtain ⟨read, hread, h⟩ := Except.bind_eq_ok_iff.1 h
    obtain rfl := eq_of_addFlag hread
    have hnone : value = none := by simpa using hvalue
    have hmem : name ∈ grammar.flags := by
      rw [Bool.or_eq_true] at hflag
      exact List.contains_iff_mem.1 (hflag.resolve_left hversion)
    exact ⟨hmem, hnone, (Except.ok.inj h).symm⟩
  · split at h
    · next hvalue =>
      cases h
      exact Or.inr ⟨by simpa using hvalue, rfl⟩
    · cases h

theorem readLetters_keeps {cs : List Char} (h : readLetters grammar g cs = .ok g') :
    g'.values = g.values ∧ ∀ name ≠ "verbose", name ∈ g'.flags ↔ name ∈ g.flags := by
  induction cs generalizing g with
  | nil =>
    cases h
    exact ⟨rfl, fun _ _ => Iff.rfl⟩
  | cons c cs ih =>
    rw [readLetters] at h
    simp only [Except.guard_eq_ok_iff] at h
    obtain ⟨-, -, -, h⟩ := h
    obtain ⟨read, hread, h⟩ := Except.bind_eq_ok_iff.1 h
    obtain rfl := eq_of_addFlag hread
    obtain ⟨hvalues, hflags⟩ := ih h
    refine ⟨hvalues, fun name hname => ?_⟩
    rw [hflags name hname, List.mem_cons, or_iff_right hname]

theorem readPositional_keeps {arg : String} (h : readPositional grammar g arg = .ok g') :
    ∃ positionals, g' = { g with positionals } := by
  rw [readPositional] at h
  split at h
  · cases h
    exact ⟨_, rfl⟩
  · cases h

theorem readArguments_true (h : readArguments grammar true g args = .ok (g', tail)) :
    tail = none ∧ ∃ positionals, g' = { g with positionals } := by
  induction args generalizing g with
  | nil =>
    obtain ⟨rfl, rfl⟩ := Prod.mk.inj (Except.ok.inj h)
    exact ⟨rfl, _, rfl⟩
  | cons arg rest ih =>
    obtain ⟨read, hread, h⟩ := Except.bind_eq_ok_iff.1 h
    obtain ⟨_, rfl⟩ := readPositional_keeps hread
    obtain ⟨htail, positionals, rfl⟩ := ih h
    exact ⟨htail, positionals, rfl⟩

/-- An argument that starts with two hyphens is an option, with its name and its value. -/
theorem eq_of_toList_long {arg : String} {cs : List Char} (h : arg.toList = '-' :: '-' :: cs) :
    arg = match (splitOption cs).2 with
      | none => "--" ++ (splitOption cs).1
      | some value => "--" ++ (splitOption cs).1 ++ "=" ++ value := by
  obtain ⟨-, hcs⟩ := splitOption_spec cs
  rw [← String.toList_inj, h]
  cases hvalue : (splitOption cs).2 with
  | none =>
    rw [hvalue, Option.elim_none, List.append_nil] at hcs
    rw [toList_long, ← hcs]
  | some value =>
    rw [hvalue, Option.elim_some] at hcs
    rw [toList_joined, ← hcs]

/-- The reader reads arguments one by one. -/
theorem reads_of_readArguments (args : List String) : ∀ {g : Given},
    readArguments grammar false g args = .ok (g', tail) → Reads grammar g args g' tail := by
  match args with
  | [] =>
    intro g h
    obtain ⟨rfl, rfl⟩ := Prod.mk.inj (Except.ok.inj h)
    exact .done
  | arg :: rest =>
    intro g h
    rw [readArguments] at h
    split at h
    · next hchars =>
      obtain rfl : arg = "--" := String.toList_inj.1 hchars
      obtain ⟨rfl, positionals, rfl⟩ := readArguments_true h
      exact .ended
    · next cs hne hchars =>
      obtain ⟨read, hread, h⟩ := Except.bind_eq_ok_iff.1 h
      obtain rfl := eq_of_settle hread
      have harg := eq_of_toList_long hchars
      obtain ⟨hname, hcs⟩ := splitOption_spec cs
      generalize splitOption cs = split at h harg hname hcs
      obtain ⟨name, value⟩ := split
      have hempty : value = none → name ≠ "" := by
        rintro rfl rfl
        exact hne hcs
      obtain ⟨result, hresult, h⟩ := Except.bind_eq_ok_iff.1 h
      rcases readFlag_cases hresult with ⟨hflag, rfl, rfl⟩ | ⟨hvalues, rfl⟩
      · obtain rfl : arg = "--" ++ name := harg
        exact .flag ⟨hempty rfl, hname⟩ hflag (reads_of_readArguments rest h)
      · cases value with
        | some value =>
          obtain rfl : arg = "--" ++ name ++ "=" ++ value := harg
          obtain ⟨read, hread, h⟩ := Except.bind_eq_ok_iff.1 h
          obtain rfl := eq_of_settle hread
          exact .joined hname hvalues (reads_of_readArguments rest h)
        | none =>
          obtain rfl : arg = "--" ++ name := harg
          match rest with
          | [] => cases h
          | value :: rest =>
            -- The next argument is refused as a value if it looks like an option itself.
            obtain ⟨hvalue, h⟩ := Except.guard_eq_ok_iff.1 h
            have hlong := not_isLong_of_looksLikeOption (Bool.eq_false_iff.2 hvalue)
            exact .spaced ⟨hempty rfl, hname⟩ hvalues hlong (reads_of_readArguments rest h)
    · next c letters hne hhyphen hchars =>
      obtain ⟨read, hread, h⟩ := Except.bind_eq_ok_iff.1 h
      obtain rfl := eq_of_settle hread
      obtain ⟨read, hread, h⟩ := Except.bind_eq_ok_iff.1 h
      obtain ⟨hvalues, hflags⟩ := readLetters_keeps hread
      have hlong : ¬IsLong arg := by
        rintro ⟨cs, hcs⟩
        rw [hchars] at hcs
        cases hcs
        exact hhyphen rfl
      exact .other hlong hvalues hflags (reads_of_readArguments rest h)
    · next hhyphens hlong hshort =>
      have hlong : ¬IsLong arg := by
        rintro ⟨cs, hcs⟩
        exact hlong cs hcs.symm
      split at h
      · next hnames =>
        obtain ⟨rfl, rfl⟩ := Prod.mk.inj (Except.ok.inj h)
        exact .action hnames hlong
      · obtain ⟨read, hread, h⟩ := Except.bind_eq_ok_iff.1 h
        obtain ⟨positionals, rfl⟩ := readPositional_keeps hread
        have hrest := reads_of_readArguments rest h
        refine .other hlong ?_ ?_ hrest
        · rfl
        · exact fun _ _ => Iff.rfl

-- ════════════════════════════════════════════════════════════════════════
-- What is read
-- ════════════════════════════════════════════════════════════════════════

/-- The arguments that are still to be read. -/
def remaining : Option (String × List String) → List String
  | none => []
  | some (_, rest) => rest

theorem value?_addValue (g : Given) (other value : String) : (g.addValue other value).value? name
    = (if other = name then some value else none).or (g.value? name) := by
  rw [Given.value?, Given.addValue, List.lookup_cons]
  by_cases hname : name = other
  · subst hname
    rw [beq_self_eq_true, if_pos rfl, Option.some_or]
  · rw [beq_false_of_ne hname, if_neg (Ne.symm hname), Option.none_or]
    rfl

theorem Reads.tail_eq_none (h : Reads grammar g args g' tail)
    (hnames : grammar.namesAction = false) : tail = none := by
  induction h with
  | done | ended => rfl
  | flag _ _ _ ih | joined _ _ _ ih | spaced _ _ _ _ ih | other _ _ _ _ ih => exact ih
  | action htrue => exact absurd (hnames.symm.trans htrue) Bool.false_ne_true

/-- Reading does not change what an option is given in the end. -/
theorem Reads.given_eq (h : Reads grammar g args g' tail) (hname : '=' ∉ name.toList)
    (hflags : name ∉ grammar.flags) :
    (given name args).or (g.value? name) = (given name (remaining tail)).or (g'.value? name) := by
  induction h with
  | done => rfl
  | ended => rfl
  | flag hother hflag h ih =>
    have hne : _ ≠ name := fun heq => hflags (heq ▸ hflag)
    rw [given_flag hother hne, ← ih]
    rfl
  | joined hother hvalue h ih =>
    rw [given_joined hname hother, Option.or_assoc, ← value?_addValue, ih]
  | spaced hother hvalue hlong h ih =>
    rw [given_spaced hother hlong, Option.or_assoc, ← value?_addValue, ih]
  | other hlong hvalues hflags' h ih =>
    rw [given_of_not_isLong hlong, ← ih, Given.value?, Given.value?, hvalues]
  | action hnames hlong => rw [given_of_not_isLong hlong, remaining]

theorem Reads.value?_eq_none (h : Reads grammar g args g' tail) (hvalues : name ∉ grammar.values)
    (hnone : g.value? name = none) : g'.value? name = none := by
  induction h with
  | done | ended | action => exact hnone
  | flag hother hflag h ih => exact ih hnone
  | joined hother hvalue h ih | spaced hother hvalue hlong h ih =>
    refine ih ?_
    rw [value?_addValue, if_neg, hnone]
    · rfl
    · rintro rfl
      exact hvalues hvalue
  | other hlong hvalues' hflags h ih =>
    refine ih ?_
    rw [Given.value?, hvalues']
    exact hnone

/-- Reading does not change whether a flag is there in the end. -/
theorem Reads.isFlagged_iff (h : Reads grammar g args g' tail) (hname : IsOptionName name)
    (hvalues : name ∉ grammar.values) (hverbose : name ≠ "verbose") :
    isFlagged name args ∨ name ∈ g.flags ↔ isFlagged name (remaining tail) ∨ name ∈ g'.flags := by
  induction h with
  | done => exact Iff.rfl
  | ended => rw [remaining, or_iff_right not_isFlagged_hyphens, or_iff_right not_isFlagged_nil]
  | flag hother hflag h ih =>
    rw [isFlagged_long hother, ← ih, List.mem_cons, eq_comm (a := name)]
    exact or_assoc.trans or_left_comm
  | joined hother hvalue h ih =>
    rw [isFlagged_joined hname.not_mem]
    exact ih
  | spaced hother hvalue hlong h ih =>
    have hne : _ ≠ name := fun heq => hvalues (heq ▸ hvalue)
    rw [isFlagged_long hother, or_iff_right hne, isFlagged_of_not_isLong hlong]
    exact ih
  | other hlong hvalues hflags h ih =>
    rw [isFlagged_of_not_isLong hlong, ← ih, hflags name hverbose]
  | action hnames hlong => rw [isFlagged_of_not_isLong hlong, remaining]

-- ════════════════════════════════════════════════════════════════════════
-- Command lines that advance a job
-- ════════════════════════════════════════════════════════════════════════

theorem reads_of_readAction {values : List String} {positionals : Nat}
    (h : readAction values positionals args = .ok g) :
    Reads ⟨"store" :: values, commonFlags, false, positionals⟩ .none args g none := by
  obtain ⟨⟨read, tail⟩, hread, h⟩ := Except.bind_eq_ok_iff.1 h
  obtain rfl := eq_of_settle h
  have hreads := reads_of_readArguments args hread
  obtain rfl := hreads.tail_eq_none rfl
  exact hreads

theorem parse_cases {r : Request} (h : parse args = .ok r) : ∃ top name rest g,
    Reads topGrammar .none args top (some (name, rest)) ∧ action name rest = .ok (r.action, g) ∧
      r.store = (g.value? "store").or (top.value? "store") ∧
      (r.forwardOnly = true ↔ "forward-only" ∈ top.flags ∨ "forward-only" ∈ g.flags) := by
  obtain ⟨⟨top, named⟩, hread, h⟩ := Except.bind_eq_ok_iff.1 h
  cases named with
  | none => cases h
  | some named =>
    obtain ⟨name, rest⟩ := named
    obtain ⟨⟨act, g⟩, haction, h⟩ := Except.bind_eq_ok_iff.1 h
    obtain ⟨settled, hsettle, h⟩ := Except.bind_eq_ok_iff.1 h
    obtain rfl := eq_of_settle hsettle
    obtain rfl := Except.ok.inj h
    refine ⟨top, name, rest, g, reads_of_readArguments args hread, haction, rfl, ?_⟩
    simp

/-- The options that belong to an advance only. -/
def advanceValues : List String :=
  ["stage", "session-key", "public-key", "private-key", "export-auth", "import-auth"]

theorem action_advance {id : JobId} {a : Advance} (h : action name args = .ok (.advance id a, g)) :
    readAction advanceValues 1 args = .ok g ∧ (g.value? "stage").bind stage? = some a.stage ∧
      ∀ x, a.text x = g.value? x.optionName := by
  unfold action at h
  split at h
  · obtain ⟨_, -, h⟩ := Except.bind_eq_ok_iff.1 h
    obtain ⟨_, -, h⟩ := Except.bind_eq_ok_iff.1 h
    obtain ⟨_, -, h⟩ := Except.bind_eq_ok_iff.1 h
    obtain ⟨_, -, h⟩ := Except.bind_eq_ok_iff.1 h
    cases h
  · obtain ⟨_, -, h⟩ := Except.bind_eq_ok_iff.1 h
    obtain ⟨_, -, h⟩ := Except.bind_eq_ok_iff.1 h
    cases h
  · obtain ⟨read, hread, h⟩ := Except.bind_eq_ok_iff.1 h
    obtain ⟨id', -, h⟩ := Except.bind_eq_ok_iff.1 h
    obtain ⟨stageName, hname, h⟩ := Except.bind_eq_ok_iff.1 h
    split at h
    · cases h
    · next stage hstage =>
      obtain ⟨haction, rfl⟩ := Prod.mk.inj (Except.ok.inj h)
      obtain ⟨rfl, rfl⟩ := Action.advance.inj haction
      have hvalue : read.value? "stage" = some stageName := by
        rw [Given.demand] at hname
        split at hname
        · next v hv => rw [hv, Except.ok.inj hname]
        · cases hname
      refine ⟨hread, ?_, fun x => ?_⟩
      · rw [hvalue, Option.bind_some, hstage]
      · cases x <;> rfl
  · obtain ⟨_, -, h⟩ := Except.bind_eq_ok_iff.1 h
    cases h
  · split at h
    · cases h
    · cases h
    · cases h
  · cases h

/-- What a command line that advances a job says: all options can be found in its arguments. -/
theorem parse_advance {r : Request} (h : parse args = .ok r) {id : JobId} {a : Advance}
    (haction : r.action = .advance id a) :
    r.store = given "store" args ∧ (r.forwardOnly = true ↔ isFlagged "forward-only" args) ∧
      (given "stage" args).bind stage? = some a.stage ∧
      ∀ x, a.toSubmission.get x = given x.optionName args := by
  obtain ⟨top, name, rest, g, htop, hact, hstore, hforward⟩ := parse_cases h
  rw [haction] at hact
  obtain ⟨hread, hstage, htext⟩ := action_advance hact
  have hreads := reads_of_readAction hread
  have hgiven : ∀ {option : String}, '=' ∉ option.toList → option ∉ commonFlags →
      given option args = (g.value? option).or (top.value? option) := by
    intro option hequals hflags
    have hfirst : given option args = (given option rest).or (top.value? option) :=
      (Option.or_none).symm.trans (htop.given_eq hequals hflags)
    have hrest : given option rest = g.value? option :=
      (Option.or_none).symm.trans (hreads.given_eq hequals hflags)
    rw [hfirst, hrest]
  have hown : ∀ {option : String}, '=' ∉ option.toList → option ∉ commonFlags →
      option ≠ "store" → g.value? option = given option args := by
    intro option hequals hflags hne
    have hother : option ∉ topGrammar.values := by simpa [topGrammar] using hne
    have hnone : top.value? option = none := htop.value?_eq_none hother rfl
    rw [hgiven hequals hflags, hnone, Option.or_none]
  refine ⟨?_, ?_, ?_, fun x => ?_⟩
  · rw [hstore, hgiven (by decide) (by decide)]
  · have hname : IsOptionName "forward-only" := ⟨by decide, by decide⟩
    have hfirst := htop.isFlagged_iff hname (by decide) (by decide)
    have hrest := hreads.isFlagged_iff hname (by decide) (by decide)
    have hempty : "forward-only" ∉ Given.none.flags := List.not_mem_nil
    rw [or_iff_left hempty] at hfirst hrest
    rw [remaining, or_iff_right not_isFlagged_nil] at hrest
    rw [hforward, hfirst, remaining, hrest, or_comm]
  · rw [← hown (by decide) (by decide) (by decide), hstage]
  · rw [Advance.get_toSubmission, htext]
    cases x <;> exact hown (by decide) (by decide) (by decide)

end Command

end EscrowLedger

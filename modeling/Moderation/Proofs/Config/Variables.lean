import Moderation.Config.Load
import Moderation.Proofs.Config.Reading
import Moderation.Proofs.Entries
import Moderation.Proofs.Text.Tidying

/-!
# `Moderation.Proofs.Config.Variables`: settings that are written are read back

`IsSettings` says how a file of settings is written: one line for each variable and its value in double
quotes (`IsLine.setting`), with blanks around them, and with lines between them that set nothing. Lines
end in one of three ways. Reading such a file gives back what was written (`settings_eq`).

The induction is on the file, line by line (`settings_line`). One line of it may become part of the end
of another: behind a carriage return, a line feed that is meant as an empty line of its own is taken for
a part of that end. Empty lines set nothing, so this does no harm (`settings_feed`).

* `ofText_eq`: the variables that such a file sets.
* `outcome_populate`: they are added to an environment, in which those that are there stay as they are.
* `settings_read_back` puts both together.
-/

set_option autoImplicit false

namespace Moderation.Environment

open Text

/-! ### How settings are written -/

/-- Whether a line ends at a character. -/
def isBreak (c : Char) : Bool := c == '\n' || c == '\r'

/-- Whether a value can hold a character. -/
def isValuePart (c : Char) : Bool := c != '\x00' && !isBreak c

/-- Whether a name can hold a character. -/
def isNamePart (c : Char) : Bool := c != '=' && isValuePart c

/-- A variable and a value that can be written in a line: the name is no comment, and where it ends can
be told from what follows; so can the value from the quotes around it. -/
structure Quotable (name value : String) : Prop where
  named : name.toList ≠ []
  plain : name.toList.head? ≠ some '#'
  trimmed : trim name.toList = name.toList
  nameParts : name.toList.all isNamePart = true
  valueParts : value.toList.all isValuePart = true
  opens : value.toList.head? ≠ some '"'
  closes : value.toList.getLast? ≠ some '"'

instance (name value : String) : Decidable (Quotable name value) :=
  decidable_of_iff (name.toList ≠ [] ∧ name.toList.head? ≠ some '#' ∧ trim name.toList = name.toList
      ∧ name.toList.all isNamePart = true ∧ value.toList.all isValuePart = true
      ∧ value.toList.head? ≠ some '"' ∧ value.toList.getLast? ≠ some '"')
    ⟨fun ⟨named, plain, trimmed, nameParts, valueParts, opens, closes⟩ =>
        ⟨named, plain, trimmed, nameParts, valueParts, opens, closes⟩,
      fun h => ⟨h.named, h.plain, h.trimmed, h.nameParts, h.valueParts, h.opens, h.closes⟩⟩

/-- A variable and its value, as a line gives them. -/
def assignment (name value : String) : List Char :=
  name.toList ++ '=' :: '"' :: value.toList ++ ['"']

/-- What a line without its end sets. Lines that have no sign of equality, empty ones among them, set
nothing. -/
inductive IsLine : List Char → Option (String × String) → Prop
  | setting {name value : String} {before after : List Char} (quotable : Quotable name value)
      (indented : before.all isBlank = true) (followed : after.all isBlank = true) :
      IsLine (before ++ assignment name value ++ after) (some (name, value))
  | comment {before rest : List Char} (indented : before.all isBlank = true) :
      IsLine (before ++ '#' :: rest) none
  | other {line : List Char} (plain : '=' ∉ line) : IsLine line none

/-- How a line may end. -/
def lineEnds : List (List Char) := [['\n'], ['\r'], ['\r', '\n']]

/-- A file of settings, and what its lines set. The last line need not have an end. -/
inductive IsSettings : List Char → List (String × String) → Prop
  | nil : IsSettings [] []
  | last {line : List Char} {set : Option (String × String)} (sets : IsLine line set)
      (whole : line.any isBreak = false) : IsSettings line set.toList
  | line {line finish rest : List Char} {set : Option (String × String)}
      {settings : List (String × String)} (sets : IsLine line set)
      (whole : line.any isBreak = false) (ends : finish ∈ lineEnds)
      (behind : IsSettings rest settings) :
      IsSettings (line ++ finish ++ rest) (set.toList ++ settings)

/-! ### One line -/

section

variable {name value : String} {before after line finish : List Char}

/-- A text that ends with a quote and does not begin with a blank is trimmed. -/
theorem trim_append_quote {c : Char} (first : isBlank c = false) (text : List Char) :
    trim (c :: text ++ ['"']) = c :: text ++ ['"'] := by
  rw [trim_eq_self_iff, List.getLast?_concat]
  constructor
  · rintro d ⟨⟩
    exact first
  · rintro d ⟨⟩
    decide

/-- A line that sets a variable has no blanks at its ends, since its name has none and a quote ends
it. -/
theorem Quotable.trim_assignment (h : Quotable name value) :
    trim (assignment name value) = assignment name value := by
  obtain ⟨first, -⟩ := (trim_eq_self_iff _).mp h.trimmed
  have named := h.named
  rw [assignment]
  cases letters : name.toList with
  | nil => exact absurd letters named
  | cons c rest =>
    rw [letters] at first
    exact trim_append_quote (first c rfl) _

/-- A value is told from the quotes around it. -/
theorem Quotable.trimBoth_quotes (h : Quotable name value) :
    trimBoth (· == '"') ('"' :: value.toList ++ ['"']) = value.toList := by
  have quote : ∀ c ∈ ['"'], (c == '"') = true := by simp
  have quotes := trimBoth_surrounded quote quote value.toList
  rw [List.singleton_append] at quotes
  rw [quotes, trimBoth_eq_self_iff]
  refine ⟨fun c first => beq_eq_false_iff_ne.mpr ?_, fun c last => beq_eq_false_iff_ne.mpr ?_⟩
  · rintro rfl
    exact h.opens first
  · rintro rfl
    exact h.closes last

/-- The first sign of equality is the one behind the name. -/
theorem Quotable.span_assignment (h : Quotable name value) :
    (assignment name value).takeWhile (· != '=') = name.toList
      ∧ (assignment name value).dropWhile (· != '=') = '=' :: '"' :: value.toList ++ ['"'] := by
  have unequal : ∀ c ∈ name.toList, (c != '=') = true :=
    fun c hc => (Bool.and_eq_true_iff.mp (List.all_eq_true.mp h.nameParts c hc)).1
  rw [assignment, List.append_assoc, List.takeWhile_append_of_pos unequal,
    List.dropWhile_append_of_pos unequal]
  simp

/-- A line that names a variable and its value sets it. -/
theorem Quotable.setting?_eq (h : Quotable name value) (indented : before.all isBlank = true)
    (followed : after.all isBlank = true) :
    setting? (before ++ assignment name value ++ after) = some (name, value) := by
  -- The blanks around the line go first, and then it is cut at the equals sign and out of its
  -- quotes.
  have core : trim (before ++ assignment name value ++ after) = assignment name value := by
    rw [trim, trimBoth_surrounded (List.all_eq_true.mp indented) (List.all_eq_true.mp followed)]
    exact h.trim_assignment
  have begins : (assignment name value).head? ≠ some '#' := by
    rw [assignment, List.append_assoc, List.head?_append_of_ne_nil _ h.named]
    exact h.plain
  have equality : '=' ∈ assignment name value := by simp [assignment]
  have given : trim (('=' :: '"' :: value.toList ++ ['"']).drop 1) = '"' :: value.toList ++ ['"'] :=
    trim_append_quote (by decide) _
  rw [setting?]
  simp only [core, h.span_assignment, given, h.trimmed, h.trimBoth_quotes, String.ofList_toList]
  rw [if_neg]
  simp [begins, equality, List.ne_nil_of_mem equality]

/-- A line sets what it says that it sets. -/
theorem IsLine.setting?_eq {set : Option (String × String)} (h : IsLine line set) :
    setting? line = set := by
  -- A line is a setting, a comment behind blanks, or something without an equals sign.
  cases h with
  | setting quotable indented followed => exact quotable.setting?_eq indented followed
  | @comment before rest indented =>
    have core : trim (before ++ '#' :: rest) = '#' :: trimEnd isBlank rest := by
      have inner : trimBoth isBlank (before ++ '#' :: rest ++ []) = trimBoth isBlank ('#' :: rest) :=
        trimBoth_surrounded (List.all_eq_true.mp indented) (List.forall_mem_nil _) ('#' :: rest)
      rw [List.append_nil] at inner
      rw [trim, inner, trimBoth, List.dropWhile_cons_of_neg (by decide), trimEnd_cons_of_not (by decide)]
    rw [setting?]
    simp only [core]
    rw [if_pos]
    simp
  | other plain =>
    have plain : '=' ∉ trim line := fun within => plain ((trimBoth_within isBlank line).subset within)
    rw [setting?]
    simp only
    rw [if_pos]
    simp [plain]

/-! ### Lines and their ends -/

/-- A character inside a line is kept for it. -/
theorem linesAfter_cons_of_not_isBreak {c : Char} (inside : isBreak c = false) (start rest : List Char) :
    linesAfter start (c :: rest) = linesAfter (c :: start) rest := by
  -- The case of a line that ends in two characters is matched first.
  have other : ∀ behind, c = '\r' → rest = '\n' :: behind → False := by
    rintro - rfl -
    cases inside
  rw [linesAfter, if_neg]
  · rw [show (c = '\n' || c = '\r') = isBreak c from rfl, inside]
    exact Bool.false_ne_true
  · exact other

/-- What is read of a line is kept up to its end. -/
theorem linesAfter_append (whole : line.any isBreak = false) (start rest : List Char) :
    linesAfter start (line ++ rest) = linesAfter (line.reverse ++ start) rest := by
  induction line generalizing start with
  | nil => rfl
  | cons c line ih =>
    rw [List.any_cons, Bool.or_eq_false_iff] at whole
    obtain ⟨inside, whole⟩ := whole
    rw [List.cons_append, linesAfter_cons_of_not_isBreak inside, ih whole, List.reverse_cons,
      List.append_assoc, List.singleton_append]

/-- The settings of a file, line by line. -/
def settings (text : List Char) : List (String × String) := (lines text).filterMap setting?

/-- The first line sets its variable, if it sets one, before the others set theirs. -/
theorem filterMap_setting?_cons (line : List Char) (behind : List (List Char)) :
    (line :: behind).filterMap setting? = (setting? line).toList ++ behind.filterMap setting? := by
  rw [List.filterMap_cons]
  cases setting? line <;> rfl

/-- An empty line sets nothing. -/
theorem settings_feed (rest : List Char) : settings ('\n' :: rest) = settings rest := rfl

/-- A line without an end is a line, unless it is empty, and then it would set nothing. -/
theorem settings_last (whole : line.any isBreak = false) :
    settings line = (setting? line).toList := by
  have all := linesAfter_append whole [] []
  rw [List.append_nil, List.append_nil] at all
  rw [settings, lines, all, linesAfter]
  split
  · next empty =>
    rw [List.isEmpty_iff, List.reverse_eq_nil_iff] at empty
    rw [empty]
    rfl
  · rw [List.reverse_reverse, filterMap_setting?_cons, List.filterMap_nil, List.append_nil]

/-- A line is read apart from what follows on its end. -/
theorem settings_line (whole : line.any isBreak = false) (ends : finish ∈ lineEnds)
    (rest : List Char) :
    settings (line ++ finish ++ rest) = (setting? line).toList ++ settings rest := by
  have upTo : settings (line ++ finish ++ rest)
      = (linesAfter line.reverse (finish ++ rest)).filterMap setting? := by
    rw [settings, lines, List.append_assoc, linesAfter_append whole, List.append_nil]
  have next : ∀ behind : List Char, (line.reverse.reverse :: linesAfter [] behind).filterMap setting?
      = (setting? line).toList ++ settings behind := fun behind => by
    rw [List.reverse_reverse, filterMap_setting?_cons, settings, lines]
  rw [upTo]
  simp only [lineEnds, List.mem_cons, List.not_mem_nil, or_false] at ends
  obtain rfl | rfl | rfl := ends
  · exact next rest
  · -- A line feed behind the carriage return goes with it.
    match rest with
    | [] => exact next []
    | c :: behind =>
      by_cases feed : c = '\n'
      · subst feed
        rw [settings_feed]
        exact next behind
      · have apart : linesAfter line.reverse (['\r'] ++ c :: behind)
            = line.reverse.reverse :: linesAfter [] (c :: behind) := by
          rw [List.singleton_append, linesAfter, if_pos (by decide)]
          rintro _ - same
          exact feed (List.cons.inj same).1
        rw [apart]
        exact next (c :: behind)
  · exact next rest

end

/-! ### A file -/

/-- What is written is read. -/
theorem IsSettings.settings_eq {text : List Char} {written : List (String × String)}
    (h : IsSettings text written) : settings text = written := by
  induction h with
  | nil => rfl
  | last sets whole => rw [settings_last whole, sets.setting?_eq]
  | line sets whole ends behind ih => rw [settings_line whole ends, sets.setting?_eq, ih]

/-- Of a variable that is written more than once, the last line counts. -/
theorem IsSettings.ofText_eq {text : String} {written : List (String × String)}
    (h : IsSettings text.toList written) : ofText text = Entries.ofPairs written := by
  rw [ofText, ← h.settings_eq, settings]

/-- The variables of a file can be set. -/
theorem IsSettings.quotable {text : List Char} {written : List (String × String)}
    (h : IsSettings text written) : ∀ entry ∈ written, Quotable entry.1 entry.2 := by
  -- Only a line that is a setting sets something.
  have ofLine : ∀ {line : List Char} {set : Option (String × String)}, IsLine line set →
      ∀ entry ∈ set.toList, Quotable entry.1 entry.2 := by
    intro line set sets
    cases sets with
    | setting quotable _ _ => simpa using quotable
    | comment _ => exact nofun
    | other _ => exact nofun
  induction h with
  | nil => exact nofun
  | last sets _ => exact ofLine sets
  | line sets _ _ _ ih => exact List.forall_mem_append.mpr ⟨ofLine sets, ih⟩

/-- A variable that can be written can be set: it has a name, and holds no null character. -/
theorem Quotable.allows {name value : String} (h : Quotable name value) : Allows name value where
  named := by
    rw [Bool.eq_false_iff]
    exact fun empty => h.named (by rw [String.isEmpty_iff.mp empty]; rfl)
  name := by
    have inside : '\x00' ∉ name.toList := fun null =>
      absurd (List.all_eq_true.mp h.nameParts _ null) (by decide)
    simp [inside]
  value := by
    have inside : '\x00' ∉ value.toList := fun null =>
      absurd (List.all_eq_true.mp h.valueParts _ null) (by decide)
    simp [inside]

/-! ### The environment afterwards -/

/-- Variables that there can be are added, and those that are there stay as they are. -/
theorem outcome_populate {settings : List (String × String)}
    (allows : ∀ entry ∈ settings, Allows entry.1 entry.2) (env : Environment) :
    ∃ after : Environment, (populate settings).outcome env = (.ok (), after)
      ∧ ∀ key, after.get? key = (env.get? key).or (Entries.get? settings key) := by
  induction settings generalizing env with
  | nil => exact ⟨env, rfl, fun key => Option.or_none.symm⟩
  | cons entry rest ih =>
    obtain ⟨name, value⟩ := entry
    obtain ⟨first, others⟩ := List.forall_mem_cons.mp allows
    rw [populate]
    -- A variable that is there keeps its value, so a later line of the same name finds one in both
    -- cases.
    cases has : Entries.has env name with
    | true =>
      obtain ⟨after, ran, holds⟩ := ih others env
      refine ⟨after, by rw [Act.outcome_bind_ok (outcome_setDefault_of_has has), ran], fun key => ?_⟩
      rw [holds, Entries.get?_cons]
      split
      · next same =>
        subst same
        obtain ⟨kept, given⟩ := Option.isSome_iff_exists.mp has
        rw [given]
        rfl
      · rfl
    | false =>
      obtain ⟨after, ran, holds⟩ := ih others (Entries.set env name value)
      refine ⟨after, by rw [Act.outcome_bind_ok (outcome_setDefault_of_allows has first), ran],
        fun key => ?_⟩
      rw [holds, Entries.get?_cons, Entries.get?_set]
      split
      · next same =>
        subst same
        have free : env.get? name = none := Option.not_isSome_iff_eq_none.mp (Bool.eq_false_iff.mp has)
        rw [free]
        rfl
      · rfl

/-- A file of settings is read back as it was written, the last line of a variable giving its value. In
the environment to which it is added, the variables that were there keep their values, and nothing else
is added. -/
theorem settings_read_back {tree : Files} {place : Location} {text : String}
    {written : List (String × String)} (file : tree.content? place = some text.toUTF8)
    (h : IsSettings text.toList written) (env : Environment) :
    Config.readSettings tree place = .ok (Entries.ofPairs written)
      ∧ (∀ key, (Entries.ofPairs written).get? key = Entries.get? written.reverse key)
      ∧ ∃ after : Environment, (populate (Entries.ofPairs written)).outcome env = (.ok (), after)
        ∧ ∀ key, after.get? key = (env.get? key).or (Entries.get? written.reverse key) := by
  -- The bytes of a text are read back as this text.
  have decoded : Config.decode text.toUTF8 = .ok text := by
    have valid : String.fromUTF8? text.toUTF8 = some text := dif_pos text.isValidUTF8
    rw [Config.decode, valid]
  have values := Entries.get?_ofPairs written
  refine ⟨?_, values, ?_⟩
  · rw [Config.readSettings, file]
    show ofText <$> Config.decode text.toUTF8 = _
    rw [decoded, ← h.ofText_eq]
    rfl
  · obtain ⟨after, ran, holds⟩ := outcome_populate
      (fun entry member => (h.quotable entry (Entries.mem_ofPairs member)).allows) env
    exact ⟨after, ran, fun key => by rw [holds, values]⟩

/-- A file with a comment, an empty line behind a carriage return, a line that says nothing, and a
variable that is set twice. Another one is set already. -/
theorem settings_read_back_twice :
    let text := String.ofList (([] ++ '#' :: " HOST=\"a\"".toList) ++ ['\r'] ++ ([] ++ ['\n']
      ++ (("  ".toList ++ assignment "HOST" " b = \"c\" # d " ++ "\t".toList) ++ ['\r', '\n']
      ++ ("HOST".toList ++ ['\n'] ++ (([] ++ assignment "PORT" "" ++ []) ++ ['\n']
      ++ ([] ++ assignment "HOST" "cache" ++ []))))))
    let tree : Files := { files := [([".env"], text.toUTF8)] }
    let written := [("HOST", " b = \"c\" # d "), ("PORT", ""), ("HOST", "cache")]
    let env : Environment := [("PORT", "6379"), ("HOME", "/root")]
    tree.content? Config.settingsPath = some text.toUTF8 ∧ IsSettings text.toList written
      ∧ Config.readSettings tree Config.settingsPath = .ok [("HOST", "cache"), ("PORT", "")]
      ∧ ∃ after : Environment, (populate [("HOST", "cache"), ("PORT", "")]).outcome env = (.ok (), after)
        ∧ after.get? "HOST" = some "cache" ∧ after.get? "PORT" = some "6379"
        ∧ after.get? "HOME" = some "/root" ∧ after.get? "NAME" = none := by
  intro text tree written env
  have file : tree.content? Config.settingsPath = some text.toUTF8 := rfl
  have lines : IsSettings text.toList written := by
    rw [String.toList_ofList]
    -- One constructor a line: a comment, an empty line, a setting, something else, and two
    -- settings.
    exact .line (.comment (by decide)) (by decide) (by decide)
      (.line (.other (by decide)) (by decide) (by decide)
        (.line (.setting (by decide) (by decide) (by decide)) (by decide) (by decide)
          (.line (.other (by decide)) (by decide) (by decide)
            (.line (.setting (by decide) (by decide) (by decide)) (by decide) (by decide)
              (.last (.setting (by decide) (by decide) (by decide)) (by decide))))))
  obtain ⟨read, -, after, ran, holds⟩ := settings_read_back file lines env
  exact ⟨file, lines, read, after, ran, holds "HOST", holds "PORT", holds "HOME", holds "NAME"⟩

end Moderation.Environment

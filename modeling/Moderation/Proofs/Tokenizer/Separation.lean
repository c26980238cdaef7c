import Moderation.Proofs.Text.Folding
import Moderation.Proofs.Text.Passages
import Moderation.Proofs.Tokenizer.Frequencies

/-!
# `Moderation.Proofs.Tokenizer.Separation`: blanks separate what a text is made of

A text is scanned for links, mentions and numbers, each scan on the result of the one before, then
it is folded and cut into words. None of these stages looks across a blank: a blank is no part of a
lead, of a mention, of a number or of a word, and it is its own folded form. So the words of a text
are those before a blank and those after it (`keptWords_append`).

A link or a mention that is switched off is one passage. It becomes one space, which holds no word
(`keptWords_of_drops`).

The main statement is `tokenize_separated`.
-/

set_option autoImplicit false

namespace Moderation.Tokenizer

open Text

variable {settings : Settings} {w w' : Char}

/-! ### What a blank is not -/

/-- A blank is no letter, no numeral and no low line. -/
theorem not_isWord_of_isBlank (h : isBlank w = true) : isWord w = false := by
  have apart : ∀ n ∈ blankRanges.codes,
      letterRanges.has n = false ∧ numeralRanges.has n = false ∧ n ≠ '_'.toNat := by
    decide +kernel
  obtain ⟨letter, numeral, line⟩ := apart _ (Ranges.mem_codes_of_has h)
  have line' : w ≠ '_' := fun same => line (congrArg Char.toNat same)
  simp [isWord, isLetter, isNumeral, letter, numeral, line']

/-- A blank is no digit. -/
theorem not_isDecimal_of_isBlank (h : isBlank w = true) : isDecimal w = false := by
  have apart : ∀ n ∈ blankRanges.codes, decimalRanges.has n = false := by decide +kernel
  exact apart _ (Ranges.mem_codes_of_has h)

/-- No lead holds a blank. -/
theorem notMem_lead_of_isBlank (h : isBlank w = true) :
    ∀ lead ∈ ['@'] :: linkLeads, w ∉ lead := by
  have visible : ∀ lead ∈ ['@'] :: linkLeads, lead.all (!isBlank ·) = true := by decide
  intro lead hlead hw
  have := List.all_eq_true.mp (visible lead hlead) w hw
  rw [h] at this
  cases this

/-! ### Words before and after a blank -/

/-- A link ends before a blank. -/
theorem stopsAt_linkLength (h : isBlank w = true) : StopsAt linkLength w :=
  .ledLength (fun lead hlead => notMem_lead_of_isBlank h lead (List.mem_cons_of_mem _ hlead))
    (by simp [h])

/-- A mention ends before a blank. -/
theorem stopsAt_mentionLength (h : isBlank w = true) : StopsAt mentionLength w :=
  .ledLength (fun lead hlead => notMem_lead_of_isBlank h lead (by simp_all))
    (not_isWord_of_isBlank h)

/-- A number ends before a blank. -/
theorem stopsAt_numberLength (h : isBlank w = true) : StopsAt numberLength w :=
  .runLength (not_isDecimal_of_isBlank h)

/-- A stage that is switched on or off. -/
theorem ite_blankOut_append {passage : List Char → Nat} (h : StopsAt passage w) (on : Bool)
    (a b : List Char) :
    (if on then blankOut passage (a ++ w :: b) else a ++ w :: b)
      = (if on then blankOut passage a else a) ++ w :: if on then blankOut passage b else b := by
  cases on with
  | false => rfl
  | true => exact replaceEach_append h a b

/-- The texts before and after a blank are cleaned apart. -/
theorem clean_append (h : isBlank w = true) (a b : List Char) :
    clean settings (a ++ w :: b) = clean settings a ++ w :: clean settings b := by
  simp only [clean, ite_blankOut_append (stopsAt_linkLength h),
    ite_blankOut_append (stopsAt_mentionLength h), ite_blankOut_append (stopsAt_numberLength h),
    foldCase_append, foldCase_cons, foldChar_of_isBlank h, List.singleton_append]

/-- The words of a text are those before a blank and those after it. -/
theorem keptWords_append (h : isBlank w = true) (a b : String) :
    keptWords settings (a.push w ++ b) = keptWords settings a ++ keptWords settings b := by
  -- Whether a word is kept does not depend on the words around it.
  have parts : (a.push w ++ b).toList = a.toList ++ w :: b.toList := by simp
  rw [keptWords, wordsIn, parts, clean_append h, words, runs_append_of_not (not_isWord_of_isBlank h),
    List.map_append, List.filter_append]
  rfl

/-- A blank at the end of a text adds no word. -/
theorem keptWords_push (h : isBlank w = true) (a : String) :
    keptWords settings (a.push w) = keptWords settings a := by
  have none : keptWords settings "" = [] := by
    simp [keptWords, wordsIn, clean, blankOut, words, runs]
  have parts : keptWords settings (a.push w ++ "") = keptWords settings a ++ keptWords settings "" :=
    keptWords_append h a ""
  rwa [none, String.append_empty, List.append_nil] at parts

/-! ### Links and mentions that are switched off -/

/-- The text is a link or a mention, and the settings switch it off. -/
def Settings.Drops (settings : Settings) (text : String) : Prop :=
  settings.dropLinks = true ∧ IsLed linkLeads (!isBlank ·) text.toList
    ∨ settings.dropMentions = true ∧ IsLed [['@']] isWord text.toList

/-- Word characters and the mark of a mention make no link. -/
theorem blankOut_linkLength_eq_self {text : List Char}
    (h : ∀ c ∈ text, isWord c = true ∨ c = '@') : blankOut linkLength text = text := by
  have marked : ∀ lead ∈ linkLeads, lead.any (fun c => !isWord c && c != '@') = true := by
    decide +kernel
  refine replaceEach_eq_self (ledLength_eq_zero fun lead hlead => ?_)
  obtain ⟨c, hc, other⟩ := List.any_eq_true.mp (marked lead hlead)
  refine ⟨c, hc, fun inside => ?_⟩
  rcases h c inside with word | rfl
  · rw [word] at other
    cases other
  · rw [bne_self_eq_false, Bool.and_false] at other
    cases other

/-- A mention holds no link. -/
theorem blankOut_linkLength_of_mention {text : List Char} (h : IsLed [['@']] isWord text) :
    blankOut linkLength text = text := by
  obtain ⟨lead, hlead, run, -, hrun, rfl⟩ := h
  obtain rfl : lead = ['@'] := List.mem_singleton.mp hlead
  exact blankOut_linkLength_eq_self fun c hc =>
    (List.mem_cons.mp hc).elim Or.inr fun inside => Or.inl (hrun c inside)

/-- A link or a mention that is switched off leaves a space. -/
theorem clean_of_drops {text : String} (h : settings.Drops text) :
    clean settings text.toList = [' '] := by
  have space : blankOut mentionLength [' '] = [' '] ∧ blankOut numberLength [' '] = [' ']
      ∧ foldCase [' '] = [' '] := by decide +kernel
  -- A link is gone before mentions are looked for; a mention is still there.
  rcases h with ⟨on, link⟩ | ⟨on, mention⟩
  · have whole : blankOut linkLength text.toList = [' '] :=
      blankOut_eq_blank link.ne_nil (link.ledLength_eq (by decide))
    simp [clean, on, whole, space]
  · have whole : blankOut mentionLength text.toList = [' '] :=
      blankOut_eq_blank mention.ne_nil (mention.ledLength_eq (by decide))
    simp [clean, on, blankOut_linkLength_of_mention mention, whole, space]

/-- A link or a mention that is switched off holds no word. -/
theorem keptWords_of_drops {text : String} (h : settings.Drops text) :
    keptWords settings text = [] := by
  have none : words [' '] = [] := by decide +kernel
  rw [keptWords, wordsIn, clean_of_drops h, none]
  rfl

/-! ### Tokens -/

/-- A link or a mention that is switched off has no tokens. -/
theorem tokenize_of_drops {text : String} (h : settings.Drops text) :
    tokenize settings text = [] := by
  simp [tokenize, keptWords_of_drops h, neighbours]

/-- Without pairs, the tokens of a text are those before a blank and those after it. With or
without pairs, a link or a mention that is switched off has no tokens, and between blanks it
changes neither the tokens of a text nor their numbers. -/
theorem tokenize_separated (settings : Settings) (hw : isBlank w = true) (hw' : isBlank w' = true)
    (a b : String) :
    (settings.pairs = false →
      tokenize settings (a.push w ++ b) = tokenize settings a ++ tokenize settings b)
    ∧ ∀ u, settings.Drops u →
      tokenize settings u = []
      ∧ tokenize settings (a.push w ++ u.push w' ++ b) = tokenize settings (a.push w ++ b)
      ∧ tokenize settings (a.push w ++ u.push w' ++ b)
          = tokenize settings ((a.push w).push w' ++ b)
      ∧ frequencies (tokenize settings (a.push w ++ u.push w' ++ b))
          = frequencies (tokenize settings ((a.push w).push w' ++ b)) := by
  refine ⟨fun single => ?_, fun u hu => ?_⟩
  · simp [tokenize, single, keptWords_append hw]
  · have none := keptWords_of_drops hu
    -- With and without what is dropped, the words are those of the texts around it.
    have around : keptWords settings (a.push w ++ u.push w' ++ b)
        = keptWords settings a ++ keptWords settings b := by
      rw [String.append_assoc, keptWords_append hw, keptWords_append hw', none, List.nil_append]
    have blanks : keptWords settings ((a.push w).push w' ++ b)
        = keptWords settings a ++ keptWords settings b := by
      rw [keptWords_append hw', keptWords_push hw]
    have same : tokenize settings (a.push w ++ u.push w' ++ b)
        = tokenize settings ((a.push w).push w' ++ b) := by
      simp only [tokenize, around, blanks]
    refine ⟨tokenize_of_drops hu, ?_, same, congrArg frequencies same⟩
    simp only [tokenize, around, keptWords_append hw]

/-- An offer with a link and a mention, under the settings of a classifier without settings. -/
theorem tokenize_separated_offer :
    tokenize {} ("Visit".push ' ' ++ "now") = ["visit", "now"]
      ∧ tokenize {} ("Visit".push ' ' ++ "https://spam.example/offer".push '\n' ++ "now")
        = ["visit", "now"]
      ∧ tokenize {} ("Visit".push ' ' ++ "@admin".push '\n' ++ "now") = ["visit", "now"] := by
  have kept : tokenize {} "Visit" ++ tokenize {} "now" = ["visit", "now"] := by decide +kernel
  have link : ({} : Settings).Drops "https://spam.example/offer" :=
    .inl ⟨rfl, "https://".toList, by decide, "spam.example/offer".toList, by decide,
      List.all_eq_true.mp (by decide), rfl⟩
  have mention : ({} : Settings).Drops "@admin" :=
    .inr ⟨rfl, ['@'], by decide, "admin".toList, by decide,
      List.all_eq_true.mp (by decide +kernel), rfl⟩
  have separated := tokenize_separated {} (by decide : isBlank ' ' = true)
    (by decide : isBlank '\n' = true) "Visit" "now"
  have both := (separated.1 rfl).trans kept
  exact ⟨both, (separated.2 _ link).2.1.trans both, (separated.2 _ mention).2.1.trans both⟩

end Moderation.Tokenizer

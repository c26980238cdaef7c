import Moderation.Proofs.Tokenizer.Separation

/-!
# `Moderation.Proofs.Tokenizer.LetterCase`: when the case of letters matters to the tokens

Words are folded, and it makes no difference whether numbers are removed before that or after it
(`clean_eq`). Links and mentions are removed before it, from a text whose letters have their case,
and there the case matters: a link begins with small letters, and a mention ends where a folded
letter would leave a combining mark.

So the case of letters does not matter if links and mentions stay in the text, or if the settings
keep no word of any text. Otherwise a word that is kept somewhere is kept or dropped by the case of
what stands before it. The main statement is `tokenize_caseless`.
-/

set_option autoImplicit false

namespace Moderation.Tokenizer

open Text

variable {settings : Settings}

/-! ### Numbers and folding -/

/-- Runs of digits are squeezed before folding or after it, to the same end: digits have no case,
and no other character becomes a digit. -/
theorem foldCase_squeezeFrom (inRun : Bool) (text : List Char) :
    foldCase (squeezeFrom isDecimal inRun text) = squeezeFrom isDecimal inRun (foldCase text) := by
  have space : foldChar ' ' = [' '] := foldChar_of_isBlank (by decide)
  induction text generalizing inRun with
  | nil => rfl
  | cons c text ih =>
    cases digit : isDecimal c with
    | true =>
      rw [foldCase_cons, foldChar_of_isDecimal digit]
      cases inRun <;> simp [squeezeFrom, digit, foldCase_cons, space, ih]
    | false =>
      -- The images of a letter are one or more, and none of them is a digit.
      rw [squeezeFrom, digit, if_neg Bool.false_ne_true, foldCase_cons, foldCase_cons, ih,
        squeezeFrom_append_of_not (foldChar_ne_nil c)
          fun d hd => not_isDecimal_of_mem_foldChar digit hd]

/-- The text without the links and mentions that the settings switch off. -/
def unnamed (settings : Settings) (text : List Char) : List Char :=
  let unlinked := if settings.dropLinks then blankOut linkLength text else text
  if settings.dropMentions then blankOut mentionLength unlinked else unlinked

/-- Numbers may as well be removed from folded text. -/
theorem clean_eq (settings : Settings) (text : List Char) :
    clean settings text =
      if settings.dropNumbers then squeeze isDecimal (foldCase (unnamed settings text))
      else foldCase (unnamed settings text) := by
  cases h : settings.dropNumbers with
  | false => simp [clean, unnamed, h]
  | true =>
    have numbers : blankOut numberLength (unnamed settings text)
        = squeeze isDecimal (unnamed settings text) := blankOut_runLength _ _
    rw [if_pos rfl, squeeze, ← foldCase_squeezeFrom, ← squeeze, ← numbers]
    simp only [clean, unnamed, h, if_true]

/-- Texts that are equal when they are folded without their links and mentions have the same
tokens. -/
theorem tokenize_eq_of_foldCase_eq {a b : String}
    (h : foldCase (unnamed settings a.toList) = foldCase (unnamed settings b.toList)) :
    tokenize settings a = tokenize settings b := by
  simp only [tokenize, keptWords, wordsIn, clean_eq, h]

/-! ### A word that is kept -/

/-- A word is kept where it stands alone: it is folded, and has no part that is switched off. -/
structure Settings.Keeps (settings : Settings) (word : List Char) : Prop where
  nonempty : word ≠ []
  isWord : ∀ c ∈ word, isWord c = true
  folded : ∀ c ∈ word, foldChar c = [c]
  digits : settings.dropNumbers = true → ∀ c ∈ word, isDecimal c = false
  keeps : keeps settings (String.ofList word) = true

/-- The runs of a class have one character or more, all of the text. -/
theorem subset_of_mem_runs {p : Char → Bool} {text run : List Char} (h : run ∈ runs p text) :
    run ≠ [] ∧ run ⊆ text := by
  fun_induction runs p text with
  | case1 => cases h
  | case2 c rest hc ih =>
    rcases List.mem_cons.mp h with rfl | h
    · exact ⟨List.cons_ne_nil _ _, List.cons_subset_cons _ (rest.takeWhile_subset p)⟩
    · obtain ⟨nonempty, inside⟩ := ih h
      have below := List.Subset.trans inside (rest.dropWhile_subset p)
      exact ⟨nonempty, List.subset_cons_of_subset _ below⟩
  | case3 c rest hc ih => exact ⟨(ih h).1, List.subset_cons_of_subset _ (ih h).2⟩

/-- If some text has tokens, some word is kept. -/
theorem exists_keeps {text : String} (h : tokenize settings text ≠ []) :
    ∃ word, settings.Keeps word := by
  have some : keptWords settings text ≠ [] := fun none => h (by simp [tokenize, none, neighbours])
  obtain ⟨token, htoken⟩ := List.exists_mem_of_ne_nil _ some
  obtain ⟨hword, kept⟩ := List.mem_filter.mp htoken
  obtain ⟨word, hrun, rfl⟩ := List.mem_map.mp hword
  obtain ⟨nonempty, inside⟩ := subset_of_mem_runs hrun
  -- The word stands in a text that was folded last, and squeezed before or after that.
  refine ⟨word, nonempty, forall_mem_runs hrun, fun c hc => ?_, fun on c hc => ?_, kept⟩
  · obtain ⟨d, -, hd⟩ := mem_foldCase.mp (inside hc)
    exact foldChar_of_mem hd
  · have squeezed := inside hc
    rw [clean_eq, if_pos on] at squeezed
    exact (mem_squeezeFrom squeezed).elim (fun same => same ▸ by decide) id

namespace Settings.Keeps

variable {word : List Char} (h : settings.Keeps word)
include h

/-- No character of the word is a blank. -/
theorem isVisible : ∀ c ∈ word, (!isBlank c) = true := by
  intro c hc
  cases blank : isBlank c with
  | false => rfl
  | true =>
    have := h.isWord c hc
    rw [not_isWord_of_isBlank blank] at this
    cases this

/-- The word is cut as one word. -/
theorem words_eq : words word = [word] := by
  obtain ⟨c, rest, rfl⟩ := List.exists_cons_of_ne_nil h.nonempty
  have all : ∀ d ∈ rest, Text.isWord d = true := fun d hd => h.isWord d (List.mem_cons_of_mem _ hd)
  rw [words, runs_cons_of_pos (h.isWord c List.mem_cons_self), List.takeWhile_eq_self_iff.mpr all,
    List.dropWhile_eq_nil_iff.mpr all, runs]

/-- The word is kept behind any character that is no word character. -/
theorem mem_tokenize {text : String} (before : List Char) {c : Char} (hc : Text.isWord c = false)
    (clean_eq : clean settings text.toList = before ++ c :: word) :
    String.ofList word ∈ tokenize settings text := by
  have kept : String.ofList word ∈ keptWords settings text := by
    refine List.mem_filter.mpr ⟨?_, h.keeps⟩
    rw [wordsIn, clean_eq, words, runs_append_of_not hc, ← words, ← words, h.words_eq]
    simp
  rw [tokenize]
  split
  · exact List.mem_append_left _ kept
  · exact kept

/-- Before the word, folded characters without digits stay. -/
theorem clean_of_unnamed {text before : List Char}
    (unnamed_eq : unnamed settings text = before ++ word)
    (digits : (foldCase before).all (!isDecimal ·) = true) :
    clean settings text = foldCase before ++ word := by
  have fold : foldCase (unnamed settings text) = foldCase before ++ word := by
    rw [unnamed_eq, foldCase_append, foldCase_eq_self h.folded]
  rw [clean_eq, fold]
  split
  · next on =>
    have none : ∀ c ∈ foldCase before, isDecimal c = false := by simpa using digits
    exact squeeze_eq_self fun c hc => (List.mem_append.mp hc).elim (none c) (h.digits on c)
  · rfl

/-- The word holds no link. -/
theorem blankOut_linkLength : blankOut linkLength word = word :=
  blankOut_linkLength_eq_self fun c hc => Or.inl (h.isWord c hc)

/-- A text without the mark of a mention holds no mention, and neither does the word behind it. -/
theorem blankOut_mentionLength {before : List Char} (hbefore : '@' ∉ before) :
    blankOut mentionLength (before ++ word) = before ++ word := by
  refine replaceEach_eq_self (ledLength_eq_zero fun lead hlead => ?_)
  obtain rfl : lead = ['@'] := List.mem_singleton.mp hlead
  refine ⟨'@', List.mem_singleton_self _, fun inside => ?_⟩
  rcases List.mem_append.mp inside with inside | inside
  · exact hbefore inside
  · have mark : Text.isWord '@' = false := by decide +kernel
    rw [h.isWord '@' inside] at mark
    cases mark

/-- Behind the lead of a link in capital letters, the word is kept. -/
theorem mem_tokenize_capitalLink :
    String.ofList word ∈ tokenize settings (String.ofList ("HTTP://".toList ++ word)) := by
  have capital : ∀ c ∈ "HTTP://".toList, ∀ rest, linkLength (c :: rest) = 0 := by
    have other : "HTTP://".toList.all (fun c => linkLeads.all (·.head?.any (· != c))) = true := by
      decide
    intro c hc
    exact ledLength_cons_eq_zero (List.all_eq_true.mp (List.all_eq_true.mp other c hc))
  -- No link begins in the lead, which has no small letter, nor in the word, which has no colon.
  have unlinked : blankOut linkLength ("HTTP://".toList ++ word) = "HTTP://".toList ++ word := by
    rw [blankOut, replaceEach_append_of_zero capital, ← blankOut, h.blankOut_linkLength]
  have unnamed_eq : unnamed settings ("HTTP://".toList ++ word) = "HTTP://".toList ++ word := by
    have noMark : '@' ∉ "HTTP://".toList := by decide
    simp only [unnamed, unlinked, ite_self, h.blankOut_mentionLength noMark]
  have folded : foldCase "HTTP://".toList = "http:/".toList ++ ['/'] := by decide +kernel
  refine h.mem_tokenize "http:/".toList (by decide +kernel : Text.isWord '/' = false) ?_
  rw [String.toList_ofList, h.clean_of_unnamed unnamed_eq (by decide +kernel), folded,
    List.append_assoc, List.singleton_append]

/-- Behind a mention that ends before a combining mark, the word is kept. -/
theorem mem_tokenize_mark (unlinked : settings.dropLinks = false)
    (dropped : settings.dropMentions = true) :
    String.ofList word ∈ tokenize settings (String.ofList (['@', 'h'] ++ '\u0331' :: word)) := by
  have mark : Text.isWord '\u0331' = false := by decide +kernel
  -- The mark is no word character, so the mention ends before it.
  have stops : StopsAt mentionLength '\u0331' := .ledLength (by decide) mark
  have mention : blankOut mentionLength ['@', 'h'] = [' '] :=
    blankOut_eq_blank (by decide) (by decide +kernel)
  have rest : blankOut mentionLength word = word :=
    h.blankOut_mentionLength (List.not_mem_nil : '@' ∉ [])
  have unnamed_eq : unnamed settings (['@', 'h'] ++ '\u0331' :: word) = [' ', '\u0331'] ++ word := by
    simp only [unnamed, unlinked, dropped, if_true, Bool.false_eq_true, if_false]
    rw [blankOut, replaceEach_append stops, ← blankOut, mention, rest]
    rfl
  have folded : foldCase [' ', '\u0331'] = [' '] ++ ['\u0331'] := by decide +kernel
  refine h.mem_tokenize [' '] mark ?_
  rw [String.toList_ofList, h.clean_of_unnamed unnamed_eq (by decide +kernel), folded,
    List.append_assoc]
  rfl

/-- A link in capital letters keeps the word, and the same link in small letters drops it. -/
theorem exists_caseful_of_dropLinks (links : settings.dropLinks = true) :
    ∃ a b : String, foldCase a.toList = foldCase b.toList
      ∧ tokenize settings a ≠ tokenize settings b := by
  have lead : foldCase "HTTP://".toList = foldCase "http://".toList := by decide +kernel
  have link : settings.Drops (String.ofList ("http://".toList ++ word)) := .inl
    ⟨links, "http://".toList, by decide, word, h.nonempty, h.isVisible, String.toList_ofList⟩
  refine ⟨String.ofList ("HTTP://".toList ++ word), String.ofList ("http://".toList ++ word), ?_, ?_⟩
  · simp only [String.toList_ofList, foldCase_append, lead]
  · rw [tokenize_of_drops link]
    exact List.ne_nil_of_mem h.mem_tokenize_capitalLink

/-- A mention whose folded form has a combining mark drops the word, and its folded form, which ends
before the mark, keeps it. -/
theorem exists_caseful_of_dropMentions (unlinked : settings.dropLinks = false)
    (mentions : settings.dropMentions = true) :
    ∃ a b : String, foldCase a.toList = foldCase b.toList
      ∧ tokenize settings a ≠ tokenize settings b := by
  have lead : foldCase ['@', 'h', '\u0331'] = foldCase ['@', '\u1e96'] := by decide +kernel
  have mention : settings.Drops (String.ofList (['@'] ++ '\u1e96' :: word)) := .inr
    ⟨mentions, ['@'], by decide, '\u1e96' :: word, List.cons_ne_nil _ _,
      List.forall_mem_cons.mpr ⟨by decide +kernel, h.isWord⟩, String.toList_ofList⟩
  refine ⟨String.ofList (['@', 'h'] ++ '\u0331' :: word), String.ofList (['@'] ++ '\u1e96' :: word),
    ?_, ?_⟩
  · -- The one character is folded to the two.
    have same : foldCase (['@', 'h', '\u0331'] ++ word) = foldCase (['@', '\u1e96'] ++ word) := by
      rw [foldCase_append, lead, foldCase_append]
    rw [String.toList_ofList, String.toList_ofList]
    exact same
  · rw [tokenize_of_drops mention]
    exact List.ne_nil_of_mem (h.mem_tokenize_mark unlinked mentions)

end Settings.Keeps

/-! ### When the case matters -/

/-- The case of letters outside links and mentions never matters. The case of all letters matters to
no text exactly if the settings switch off neither links nor mentions, or keep no word of any text. -/
theorem tokenize_caseless (settings : Settings) :
    (∀ a b : String,
      foldCase (unnamed settings a.toList) = foldCase (unnamed settings b.toList) →
        tokenize settings a = tokenize settings b)
    ∧ ((∀ a b : String, foldCase a.toList = foldCase b.toList →
          tokenize settings a = tokenize settings b)
        ↔ settings.dropLinks = false ∧ settings.dropMentions = false
          ∨ ∀ text, tokenize settings text = []) := by
  refine ⟨fun _ _ => tokenize_eq_of_foldCase_eq, ?_, ?_⟩
  · -- If something is switched off and some word is kept, the word shows the difference.
    intro caseless
    by_contra! other
    obtain ⟨dropped, text, some⟩ := other
    obtain ⟨word, h⟩ := exists_keeps some
    obtain ⟨a, b, same, differ⟩ : ∃ a b : String, foldCase a.toList = foldCase b.toList
        ∧ tokenize settings a ≠ tokenize settings b := by
      cases links : settings.dropLinks with
      | true => exact h.exists_caseful_of_dropLinks links
      | false => exact h.exists_caseful_of_dropMentions links (by simpa using dropped links)
    exact differ (caseless a b same)
  · rintro (⟨links, mentions⟩ | none) a b same
    · refine tokenize_eq_of_foldCase_eq ?_
      simpa [unnamed, links, mentions] using same
    · rw [none, none]

/-- The settings of a classifier without settings drop a link in small letters and keep the words of
the same link in capital letters. -/
theorem not_caseless_capitalLink :
    ¬ ∀ (settings : Settings) (a b : String), foldCase a.toList = foldCase b.toList →
      tokenize settings a = tokenize settings b := by
  intro caseless
  have same := caseless {} "HTTP://SPAM.EXAMPLE/offer" "http://spam.example/offer"
    (by decide +kernel)
  have kept : tokenize {} "HTTP://SPAM.EXAMPLE/offer" = ["http", "spam", "example", "offer"] := by
    decide +kernel
  have dropped : tokenize {} "http://spam.example/offer" = [] := by decide +kernel
  rw [kept, dropped] at same
  cases same

end Moderation.Tokenizer

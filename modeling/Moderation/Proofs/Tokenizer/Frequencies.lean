import Mathlib.Data.List.TakeWhile
import Moderation.Tokenizer.Basic

/-!
# `Moderation.Proofs.Tokenizer.Frequencies`: what a token is, and how often it occurs

A token is made of word characters. The words of a text are runs of word characters, and a pair of
neighbouring words is joined by a low line, which is a word character too. `isToken_of_mem` says so
for every token of every text under every setting. In particular no token holds a colon
(`IsToken.colon_notMem`), which is what keeps the names of counters apart.

`frequencies` is a fold over the tokens. The facts that the counters need are read off the fold
once:

* `get?_frequencies`: the entry of a token is the number of its occurrences;
* `nodup_keys_frequencies`: each token has one entry;
* `mem_frequencies_iff`: the entries are the tokens with the numbers of their occurrences.
-/

set_option autoImplicit false

namespace Moderation.Tokenizer

open Text

/-! ### Tokens -/

/-- A token holds word characters only. -/
def IsToken (token : String) : Prop := ∀ c ∈ token.toList, isWord c = true

/-- The runs of a class hold characters of the class only. -/
theorem forall_mem_runs {p : Char → Bool} {text run : List Char} (h : run ∈ runs p text) :
    ∀ c ∈ run, p c = true := by
  fun_induction runs p text with
  | case1 => exact absurd h List.not_mem_nil
  | case2 c rest hc ih =>
    rcases List.mem_cons.mp h with rfl | h
    · intro d hd
      rcases List.mem_cons.mp hd with rfl | hd
      · exact hc
      · exact List.mem_takeWhile_imp hd
    · exact ih h
  | case3 c rest hc ih => exact ih h

/-- The words of a text that count are tokens. -/
theorem isToken_of_mem_keptWords {settings : Settings} {text word : String}
    (h : word ∈ keptWords settings text) : IsToken word := by
  have hword : word ∈ wordsIn settings text := (List.mem_filter.mp h).1
  obtain ⟨run, hrun, rfl⟩ := List.mem_map.mp hword
  intro c hc
  rw [String.toList_ofList] at hc
  exact forall_mem_runs hrun c hc

/-- Two tokens joined by a low line are a token. -/
theorem IsToken.join {first second : String} (h : IsToken first) (h' : IsToken second) :
    IsToken (first ++ "_" ++ second) := by
  intro c hc
  simp only [String.toList_append, List.mem_append] at hc
  rcases hc with (hc | hc) | hc
  · exact h c hc
  · have : c = '_' := by simpa using hc
    subst this
    decide
  · exact h' c hc

/-- The pairs of neighbouring tokens are tokens. -/
theorem isToken_of_mem_neighbours {words : List String} (h : ∀ word ∈ words, IsToken word) :
    ∀ pair ∈ neighbours words, IsToken pair := by
  fun_induction neighbours words with
  | case1 first second rest ih =>
    intro pair hpair
    rcases List.mem_cons.mp hpair with rfl | hpair
    · exact (h first (by simp)).join (h second (by simp))
    · exact ih (fun word hword => h word (List.mem_cons_of_mem _ hword)) pair hpair
  | case2 => simp

/-- The tokens of a text are tokens. -/
theorem isToken_of_mem {settings : Settings} {text token : String}
    (h : token ∈ tokenize settings text) : IsToken token := by
  have kept : ∀ word ∈ keptWords settings text, IsToken word :=
    fun _ hword => isToken_of_mem_keptWords hword
  simp only [tokenize] at h
  split at h
  · rcases List.mem_append.mp h with h | h
    · exact kept token h
    · exact isToken_of_mem_neighbours kept token h
  · exact kept token h

/-- A token holds no colon. -/
theorem IsToken.colon_notMem {token : String} (h : IsToken token) : ':' ∉ token.toList := by
  intro hc
  have : isWord ':' = true := h ':' hc
  exact absurd this (by decide)

/-! ### Frequencies -/

/-- Counting one more occurrence of a token adds one to its number and leaves the others. -/
theorem get?_countIn (counts : Entries Nat) (token other : String) :
    ((countIn counts token).get? other).getD 0
      = (counts.get? other).getD 0 + if token = other then 1 else 0 := by
  rw [countIn, Entries.get?_set]
  by_cases h : token = other
  · subst h; simp
  · simp [h]

/-- The fold of `frequencies` from any start: each token gains the number of its occurrences. -/
theorem getD_foldl_countIn (tokens : List String) (counts : Entries Nat) (token : String) :
    ((tokens.foldl countIn counts).get? token).getD 0
      = (counts.get? token).getD 0 + tokens.count token := by
  induction tokens generalizing counts with
  | nil => simp
  | cons t rest ih =>
    rw [List.foldl_cons, ih, get?_countIn, List.count_cons]
    by_cases h : t = token <;> simp [h, Nat.add_assoc, Nat.add_comm 1]

/-- Each token has one entry. -/
theorem nodup_keys_frequencies (tokens : List String) : (frequencies tokens).keys.Nodup := by
  -- The fold goes on from what was counted before, so this is said of every start.
  suffices h : ∀ counts : Entries Nat, counts.keys.Nodup →
      (tokens.foldl countIn counts).keys.Nodup from h [] List.nodup_nil
  induction tokens with
  | nil => intro counts h; exact h
  | cons t rest ih =>
    intro counts h
    exact ih _ (Entries.nodup_keys_set _ _ _ h)

/-- The names of the entries are the tokens. -/
theorem mem_keys_frequencies (tokens : List String) (token : String) :
    token ∈ (frequencies tokens).keys ↔ token ∈ tokens := by
  suffices h : ∀ counts : Entries Nat,
      token ∈ (tokens.foldl countIn counts).keys ↔ token ∈ counts.keys ∨ token ∈ tokens by
    rw [frequencies, h []]
    simp [Entries.keys]
  induction tokens with
  | nil => intro counts; simp
  | cons t rest ih =>
    intro counts
    rw [List.foldl_cons, ih, countIn, Entries.keys_set]
    split <;> grind

/-- An entry says how often its token occurs, which is at least once. -/
theorem mem_frequencies_iff (tokens : List String) (token : String) (n : Nat) :
    (token, n) ∈ frequencies tokens ↔ token ∈ tokens ∧ n = tokens.count token := by
  -- The names are distinct, so an entry is what a look-up of its name finds.
  have value (m : Nat) (hm : (token, m) ∈ frequencies tokens) : m = tokens.count token := by
    have hget := Entries.get?_of_mem (nodup_keys_frequencies tokens) hm
    have hcount := getD_foldl_countIn tokens [] token
    rw [← frequencies, hget] at hcount
    simpa using hcount
  constructor
  · intro h
    exact ⟨(mem_keys_frequencies tokens token).mp (List.mem_map.mpr ⟨_, h, rfl⟩), value n h⟩
  · rintro ⟨htoken, rfl⟩
    obtain ⟨⟨_, m⟩, hm, rfl⟩ := List.mem_map.mp ((mem_keys_frequencies tokens token).mpr htoken)
    rw [← value m hm]
    exact hm

end Moderation.Tokenizer

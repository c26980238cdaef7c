import Moderation.Proofs.Result
import Moderation.Proofs.Text.Tidying
import Moderation.Resource.Adapter

/-!
# `Moderation.Proofs.Resource.Paragraphs`: the fields in the text of a resource

Whatever a field holds, its flattened text is tidy: markup and entities give way before blanks are
squeezed, so it does not matter which blanks come out of an entity. A table is put together from tidy
texts that are not empty, and so it is tidy at every depth (`isTidy_flattenValue`, by induction on the
nested tables).

There is no end of a line in a tidy text, so an empty line in the text of a resource can only come from
between two fields. Cut at its empty lines (`paragraphs`), the text falls into its fields again
(`cutAtFeeds_intercalate`).

Which fields a resource has follows from its type (`Content.fields`) and not from its adapter. An adapter
reads all of them and in their order (`eq_fields_of_reading?`), so `extract_paragraphs` speaks of the fields
of the resource, for all resources that are accepted.
-/

set_option autoImplicit false

namespace Moderation.Resource

open Text

/-! ### Flattened fields -/

/-- The last thing that is done to a text is to squeeze and trim its blanks. -/
theorem isTidy_cleanText {text clean : List Char} (h : cleanText text = .ok clean) : IsTidy clean := by
  rw [cleanText] at h
  split at h
  · cases h
    exact isTidy_trim_squeeze _
  · cases h

/-- Tidy texts are put together with one blank between those that are not empty. -/
theorem isTidy_joinGiven {parts : List (List Char)} (h : ∀ part ∈ parts, IsTidy part) :
    IsTidy (joinGiven [' '] parts) := by
  refine (isTidy_intercalate fun part member => ?_).1
  obtain ⟨member, given⟩ := List.mem_filter.mp member
  exact ⟨h part member, fun empty => by simp [empty] at given⟩

mutual

/-- A flattened field is tidy. -/
theorem isTidy_flattenValue : ∀ {value : Value} {text : List Char}, flattenValue value = .ok text →
    IsTidy text
  | .null, _, h => by
    rw [flattenValue] at h
    cases h
    exact isTidy_nil
  | .text _, _, h | .number _, _, h | .moment _, _, h | .list _, _, h => by
    rw [flattenValue] at h
    exact isTidy_cleanText h
  | .table entries, _, h => by
    rw [flattenValue] at h
    obtain ⟨parts, made, same⟩ := ok_of_bind h
    cases same
    refine isTidy_joinGiven fun part member => ?_
    obtain ⟨entry, among, given⟩ := exists_of_mem_mapM made part member
    exact isTidy_of_mem_flattenEntries entries (List.mem_mergeSort.mp among) given

/-- The entries of a table are flattened one by one. -/
theorem isTidy_of_mem_flattenEntries : ∀ (entries : List (String × Value))
    {entry : String × Except Error (List Char)}, entry ∈ flattenEntries entries →
    ∀ {text : List Char}, entry.2 = .ok text → IsTidy text
  | [], _, member, _, _ => by
    rw [flattenEntries] at member
    cases member
  | (_, value) :: entries, _, member, _, given => by
    rw [flattenEntries] at member
    rcases List.mem_cons.mp member with rfl | member
    · exact isTidy_flattenValue given
    · exact isTidy_of_mem_flattenEntries entries member given

end

/-! ### Texts cut at their empty lines -/

/-- The parts of a text between each two line feeds. -/
def cutAtFeeds : List Char → List (List Char)
  | [] => [[]]
  | '\n' :: '\n' :: rest => [] :: cutAtFeeds rest
  | c :: rest =>
    match cutAtFeeds rest with
    | [] => [[c]]
    | part :: parts => (c :: part) :: parts

/-- The parts of a text between its empty lines. -/
def paragraphs (text : String) : List String := (cutAtFeeds text.toList).map String.ofList

/-- A character that is no line feed belongs to the part that it begins. -/
theorem cutAtFeeds_cons {c : Char} (other : c ≠ '\n') (rest : List Char) :
    cutAtFeeds (c :: rest)
      = match cutAtFeeds rest with
        | [] => [[c]]
        | part :: parts => (c :: part) :: parts := by
  rw [cutAtFeeds]
  exact fun _ same => absurd same other

/-- A part without line feeds is cut off in front of the first two. -/
theorem cutAtFeeds_append {part : List Char} (plain : '\n' ∉ part) (rest : List Char) :
    cutAtFeeds (part ++ ['\n', '\n'] ++ rest) = part :: cutAtFeeds rest := by
  induction part with
  | nil => rfl
  | cons c part ih =>
    rw [List.mem_cons, not_or] at plain
    rw [List.cons_append, List.cons_append, cutAtFeeds_cons (Ne.symm plain.1), ih plain.2]

/-- A text without line feeds is one part. -/
theorem cutAtFeeds_eq_self {part : List Char} (plain : '\n' ∉ part) : cutAtFeeds part = [part] := by
  induction part with
  | nil => rfl
  | cons c part ih =>
    rw [List.mem_cons, not_or] at plain
    rw [cutAtFeeds_cons (Ne.symm plain.1), ih plain.2]

/-- What is put together with empty lines falls into its parts again. -/
theorem cutAtFeeds_intercalate {parts : List (List Char)} (nonempty : parts ≠ [])
    (plain : ∀ part ∈ parts, '\n' ∉ part) : cutAtFeeds (['\n', '\n'].intercalate parts) = parts := by
  induction parts with
  | nil => exact absurd rfl nonempty
  | cons part parts ih =>
    obtain ⟨first, behind⟩ := List.forall_mem_cons.mp plain
    cases parts with
    | nil => rw [List.intercalate_singleton, cutAtFeeds_eq_self first]
    | cons next parts =>
      rw [List.intercalate_cons_cons, cutAtFeeds_append first, ih (List.cons_ne_nil _ _) behind]

/-! ### The text of a resource -/

/-- Only no characters make the empty text. -/
theorem ofList_eq_empty_iff (text : List Char) : String.ofList text = "" ↔ text = [] := by
  simp

/-- Nothing is put together only if there is nothing to put together. -/
theorem joinGiven_eq_nil_iff (separator : List Char) (parts : List (List Char)) :
    joinGiven separator parts = [] ↔ ∀ part ∈ parts, part = [] := by
  have given : parts.filter (!·.isEmpty) = [] ↔ ∀ part ∈ parts, part = [] := by
    simp [List.filter_eq_nil_iff]
  rw [← given, joinGiven]
  constructor
  · intro none
    have nonempty : ∀ part ∈ parts.filter (!·.isEmpty), part ≠ [] := fun part member empty => by
      simp [empty] at member
    generalize parts.filter (!·.isEmpty) = held at none nonempty
    -- A first part that is not empty is in what is put together, whether or not another follows.
    cases held with
    | nil => rfl
    | cons part held =>
      refine absurd ?_ (nonempty part List.mem_cons_self)
      cases held with
      | nil => rwa [List.intercalate_singleton] at none
      | cons next held =>
        rw [List.intercalate_cons_cons, List.append_assoc] at none
        exact (List.append_eq_nil_iff.mp none).1
  · rintro none
    rw [none, List.intercalate_nil]

/-- Flattened fields are told as texts or as lists of characters. -/
theorem mapM_flatten (fields : List Value) :
    fields.mapM flatten = List.map String.ofList <$> fields.mapM flattenValue := by
  induction fields with
  | nil => rfl
  | cons field fields ih =>
    rw [List.mapM_cons, List.mapM_cons, ih, flatten]
    cases flattenValue field with
    | error e => rfl
    | ok text =>
      cases fields.mapM flattenValue <;> rfl

/-- Fields that can be joined can be told apart again. -/
theorem joinFields_paragraphs {fields : List Value} {joined : String}
    (h : joinFields fields = .ok joined) :
    ∃ texts, fields.mapM flatten = .ok texts ∧ (∀ text ∈ texts, IsTidy text.toList)
      ∧ (joined = "" ↔ ∀ text ∈ texts, text = "")
      ∧ (joined ≠ "" → paragraphs joined = texts.filter (· ≠ "")) := by
  obtain ⟨parts, flattened, same⟩ := ok_of_bind h
  cases same
  -- A tidy text has no line feed, so the line feeds of the joined text are those between the parts.
  have tidy : ∀ part ∈ parts, IsTidy part := fun part member => by
    obtain ⟨field, -, made⟩ := exists_of_mem_mapM flattened part member
    exact isTidy_flattenValue made
  refine ⟨parts.map String.ofList, ?_, ?_, ?_, ?_⟩
  · rw [mapM_flatten, flattened]
    rfl
  · rw [List.forall_mem_map]
    exact fun part member => by rw [String.toList_ofList]; exact tidy part member
  · rw [List.forall_mem_map, ofList_eq_empty_iff, joinGiven_eq_nil_iff]
    exact forall₂_congr fun part _ => (ofList_eq_empty_iff part).symm
  · intro given
    have some : parts.filter (!·.isEmpty) ≠ [] := fun none => given (by
      rw [joinGiven, none, List.intercalate_nil])
    have plain : ∀ part ∈ parts.filter (!·.isEmpty), '\n' ∉ part := fun part member =>
      (tidy part (List.mem_filter.mp member).1).not_mem (by decide) (by decide)
    rw [paragraphs, String.toList_ofList, joinGiven, cutAtFeeds_intercalate some plain, List.filter_map]
    congr 1
    refine List.filter_congr fun part _ => ?_
    rw [Function.comp_apply, Bool.eq_iff_iff]
    simp

/-- An adapter reads all fields of a content, in their order. -/
theorem eq_fields_of_reading? {content : Content} {needed : String} {fields : List Value}
    (reading : content.reading? = some (needed, fields)) : fields = content.fields.map (·.2) := by
  cases content <;> cases reading <;> rfl

/-- The text of an accepted resource is made of all its fields. -/
theorem joinFields_of_extract {adapter : Adapter} {resource : Resource} {lesson : Lesson}
    (accepted : adapter.extract resource = .ok lesson) :
    joinFields (resource.content.fields.map (·.2)) = .ok lesson.text := by
  rw [Adapter.extract] at accepted
  obtain ⟨models, -, accepted⟩ := ok_of_bind accepted
  split at accepted
  · cases accepted
  split at accepted
  · next fields found =>
    obtain ⟨joined, made, same⟩ := ok_of_bind accepted
    cases same
    rw [Adapter.fieldsFor?] at found
    split at found
    · next needed read reading =>
      split at found
      · cases found
        rw [← eq_fields_of_reading? reading]
        exact made
      · cases found
    · cases found
  · -- An adapter that does not fit the content accepts nothing.
    obtain ⟨_, -, failed⟩ := ok_of_bind accepted
    cases failed

/-- The text of a resource that is accepted tells the fields of the resource. Each field is flattened to
a tidy text. There is no text if all of them are empty, and otherwise the parts of the text between its
empty lines are those that are not, in the order of the fields. -/
theorem extract_paragraphs {adapter : Adapter} {resource : Resource} {lesson : Lesson}
    (accepted : adapter.extract resource = .ok lesson) :
    ∃ texts, (resource.content.fields.map (·.2)).mapM flatten = .ok texts
      ∧ (∀ text ∈ texts, IsTidy text.toList)
      ∧ (lesson.text = "" ↔ ∀ text ∈ texts, text = "")
      ∧ (lesson.text ≠ "" → paragraphs lesson.text = texts.filter (· ≠ "")) :=
  joinFields_paragraphs (joinFields_of_extract accepted)

/-- A meeting with a translated title, with line feeds from entities, and with fields that hold nothing
but markup or nothing at all. -/
theorem extract_paragraphs_meeting :
    let adapter : Adapter := ⟨.table [("Meeting", .text "meeting")], .text "spam", .text "ham"⟩
    let title : Value := .table [("fr", .table [("ca", .text "Bonjour&#10;&#10;<b>toi</b>")])]
    let meeting : Resource := ⟨.null, true, .meeting title .null (.text "<br>") (.text "A\n\nB")⟩
    ∃ lesson, adapter.extract meeting = .ok lesson
      ∧ paragraphs lesson.text = ["Bonjour toi", "A B"] := by
  intro adapter title meeting
  have succeeds : (adapter.extract meeting).toOption.isSome = true := by decide +kernel
  obtain ⟨lesson, accepted⟩ := ok_of_isSome succeeds
  obtain ⟨texts, flattened, -, empty, cut⟩ := extract_paragraphs accepted
  have read : ((meeting.content.fields.map (·.2)).mapM flatten).toOption
      = some ["Bonjour toi", "", "", "A B"] := by
    decide +kernel
  rw [flattened] at read
  cases read
  refine ⟨lesson, accepted, ?_⟩
  -- One of the fields has a text, so the joined text is not empty.
  rw [cut fun none => absurd (empty.mp none "A B" (by decide)) (by decide)]
  decide

end Moderation.Resource

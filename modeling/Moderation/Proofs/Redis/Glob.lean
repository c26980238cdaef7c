import Mathlib.Data.List.Infix
import Moderation.Proofs.Text.Bytes
import Moderation.Store.Memory

/-!
# `Moderation.Proofs.Redis.Glob`: the patterns of a server

A server finds names by a pattern. A star stands for any bytes and a question mark for any one byte,
brackets list the bytes that may stand in a place, and a backslash takes the meaning from the byte
behind it. A class without a closing bracket ends where the pattern ends.

Whoever looks for the names that begin with a scope asks for the scope with a star behind it. This is
right for each name if and only if the scope has none of the four characters with a meaning
(`fits_scope_iff`). That others are wrong comes from counting. Between the shortest name that fits and
a longer one there are bytes that a star stands for, and these can be replaced at will
(`exists_slack`). So no name that fits may be shorter than the scope, and the pattern has as many
places as bytes (`length_places_le`): no byte is spent on a class or on a backslash, and one only on a
star.
-/

set_option autoImplicit false

namespace Moderation.Redis.Glob

open Text (byteOf bytes)

/-! ### Patterns -/

/-- A member of a class: a byte, or all bytes from one to another, in either direction. -/
inductive Member where
  | byte (b : UInt8)
  | range (first last : UInt8)

/-- Whether a member of a class stands for a byte. -/
def Member.holds : Member → UInt8 → Bool
  | byte b, c => b == c
  | range first last, c => (first ≤ c && c ≤ last) || (last ≤ c && c ≤ first)

/-- What stands in one place of a pattern. -/
inductive Place where
  /-- Any bytes, or none. -/
  | many
  | any
  | byte (b : UInt8)
  /-- A byte of the class, or a byte outside of it. -/
  | among (members : List Member) (outside : Bool)

/-- Whether a place stands for any number of bytes. -/
def Place.isMany : Place → Bool
  | many => true
  | _ => false

/-- Whether a place for one byte admits it. -/
def Place.admits : Place → UInt8 → Bool
  | many, _ => false
  | any, _ => true
  | byte b, c => b == c
  | among members outside, c => members.any (·.holds c) != outside

/-- The member of a class that a pattern begins with, and the pattern behind it; none where the class
ends. -/
def readMember? : List UInt8 → Option (Member × List UInt8)
  | [] => none
  | b :: rest =>
    if b = byteOf ']' then none
    else if b = byteOf '\\' then
      match rest with
      | [] => some (.byte b, [])
      | c :: rest => some (.byte c, rest)
    else
      match rest with
      | dash :: last :: after =>
        if dash = byteOf '-' then some (.range b last, after) else some (.byte b, rest)
      | rest => some (.byte b, rest)

/-- A member takes a byte or more of the pattern. -/
theorem length_of_readMember? {pattern rest : List UInt8} {member : Member}
    (h : readMember? pattern = some (member, rest)) : rest.length < pattern.length := by
  fun_cases readMember? pattern <;> simp_all [readMember?]
  -- Left are an escape and a range, which take more than one byte.
  all_goals omega

/-- The members of a class, and the pattern behind the class. -/
def readMembers (pattern : List UInt8) : List Member × List UInt8 :=
  match h : readMember? pattern with
  | some (member, rest) =>
    have := length_of_readMember? h
    (member :: (readMembers rest).1, (readMembers rest).2)
  | none => ([], pattern.drop 1)
termination_by pattern.length

/-- The place of a class, and the pattern behind it. -/
def readClass (pattern : List UInt8) : Place × List UInt8 :=
  let outside := pattern.head? == some (byteOf '^')
  let class_ := readMembers (if outside then pattern.drop 1 else pattern)
  (.among class_.1 outside, class_.2)

/-- A class that is read takes one byte or more, unless the pattern is at its end. -/
theorem length_readMembers_le (pattern : List UInt8) :
    (readMembers pattern).2.length ≤ pattern.length - 1 := by
  fun_induction readMembers pattern with
  | case1 pattern member rest read shorter ih => simp only; omega
  | case2 pattern read => simp

/-- So does a class that lists what may not stand in its place. -/
theorem length_readClass_le (pattern : List UInt8) :
    (readClass pattern).2.length ≤ pattern.length - 1 := by
  have class_ := length_readMembers_le
    (if pattern.head? == some (byteOf '^') then pattern.drop 1 else pattern)
  have shorter : (if pattern.head? == some (byteOf '^') then pattern.drop 1 else pattern).length
      ≤ pattern.length := by
    split <;> simp
  exact class_.trans (by omega)

/-- The places of a pattern. -/
def places : List UInt8 → List Place
  | [] => []
  | b :: rest =>
    if b = byteOf '*' then .many :: places rest
    else if b = byteOf '?' then .any :: places rest
    else if b = byteOf '[' then (readClass rest).1 :: places (readClass rest).2
    else if b = byteOf '\\' then
      match rest with
      | [] => [.byte b]
      | c :: rest => .byte c :: places rest
    else .byte b :: places rest
termination_by pattern => pattern.length
decreasing_by
  all_goals have := length_readClass_le rest
  all_goals simp only [List.length_cons]
  all_goals omega

/-- Whether bytes fit some places. -/
def fitsPlaces : List Place → List UInt8 → Bool
  | [], text => text.isEmpty
  | .many :: rest, text => text.tails.any fun after => fitsPlaces rest after
  | _ :: _, [] => false
  | place :: rest, b :: text => place.admits b && fitsPlaces rest text

/-- Whether a name fits a pattern. -/
def fits (pattern name : String) : Bool :=
  fitsPlaces (places (bytes pattern.toList)) (bytes name.toList)

/-! ### Names that fit -/

variable {place : Place} {rest : List Place} {text : List UInt8}

/-- A star takes some bytes, and the rest fits behind them. -/
theorem fitsPlaces_many_iff : fitsPlaces (.many :: rest) text = true
    ↔ ∃ within after, text = within ++ after ∧ fitsPlaces rest after = true := by
  rw [fitsPlaces, List.any_eq_true]
  constructor
  · rintro ⟨after, member, fits⟩
    obtain ⟨within, rfl⟩ := (List.mem_tails _ _).mp member
    exact ⟨within, after, rfl, fits⟩
  · rintro ⟨within, after, rfl, fits⟩
    exact ⟨after, (List.mem_tails _ _).mpr ⟨within, rfl⟩, fits⟩

/-- A place for one byte takes one that it admits. -/
theorem fitsPlaces_single_iff (single : place.isMany = false) : fitsPlaces (place :: rest) text = true
    ↔ ∃ b after, text = b :: after ∧ place.admits b = true ∧ fitsPlaces rest after = true := by
  cases text with
  | nil => cases place <;> simp_all [fitsPlaces, Place.isMany]
  | cons b text => cases place <;> simp_all [fitsPlaces, Place.isMany]

/-- The number of places for one byte. -/
def singles (places : List Place) : Nat := places.countP (!·.isMany)

/-- A place is a star or stands for one byte. -/
theorem length_eq_add_singles (places : List Place) :
    places.length = places.countP Place.isMany + singles places := by
  induction places with
  | nil => rfl
  | cons place places ih =>
    rw [singles] at ih ⊢
    cases many : place.isMany <;> simp [many] <;> omega

/-- Without a star, all names that fit have one length. -/
theorem length_of_fitsPlaces {places : List Place} (singles : ∀ place ∈ places, place.isMany = false)
    (h : fitsPlaces places text = true) : text.length = places.length := by
  induction places generalizing text with
  | nil => simpa [fitsPlaces] using h
  | cons place places ih =>
    obtain ⟨single, singles⟩ := List.forall_mem_cons.mp singles
    obtain ⟨b, after, rfl, -, fits⟩ := (fitsPlaces_single_iff single).mp h
    rw [List.length_cons, List.length_cons, ih singles fits]

/-- A name with more bytes than there are places for one has bytes that a star stands for. -/
theorem exists_slack {places : List Place} (h : fitsPlaces places text = true)
    (long : singles places < text.length) : ∃ before within after,
      text = before ++ within ++ after ∧ within ≠ [] ∧
        ∀ within', fitsPlaces places (before ++ within' ++ after) = true := by
  induction places generalizing text with
  | nil =>
    rw [fitsPlaces, List.isEmpty_iff] at h
    simp [h] at long
  | cons place places ih =>
    cases many : place.isMany with
    | true =>
      obtain rfl : place = .many := by cases place <;> simp_all [Place.isMany]
      obtain ⟨within, after, rfl, fits⟩ := fitsPlaces_many_iff.mp h
      cases within with
      | cons b within =>
        exact ⟨[], b :: within, after, rfl, List.cons_ne_nil _ _,
          fun within' => fitsPlaces_many_iff.mpr ⟨within', after, rfl, fits⟩⟩
      | nil =>
        -- This star stands for nothing, so it is another one.
        have long' : singles places < after.length := by simpa [singles, Place.isMany] using long
        obtain ⟨before, within, after', same, some, fits'⟩ := ih fits long'
        exact ⟨before, within, after', same, some,
          fun within' => fitsPlaces_many_iff.mpr ⟨[], _, rfl, fits' within'⟩⟩
    | false =>
      obtain ⟨b, after, rfl, admitted, fits⟩ := (fitsPlaces_single_iff many).mp h
      have long' : singles places < after.length := by
        simpa [singles, List.countP_cons, many] using long
      obtain ⟨before, within, after', rfl, some, fits'⟩ := ih fits long'
      exact ⟨b :: before, within, after', rfl, some,
        fun within' => (fitsPlaces_single_iff many).mpr ⟨b, _, rfl, admitted, fits' within'⟩⟩

/-! ### The places of a pattern -/

/-- Each place takes a byte of the pattern. -/
theorem length_places_le (pattern : List UInt8) : (places pattern).length ≤ pattern.length := by
  fun_induction places pattern with
  | case1 => simp
  | case2 rest ih => simpa using ih
  | case3 rest _ ih => simpa using ih
  | case4 rest _ _ ih =>
    have := length_readClass_le rest
    simp only [List.length_cons]
    omega
  | case5 => simp
  | case6 _ _ _ c rest ih => simp only [List.length_cons]; omega
  | case7 b rest _ _ _ _ ih => simpa using ih

/-- The place of a byte that begins neither a class nor takes the meaning from another. -/
def placeOf (b : UInt8) : Place :=
  if b = byteOf '*' then .many else if b = byteOf '?' then .any else .byte b

/-- A byte that does not change the meaning of those behind it has a place of its own. -/
theorem places_cons {b : UInt8} (bracket : b ≠ byteOf '[') (backslash : b ≠ byteOf '\\')
    (pattern : List UInt8) : places (b :: pattern) = placeOf b :: places pattern := by
  rw [places.eq_def, placeOf]
  simp only [if_neg bracket, if_neg backslash]
  split
  · rfl
  · split <;> rfl

/-- So have the bytes of a start without such bytes. -/
theorem places_append {start : List UInt8} (bracket : byteOf '[' ∉ start)
    (backslash : byteOf '\\' ∉ start) (pattern : List UInt8) :
    places (start ++ pattern) = start.map placeOf ++ places pattern := by
  induction start with
  | nil => rfl
  | cons b start ih =>
    rw [List.mem_cons, not_or] at bracket backslash
    rw [List.cons_append, places_cons (Ne.symm bracket.1) (Ne.symm backslash.1),
      ih bracket.2 backslash.2]
    rfl

/-- A star alone stands for any bytes. -/
theorem places_star : places [byteOf '*'] = [.many] := by
  rw [places_cons (by decide) (by decide), places]
  rfl

/-- A bracket begins a class. -/
theorem places_bracket (pattern : List UInt8) :
    places (byteOf '[' :: pattern) = (readClass pattern).1 :: places (readClass pattern).2 := by
  rw [places.eq_def]
  exact (if_neg (by decide)).trans ((if_neg (by decide)).trans (if_pos rfl))

/-- A backslash gives its place to the byte behind it. -/
theorem places_backslash (c : UInt8) (pattern : List UInt8) :
    places (byteOf '\\' :: c :: pattern) = .byte c :: places pattern := by
  rw [places.eq_def]
  exact (if_neg (by decide)).trans
    ((if_neg (by decide)).trans ((if_neg (by decide)).trans (if_pos rfl)))

/-- A class or a backslash with something behind it takes two bytes or more. -/
theorem length_places_cons_le {b c : UInt8} (h : b = byteOf '[' ∨ b = byteOf '\\')
    (pattern : List UInt8) : (places (b :: c :: pattern)).length ≤ pattern.length + 1 := by
  obtain rfl | rfl := h
  · have behind := length_readClass_le (c :: pattern)
    have taken := length_places_le (readClass (c :: pattern)).2
    simp only [List.length_cons, Nat.add_sub_cancel] at behind
    rw [places_bracket, List.length_cons]
    omega
  · rw [places_backslash, List.length_cons]
    exact Nat.succ_le_succ (length_places_le pattern)

/-- If each byte has a place before a last star, none is spent on a class or a backslash. -/
theorem notMem_of_length_places {start : List UInt8}
    (h : (places (start ++ [byteOf '*'])).length = start.length + 1) :
    byteOf '[' ∉ start ∧ byteOf '\\' ∉ start := by
  induction start with
  | nil => simp
  | cons b start ih =>
    -- A class or a backslash takes more than one byte for its place, so there would be too few
    -- places.
    have plain : b ≠ byteOf '[' ∧ b ≠ byteOf '\\' := by
      rw [← not_or]
      intro meant
      obtain ⟨c, pattern, same⟩ : ∃ c pattern, start ++ [byteOf '*'] = c :: pattern :=
        List.exists_cons_of_ne_nil (by simp)
      have few := length_places_cons_le (c := c) meant pattern
      have := congrArg List.length same
      rw [List.cons_append, same] at h
      simp only [List.length_append, List.length_cons, List.length_nil] at this h
      omega
    rw [List.cons_append, places_cons plain.1 plain.2, List.length_cons, List.length_cons] at h
    obtain ⟨bracket, backslash⟩ := ih (by omega)
    simp [bracket, backslash, Ne.symm plain.1, Ne.symm plain.2]

/-! ### Scopes -/

/-- A question mark admits any byte, and another byte only itself. -/
theorem admits_placeOf {b : UInt8} (star : b ≠ byteOf '*') :
    (placeOf b).isMany = false ∧ (placeOf b).admits b = true := by
  rw [placeOf, if_neg star]
  split <;> simp [Place.isMany, Place.admits]

/-- Bytes fit the places that they make, if there is no star among them. -/
theorem fitsPlaces_map_placeOf {start : List UInt8} (star : byteOf '*' ∉ start)
    (h : fitsPlaces rest text = true) :
    fitsPlaces (start.map placeOf ++ rest) (start ++ text) = true := by
  induction start with
  | nil => exact h
  | cons b start ih =>
    rw [List.mem_cons, not_or] at star
    obtain ⟨single, admitted⟩ := admits_placeOf (Ne.symm star.1)
    exact (fitsPlaces_single_iff single).mpr ⟨b, start ++ text, rfl, admitted, ih star.2⟩

/-- Everything fits a star. -/
theorem fitsPlaces_star (text : List UInt8) : fitsPlaces [.many] text = true :=
  fitsPlaces_many_iff.mpr ⟨text, [], by simp, rfl⟩

/-- The characters with a meaning in patterns. -/
def special : List Char := ['*', '?', '[', '\\']

/-- Each of them is one byte. -/
theorem toNat_le_of_mem_special {c : Char} (h : c ∈ special) : c.toNat ≤ 127 := by
  simp only [special, List.mem_cons, List.not_mem_nil, or_false] at h
  obtain rfl | rfl | rfl | rfl := h <;> decide

/-- What fits a scope of bytes without a meaning is what begins with it. -/
theorem fitsPlaces_plain_iff {start : List UInt8} (plain : ∀ c ∈ special, byteOf c ∉ start) :
    fitsPlaces (places (start ++ [byteOf '*'])) text = true ↔ start <+: text := by
  have star : byteOf '*' ∉ start := plain '*' (by decide)
  rw [places_append (plain '[' (by decide)) (plain '\\' (by decide)), places_star]
  have question : byteOf '?' ∉ start := plain '?' (by decide)
  constructor
  · -- Byte by byte, as each place admits one byte, until the star is left.
    intro fits
    clear plain
    induction start generalizing text with
    | nil => exact List.nil_prefix
    | cons b start ih =>
      rw [List.mem_cons, not_or] at star question
      obtain ⟨c, after, rfl, admitted, fits⟩ :=
        (fitsPlaces_single_iff (admits_placeOf (Ne.symm star.1)).1).mp fits
      rw [placeOf, if_neg (Ne.symm star.1), if_neg (Ne.symm question.1)] at admitted
      exact List.cons_prefix_cons.mpr ⟨eq_of_beq admitted, ih star.2 question.2 fits⟩
  · rintro ⟨after, rfl⟩
    exact fitsPlaces_map_placeOf star (fitsPlaces_star after)

/-- The places of the pattern for a scope: the scope with a star behind it. -/
def scopePlaces (scope : List Char) : List Place := places (bytes scope ++ [byteOf '*'])

/-- The names that fit the pattern for the scope are those that begin with the scope. -/
def IsExact (scope : List Char) : Prop :=
  ∀ name : List Char, fitsPlaces (scopePlaces scope) (bytes name) = true ↔ scope <+: name

/-- A scope without such characters is met by the names that begin with it. -/
theorem isExact_of_plain {scope : List Char} (plain : ∀ c ∈ special, c ∉ scope) : IsExact scope := by
  intro name
  rw [← Text.bytes_prefix_iff]
  exact fitsPlaces_plain_iff fun c meant member =>
    plain c meant ((Text.mem_bytes_iff (toNat_le_of_mem_special meant)).mp member)

namespace IsExact

variable {scope : List Char} (h : IsExact scope)
include h

/-- The scope fits, and so do longer names. -/
theorem exists_isMany : ∃ place ∈ scopePlaces scope, place.isMany = true := by
  by_contra none
  simp only [not_exists, not_and, Bool.not_eq_true] at none
  have short := length_of_fitsPlaces none ((h scope).mpr List.prefix_rfl)
  have long := length_of_fitsPlaces none ((h (scope ++ ['x'])).mpr (List.prefix_append _ _))
  have one : (bytes ['x']).length = 1 := by decide
  rw [Text.bytes_append, List.length_append] at long
  omega

/-- No byte of the scope is one that a star stands for: it could be replaced. -/
theorem length_bytes_le_singles : (bytes scope).length ≤ singles (scopePlaces scope) := by
  by_contra long
  obtain ⟨before, within, after, same, some, replaced⟩ :=
    exists_slack ((h scope).mpr List.prefix_rfl) (Nat.lt_of_not_le long)
  obtain ⟨name, within', code, departs⟩ := Text.exists_departing some same
  exact departs ((h name).mp (code ▸ replaced within'))

/-- Each byte of the scope has a place, and only the last place is for a star. -/
theorem length_scopePlaces : (scopePlaces scope).length = (bytes scope).length + 1
    ∧ (scopePlaces scope).countP Place.isMany = 1 := by
  have most : (scopePlaces scope).length ≤ (bytes scope).length + 1 :=
    (length_places_le _).trans (by simp)
  have some := List.countP_pos_iff.mpr h.exists_isMany
  have few := h.length_bytes_le_singles
  have parts := length_eq_add_singles (scopePlaces scope)
  omega

/-- No byte of the scope is spent on a class. -/
theorem bracket : byteOf '[' ∉ bytes scope := (notMem_of_length_places h.length_scopePlaces.1).1

/-- No byte of the scope is spent on a backslash. -/
theorem backslash : byteOf '\\' ∉ bytes scope := (notMem_of_length_places h.length_scopePlaces.1).2

/-- Each byte of the scope has a place, and behind them stands the star. -/
theorem scopePlaces_eq : scopePlaces scope = (bytes scope).map placeOf ++ [.many] := by
  rw [scopePlaces, places_append h.bracket h.backslash, places_star]

/-- The scope has no star of its own, since only the last place is one. -/
theorem star : byteOf '*' ∉ bytes scope := by
  intro member
  have another : 0 < ((bytes scope).map placeOf).countP Place.isMany :=
    List.countP_pos_iff.mpr ⟨.many, List.mem_map.mpr ⟨_, member, rfl⟩, rfl⟩
  have one := h.length_scopePlaces.2
  have last : [Place.many].countP Place.isMany = 1 := rfl
  rw [h.scopePlaces_eq, List.countP_append, last] at one
  omega

/-- Another character could stand where the scope has a question mark. -/
theorem question : '?' ∉ scope := by
  intro member
  obtain ⟨u, v, rfl⟩ := List.append_of_mem member
  have code (c : Char) (hc : c.toNat ≤ 127) :
      bytes (u ++ c :: v) = bytes u ++ byteOf c :: bytes v := by
    rw [Text.bytes_append, Text.bytes_cons, Text.utf8EncodeChar_of_le hc]
    rfl
  -- The question mark admits an "x" in its place.
  have fits : fitsPlaces (scopePlaces (u ++ '?' :: v)) (bytes (u ++ 'x' :: v)) = true := by
    have none := h.star
    rw [code '?' (by decide), List.mem_append, List.mem_cons, not_or, not_or] at none
    rw [h.scopePlaces_eq, code '?' (by decide), code 'x' (by decide), List.map_append,
      List.append_assoc]
    refine fitsPlaces_map_placeOf none.1 ?_
    refine (fitsPlaces_single_iff rfl).mpr ⟨_, _, rfl, rfl, ?_⟩
    simpa using fitsPlaces_map_placeOf none.2.2 (fitsPlaces_star [])
  have begins := (h _).mp fits
  rw [List.prefix_append_right_inj, List.cons_prefix_cons] at begins
  exact absurd begins.1 (by decide)

/-- So the scope has no character with a meaning. -/
theorem plain : ∀ c ∈ special, c ∉ scope := by
  have absent {c : Char} (small : c.toNat ≤ 127) (none : byteOf c ∉ bytes scope) : c ∉ scope :=
    fun member => none ((Text.mem_bytes_iff small).mpr member)
  intro c meant
  simp only [special, List.mem_cons, List.not_mem_nil, or_false] at meant
  obtain rfl | rfl | rfl | rfl := meant
  · exact absent (by decide) h.star
  · exact h.question
  · exact absent (by decide) h.bracket
  · exact absent (by decide) h.backslash

end IsExact

/-- The pattern for a scope is right for each name if and only if the scope has no character with a
meaning. -/
theorem fits_scope_iff (scope : String) :
    (∀ name, fits (scope ++ "*") name = Store.Memory.inScope scope name)
      ↔ ∀ c ∈ special, c ∉ scope.toList := by
  have pattern : bytes (scope ++ "*").toList = bytes scope.toList ++ [byteOf '*'] := by
    rw [String.toList_append, Text.bytes_append]
    rfl
  -- A name as its bytes, and the pattern as the bytes of the scope and a star.
  have each (name : String) : fits (scope ++ "*") name = Store.Memory.inScope scope name
      ↔ (fitsPlaces (scopePlaces scope.toList) (bytes name.toList) = true
        ↔ scope.toList <+: name.toList) := by
    rw [fits, pattern, Store.Memory.inScope, ← List.isPrefixOf_iff_prefix]
    exact Bool.eq_iff_iff
  constructor
  · intro h
    refine IsExact.plain fun name => ?_
    have := (each (String.ofList name)).mp (h _)
    rwa [String.toList_ofList] at this
  · exact fun plain name => (each name).mpr (isExact_of_plain plain name.toList)

end Moderation.Redis.Glob

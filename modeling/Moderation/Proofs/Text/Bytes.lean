/-!
# `Moderation.Proofs.Text.Bytes`: texts as bytes

A server knows nothing of characters: it keeps and compares the bytes of names. For the question with
what a name begins this makes no difference (`bytes_prefix_iff`), since no character begins with the
bytes of another.

It makes one for whoever changes some bytes of a text, as the result need not be a text. But if bytes
of a text can be replaced at will, then there is a text among the results, and it can be chosen so that
it parts from the first one there (`exists_departing`): the character that the replaced bytes belong to
gives way to one that shares all but its last byte (`exists_sibling`).
-/

set_option autoImplicit false

namespace Moderation.Text

open String (utf8EncodeChar)

/-- The bytes of a text, in UTF-8. -/
def bytes (text : List Char) : List UInt8 := text.flatMap utf8EncodeChar

/-- The empty text has no bytes. -/
@[simp]
theorem bytes_nil : bytes [] = [] := rfl

/-- The bytes of a text are those of its characters, one after the other. -/
@[simp]
theorem bytes_cons (c : Char) (text : List Char) :
    bytes (c :: text) = utf8EncodeChar c ++ bytes text := rfl

/-- The bytes of two texts together are those of the one and then those of the other. -/
@[simp]
theorem bytes_append (before after : List Char) :
    bytes (before ++ after) = bytes before ++ bytes after := List.flatMap_append

/-! ### What a text begins with -/

/-- The bytes of a text say which character is the first. -/
theorem eq_of_utf8EncodeChar_append {c d : Char} {x y : List UInt8}
    (h : utf8EncodeChar c ++ x = utf8EncodeChar d ++ y) : c = d := by
  have decoded (e : Char) (z : List UInt8) :
      (utf8EncodeChar e ++ z).toByteArray.utf8DecodeChar? 0 = some e := by
    rw [List.toByteArray_append]
    exact ByteArray.utf8DecodeChar?_utf8EncodeChar_append
  have first := decoded c x
  rw [h, decoded d y] at first
  exact (Option.some.inj first).symm

/-- Texts begin with the same characters if and only if they begin with the same bytes. -/
theorem bytes_prefix_iff {start text : List Char} : bytes start <+: bytes text ↔ start <+: text := by
  constructor
  · intro begins
    -- Character by character: the bytes say which one comes first, and then they can be taken off
    -- both.
    induction start generalizing text with
    | nil => exact List.nil_prefix
    | cons c start ih =>
      cases text with
      | nil =>
        rw [bytes_nil, List.prefix_nil, bytes_cons, List.append_eq_nil_iff] at begins
        exact absurd begins.1 (String.utf8EncodeChar_ne_nil)
      | cons d text =>
        obtain ⟨rest, same⟩ := begins
        rw [bytes_cons, bytes_cons, List.append_assoc] at same
        obtain rfl := eq_of_utf8EncodeChar_append same
        exact List.cons_prefix_cons.mpr ⟨rfl, ih ⟨rest, List.append_cancel_left same⟩⟩
  · rintro ⟨rest, rfl⟩
    rw [bytes_append]
    exact List.prefix_append _ _

/-! ### Characters of one byte -/

/-- The byte of a character that has no other. -/
def byteOf (c : Char) : UInt8 := UInt8.ofNat c.toNat

/-- The first 128 characters have one byte, which is their number. -/
theorem utf8EncodeChar_of_le {c : Char} (h : c.toNat ≤ 127) : utf8EncodeChar c = [byteOf c] := by
  rw [utf8EncodeChar]
  exact if_pos h

/-- The bytes of a character of more than one byte are all beyond those of the others. -/
theorem lt_of_mem_utf8EncodeChar {c : Char} (h : 127 < c.toNat) {b : UInt8}
    (member : b ∈ utf8EncodeChar c) : 127 < b.toNat := by
  -- Each byte is a remainder of a division by 64 or less on top of 128 or more.
  rw [Char.toNat] at h
  rw [utf8EncodeChar] at member
  simp only [if_neg (Nat.not_le.mpr h)] at member
  split at member
  · simp only [List.mem_cons, List.not_mem_nil, or_false] at member
    obtain rfl | rfl := member <;> rw [UInt8.toNat_ofNat'] <;> omega
  · split at member
    · simp only [List.mem_cons, List.not_mem_nil, or_false] at member
      obtain rfl | rfl | rfl := member <;> rw [UInt8.toNat_ofNat'] <;> omega
    · simp only [List.mem_cons, List.not_mem_nil, or_false] at member
      obtain rfl | rfl | rfl | rfl := member <;> rw [UInt8.toNat_ofNat'] <;> omega

/-- A character of one byte is found in a text where its byte is found. -/
theorem mem_bytes_iff {c : Char} (h : c.toNat ≤ 127) {text : List Char} :
    byteOf c ∈ bytes text ↔ c ∈ text := by
  rw [bytes, List.mem_flatMap]
  constructor
  · rintro ⟨d, member, same⟩
    -- The byte may be that of another character of one byte, which has to be the same, or one of
    -- several, which are all larger.
    by_cases small : d.toNat ≤ 127
    · rw [utf8EncodeChar_of_le small, List.mem_singleton, ← UInt8.toNat_inj, byteOf, byteOf,
        UInt8.toNat_ofNat', UInt8.toNat_ofNat', Nat.mod_eq_of_lt (by omega),
        Nat.mod_eq_of_lt (by omega)] at same
      exact Char.toNat_inj.mp same ▸ member
    · have large := lt_of_mem_utf8EncodeChar (by omega) same
      rw [byteOf, UInt8.toNat_ofNat'] at large
      omega
  · intro member
    refine ⟨c, member, ?_⟩
    rw [utf8EncodeChar_of_le h]
    exact List.mem_singleton_self _

/-! ### Characters that differ in the last byte -/

/-- The last byte of a character holds the remainder of a division by 64. -/
theorem exists_lead_of_div_eq {c d : Char} (hc : 127 < c.toNat) (hd : 127 < d.toNat)
    (h : c.toNat / 64 = d.toNat / 64) : ∃ lead last last',
      utf8EncodeChar c = lead ++ [last] ∧ utf8EncodeChar d = lead ++ [last'] := by
  have quarter : c.toNat / 4096 = d.toNat / 4096 := by omega
  have eighth : c.toNat / 262144 = d.toNat / 262144 := by omega
  rw [Char.toNat, Char.toNat] at *
  rw [utf8EncodeChar, utf8EncodeChar]
  simp only [if_neg (Nat.not_le.mpr hc), if_neg (Nat.not_le.mpr hd)]
  -- Two, three or four bytes: both characters have as many, as the limits are multiples of 64.
  by_cases two : c.val.toNat ≤ 2047
  · have two' : d.val.toNat ≤ 2047 := by omega
    simp only [if_pos two, if_pos two', h]
    exact ⟨[_], _, _, rfl, rfl⟩
  · have two' : ¬ d.val.toNat ≤ 2047 := by omega
    simp only [if_neg two, if_neg two']
    by_cases three : c.val.toNat ≤ 65535
    · have three' : d.val.toNat ≤ 65535 := by omega
      simp only [if_pos three, if_pos three', h, quarter]
      exact ⟨[_, _], _, _, rfl, rfl⟩
    · have three' : ¬ d.val.toNat ≤ 65535 := by omega
      simp only [if_neg three, if_neg three', h, quarter, eighth]
      exact ⟨[_, _, _], _, _, rfl, rfl⟩

/-- Each character has another one that shares all but its last byte. -/
theorem exists_sibling (c : Char) : ∃ d lead last last', d ≠ c ∧
    utf8EncodeChar c = lead ++ [last] ∧ utf8EncodeChar d = lead ++ [last'] := by
  by_cases small : c.toNat ≤ 127
  · obtain ⟨d, few, other⟩ : ∃ d : Char, d.toNat ≤ 127 ∧ d ≠ c := by
      by_cases same : c = 'x'
      · exact ⟨'y', by decide, same ▸ by decide⟩
      · exact ⟨'x', by decide, Ne.symm same⟩
    exact ⟨d, [], _, _, other, utf8EncodeChar_of_le small, utf8EncodeChar_of_le few⟩
  · -- The two numbers of a pair, the even one first, are both characters or both none.
    let n := if c.toNat % 2 = 0 then c.toNat + 1 else c.toNat - 1
    have valid : n.isValidChar := by
      have range : c.toNat < 0xd800 ∨ 0xdfff < c.toNat ∧ c.toNat < 0x110000 := c.valid
      show n < 0xd800 ∨ 0xdfff < n ∧ n < 0x110000
      grind
    have number : (Char.ofNat n).toNat = n := by rw [Char.ofNat, dif_pos valid]; rfl
    obtain ⟨lead, last, last', code, code'⟩ :=
      exists_lead_of_div_eq (c := c) (d := Char.ofNat n) (by omega) (by rw [number]; grind)
        (by rw [number]; grind)
    refine ⟨Char.ofNat n, lead, last, last', fun same => ?_, code, code'⟩
    rw [same] at number
    grind

/-- Each byte of a text belongs to a character. -/
theorem exists_char_of_byte {text : List Char} {before after : List UInt8} {b : UInt8}
    (h : bytes text = before ++ b :: after) : ∃ u c v x y,
      text = u ++ c :: v ∧ before = bytes u ++ x ∧ utf8EncodeChar c = x ++ b :: y := by
  induction text generalizing before with
  | nil => simp at h
  | cons c text ih =>
    rw [bytes_cons, List.append_eq_append_iff] at h
    -- The byte lies in the first character or behind it.
    obtain ⟨rest, rfl, inside⟩ | ⟨rest, first, inside⟩ := h
    · obtain ⟨u, d, v, x, y, rfl, rfl, same⟩ := ih inside
      exact ⟨c :: u, d, v, x, y, rfl, by simp, same⟩
    · cases rest with
      | nil =>
        have behind : bytes text = [] ++ b :: after := inside.symm
        obtain ⟨u, d, v, x, y, rfl, empty, same⟩ := ih behind
        exact ⟨c :: u, d, v, x, y, rfl, by simp [← empty, first], same⟩
      | cons _ y =>
        obtain ⟨rfl, -⟩ := List.cons.inj inside
        exact ⟨[], c, text, before, y, rfl, rfl, first⟩

/-- Where some bytes of a text can be replaced at will, the result can be a text that does not begin
with the first one. -/
theorem exists_departing {text : List Char} {before within after : List UInt8} (some : within ≠ [])
    (h : bytes text = before ++ within ++ after) : ∃ text' within',
      bytes text' = before ++ within' ++ after ∧ ¬ text <+: text' := by
  obtain ⟨b, within, rfl⟩ := List.exists_cons_of_ne_nil some
  rw [List.append_assoc, List.cons_append] at h
  obtain ⟨u, c, v, x, y, rfl, rfl, code⟩ := exists_char_of_byte h
  obtain ⟨d, lead, last, last', other, code', sibling⟩ := exists_sibling c
  -- The replaced bytes begin at the last byte of the character at the latest.
  obtain ⟨z, rfl⟩ : x <+: lead := by
    refine List.prefix_of_prefix_length_le ⟨_, code.symm⟩ ⟨_, code'.symm⟩ ?_
    have := congrArg List.length (code.symm.trans code')
    simp only [List.length_append, List.length_cons, List.length_nil] at this
    omega
  refine ⟨u ++ d :: (u ++ c :: v), z ++ [last'] ++ (bytes u ++ x) ++ b :: within, ?_, ?_⟩
  · rw [bytes_append, bytes_cons, sibling, h]
    simp only [List.append_assoc, List.cons_append]
  · rw [List.prefix_append_right_inj, List.cons_prefix_cons]
    exact fun same => other same.1.symm

end Moderation.Text

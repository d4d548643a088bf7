import ConfigReference.Text.Utf8
import Mathlib.Tactic.SplitIfs

/-!
# Decoding what was encoded

The octets of a text are decoded to the text.  Each character is looked at by the
number of its octets: the first octet announces how many follow and which range
the second is confined to, and the bits of all of them make up the code again.
The confinement never excludes a character, because no character is a surrogate.
It also excludes everything else: octets that are decoded are those of a text.
-/

namespace ConfigReference.Text

/-! ## Octets by their numbers -/

section Octets

variable {code : Nat}

theorem toNat_ofNat_octet (hcode : code < 256) : (UInt8.ofNat code).toNat = code :=
  UInt8.toNat_ofNat_of_lt' hcode

theorem not_ofNat_lt_ascii (hleast : 0x80 ≤ code) (hless : code < 256) :
    ¬ UInt8.ofNat code < 0x80 := by
  rw [UInt8.lt_iff_toNat_lt, toNat_ofNat_octet hless]
  exact Nat.not_lt.mpr hleast

theorem utf8Lead?_of_two (code : Nat) (hleast : 0xC2 ≤ code) (hless : code < 0xE0) :
    utf8Lead? (UInt8.ofNat code) = some ⟨1, 0x80, 0xBF, code - 0xC0⟩ := by
  rw [utf8Lead?, toNat_ofNat_octet (by omega), if_neg (by omega), if_pos hless]

/-- The confinement after `E0` excludes overlong forms, after `ED` surrogates. -/
theorem utf8Lead?_of_three (code : Nat) (hleast : 0xE0 ≤ code) (hless : code < 0xF0) :
    utf8Lead? (UInt8.ofNat code) =
      some ⟨2, if code = 0xE0 then 0xA0 else 0x80, if code = 0xED then 0x9F else 0xBF,
        code - 0xE0⟩ := by
  rw [utf8Lead?, toNat_ofNat_octet (by omega), if_neg (by omega), if_neg (by omega)]
  by_cases hfirst : code = 0xE0
  · simp [hfirst]
  · by_cases hsurrogate : code = 0xED
    · simp [hsurrogate]
    · simp [hfirst, hsurrogate, hless]

/-- The confinement after `F0` excludes overlong forms, after `F4` codes beyond the
last one. -/
theorem utf8Lead?_of_four (code : Nat) (hleast : 0xF0 ≤ code) (hless : code < 0xF5) :
    utf8Lead? (UInt8.ofNat code) =
      some ⟨3, if code = 0xF0 then 0x90 else 0x80, if code = 0xF4 then 0x8F else 0xBF,
        code - 0xF0⟩ := by
  rw [utf8Lead?, toNat_ofNat_octet (by omega), if_neg (by omega), if_neg (by omega),
    if_neg (by omega), if_neg (by omega), if_neg (by omega)]
  by_cases hfirst : code = 0xF0
  · simp [hfirst]
  · by_cases hlast : code = 0xF4
    · simp [hlast]
    · have hinside : code < 0xF4 := by omega
      simp [hfirst, hlast, hinside]

theorem isContinuation_ofNat (hless : code < 0x40) :
    isContinuation (UInt8.ofNat (code + 0x80)) = true := by
  have hleast : (0x80 : UInt8) ≤ UInt8.ofNat (code + 0x80) := by
    rw [UInt8.le_iff_toNat_le, toNat_ofNat_octet (by omega)]
    exact Nat.le_add_left _ _
  have hgreatest : UInt8.ofNat (code + 0x80) ≤ 0xBF := by
    rw [UInt8.le_iff_toNat_le, toNat_ofNat_octet (by omega)]
    exact Nat.add_le_add_right (Nat.le_of_lt_succ hless) 0x80
  rw [isContinuation, decide_eq_true hleast, decide_eq_true hgreatest, Bool.and_true]

theorem withContinuation_ofNat (bits : Nat) (hless : code < 0x40) :
    withContinuation bits (UInt8.ofNat (code + 0x80)) = bits * 64 + code := by
  have hoctet : (UInt8.ofNat (code + 0x80)).toNat = code + 0x80 := toNat_ofNat_octet (by omega)
  unfold withContinuation
  rw [hoctet]
  omega

end Octets

/-! ## Characters by their octets -/

section Decoding

variable {first second third fourth : UInt8} {lead : Utf8Lead}

/-- The second octet keeps to the range that the first one announces. -/
def Utf8Lead.Admits (lead : Utf8Lead) (second : UInt8) : Prop :=
  lead.least.toNat ≤ second.toNat ∧ second.toNat ≤ lead.greatest.toNat

theorem Utf8Lead.Admits.not_outside (hsecond : lead.Admits second) :
    ¬ (second < lead.least ∨ lead.greatest < second) := by
  obtain ⟨hleast, hgreatest⟩ := hsecond
  rw [UInt8.lt_iff_toNat_lt, UInt8.lt_iff_toNat_lt]
  omega

/-- A confinement at either end is kept by what it stands for. -/
theorem Utf8Lead.admits_ofNat (low high : Nat) {following bits code : Nat} {atLow atHigh : Prop}
    [Decidable atLow] [Decidable atHigh] (hcode : code < 0x40) (hhigh : high < 0xC0)
    (hlow : atLow → low ≤ code + 0x80) (hconfined : atHigh → code + 0x80 ≤ high) :
    Utf8Lead.Admits
      ⟨following, if atLow then UInt8.ofNat low else 0x80,
        if atHigh then UInt8.ofNat high else 0xBF, bits⟩
      (UInt8.ofNat (code + 0x80)) := by
  have hoctet : (UInt8.ofNat (code + 0x80)).toNat = code + 0x80 := toNat_ofNat_octet (by omega)
  rw [Utf8Lead.Admits, hoctet]
  dsimp only
  constructor
  · split
    · next hat => exact Nat.le_trans (Nat.mod_le low 256) (hlow hat)
    · exact Nat.le_add_left _ _
  · split
    · next hat =>
      rw [toNat_ofNat_octet (by omega)]
      exact hconfined hat
    · exact Nat.add_le_add_right (Nat.le_of_lt_succ hcode) 0x80

theorem decodeUtf8From_two (hfirst : ¬ first < 0x80) (hlead : utf8Lead? first = some lead)
    (hfollowing : lead.following = 1) (hsecond : lead.Admits second) (position : Nat)
    (rest : List UInt8) :
    decodeUtf8From position (first :: second :: rest) =
      consText (withContinuation lead.bits second) (decodeUtf8From (position + 2) rest) := by
  rw [decodeUtf8From, if_neg hfirst, hlead]
  simp only [if_neg hsecond.not_outside, if_pos hfollowing]

theorem decodeUtf8From_three (hfirst : ¬ first < 0x80) (hlead : utf8Lead? first = some lead)
    (hfollowing : lead.following = 2) (hsecond : lead.Admits second)
    (hthird : isContinuation third = true) (position : Nat) (rest : List UInt8) :
    decodeUtf8From position (first :: second :: third :: rest) =
      consText (withContinuation (withContinuation lead.bits second) third)
        (decodeUtf8From (position + 3) rest) := by
  rw [decodeUtf8From, if_neg hfirst, hlead]
  simp [hsecond.not_outside, hfollowing, hthird]

theorem decodeUtf8From_four (hfirst : ¬ first < 0x80) (hlead : utf8Lead? first = some lead)
    (hfollowing : lead.following = 3) (hsecond : lead.Admits second)
    (hthird : isContinuation third = true) (hfourth : isContinuation fourth = true)
    (position : Nat) (rest : List UInt8) :
    decodeUtf8From position (first :: second :: third :: fourth :: rest) =
      consText
        (withContinuation (withContinuation (withContinuation lead.bits second) third) fourth)
        (decodeUtf8From (position + 4) rest) := by
  rw [decodeUtf8From, if_neg hfirst, hlead]
  simp [hsecond.not_outside, hfollowing, hthird, hfourth]

end Decoding

section Encoding

variable {c : Char}

theorem utf8EncodeChar_one (hless : c.toNat < 0x80) :
    String.utf8EncodeChar c = [UInt8.ofNat c.toNat] :=
  if_pos (Nat.le_of_lt_succ hless)

theorem utf8EncodeChar_two (hleast : 0x80 ≤ c.toNat) (hless : c.toNat < 0x800) :
    String.utf8EncodeChar c =
      [UInt8.ofNat (c.toNat / 64 % 32 + 0xC0), UInt8.ofNat (c.toNat % 64 + 0x80)] :=
  (if_neg (Nat.not_le.mpr hleast)).trans (if_pos (Nat.le_of_lt_succ hless))

theorem utf8EncodeChar_three (hleast : 0x800 ≤ c.toNat) (hless : c.toNat < 0x10000) :
    String.utf8EncodeChar c =
      [UInt8.ofNat (c.toNat / 4096 % 16 + 0xE0), UInt8.ofNat (c.toNat / 64 % 64 + 0x80),
        UInt8.ofNat (c.toNat % 64 + 0x80)] :=
  (if_neg (Nat.not_le.mpr (Nat.lt_of_lt_of_le (by decide) hleast))).trans
    ((if_neg (Nat.not_le.mpr hleast)).trans (if_pos (Nat.le_of_lt_succ hless)))

theorem utf8EncodeChar_four (hleast : 0x10000 ≤ c.toNat) :
    String.utf8EncodeChar c =
      [UInt8.ofNat (c.toNat / 262144 % 8 + 0xF0), UInt8.ofNat (c.toNat / 4096 % 64 + 0x80),
        UInt8.ofNat (c.toNat / 64 % 64 + 0x80), UInt8.ofNat (c.toNat % 64 + 0x80)] :=
  (if_neg (Nat.not_le.mpr (Nat.lt_of_lt_of_le (by decide) hleast))).trans
    ((if_neg (Nat.not_le.mpr (Nat.lt_of_lt_of_le (by decide) hleast))).trans
      (if_neg (Nat.not_le.mpr hleast)))

end Encoding

/-! ## The way back -/

section Back

variable {c : Char} (position : Nat) (rest : List UInt8)

theorem decodeUtf8From_encode_one (hless : c.toNat < 0x80) :
    decodeUtf8From position (String.utf8EncodeChar c ++ rest) =
      consText c.toNat (decodeUtf8From (position + 1) rest) := by
  have hoctet : (UInt8.ofNat c.toNat).toNat = c.toNat := toNat_ofNat_octet (by omega)
  have hfirst : UInt8.ofNat c.toNat < 0x80 := by
    rw [UInt8.lt_iff_toNat_lt, hoctet]
    exact hless
  rw [utf8EncodeChar_one hless, List.singleton_append, decodeUtf8From, if_pos hfirst, hoctet]

theorem decodeUtf8From_encode_two (hleast : 0x80 ≤ c.toNat) (hless : c.toNat < 0x800) :
    decodeUtf8From position (String.utf8EncodeChar c ++ rest) =
      consText c.toNat (decodeUtf8From (position + 2) rest) := by
  have hlead := utf8Lead?_of_two (c.toNat / 64 % 32 + 0xC0) (by omega) (by omega)
  have hsecond : (⟨1, 0x80, 0xBF, c.toNat / 64 % 32 + 0xC0 - 0xC0⟩ : Utf8Lead).Admits
      (UInt8.ofNat (c.toNat % 64 + 0x80)) := by
    rw [Utf8Lead.Admits, toNat_ofNat_octet (by omega)]
    exact ⟨show 0x80 ≤ _ by omega, show _ ≤ 0xBF by omega⟩
  have hbits : withContinuation (c.toNat / 64 % 32 + 0xC0 - 0xC0)
      (UInt8.ofNat (c.toNat % 64 + 0x80)) = c.toNat := by
    rw [withContinuation_ofNat _ (by omega)]
    omega
  rw [utf8EncodeChar_two hleast hless, List.cons_append, List.singleton_append,
    decodeUtf8From_two (not_ofNat_lt_ascii (by omega) (by omega)) hlead rfl hsecond, hbits]

theorem decodeUtf8From_encode_three (hleast : 0x800 ≤ c.toNat) (hless : c.toNat < 0x10000) :
    decodeUtf8From position (String.utf8EncodeChar c ++ rest) =
      consText c.toNat (decodeUtf8From (position + 3) rest) := by
  have hvalid : c.toNat < 0xD800 ∨ 0xDFFF < c.toNat ∧ c.toNat < 0x110000 := c.valid
  have hlead := utf8Lead?_of_three (c.toNat / 4096 % 16 + 0xE0) (by omega) (by omega)
  have hsecond : Utf8Lead.Admits
      ⟨2, if c.toNat / 4096 % 16 + 0xE0 = 0xE0 then 0xA0 else 0x80,
        if c.toNat / 4096 % 16 + 0xE0 = 0xED then 0x9F else 0xBF,
        c.toNat / 4096 % 16 + 0xE0 - 0xE0⟩
      (UInt8.ofNat (c.toNat / 64 % 64 + 0x80)) :=
    Utf8Lead.admits_ofNat 0xA0 0x9F (by omega) (by decide) (by omega) (by omega)
  have hbits : withContinuation (withContinuation (c.toNat / 4096 % 16 + 0xE0 - 0xE0)
      (UInt8.ofNat (c.toNat / 64 % 64 + 0x80))) (UInt8.ofNat (c.toNat % 64 + 0x80)) =
        c.toNat := by
    rw [withContinuation_ofNat _ (by omega), withContinuation_ofNat _ (by omega)]
    omega
  rw [utf8EncodeChar_three hleast hless, List.cons_append, List.cons_append,
    List.singleton_append, decodeUtf8From_three (not_ofNat_lt_ascii (by omega) (by omega)) hlead rfl
      hsecond (isContinuation_ofNat (by omega)), hbits]

theorem decodeUtf8From_encode_four (hleast : 0x10000 ≤ c.toNat) :
    decodeUtf8From position (String.utf8EncodeChar c ++ rest) =
      consText c.toNat (decodeUtf8From (position + 4) rest) := by
  have hvalid : c.toNat < 0xD800 ∨ 0xDFFF < c.toNat ∧ c.toNat < 0x110000 := c.valid
  have hlead := utf8Lead?_of_four (c.toNat / 262144 % 8 + 0xF0) (by omega) (by omega)
  have hsecond : Utf8Lead.Admits
      ⟨3, if c.toNat / 262144 % 8 + 0xF0 = 0xF0 then 0x90 else 0x80,
        if c.toNat / 262144 % 8 + 0xF0 = 0xF4 then 0x8F else 0xBF,
        c.toNat / 262144 % 8 + 0xF0 - 0xF0⟩
      (UInt8.ofNat (c.toNat / 4096 % 64 + 0x80)) :=
    Utf8Lead.admits_ofNat 0x90 0x8F (by omega) (by decide) (by omega) (by omega)
  have hbits : withContinuation (withContinuation (withContinuation
      (c.toNat / 262144 % 8 + 0xF0 - 0xF0) (UInt8.ofNat (c.toNat / 4096 % 64 + 0x80)))
        (UInt8.ofNat (c.toNat / 64 % 64 + 0x80))) (UInt8.ofNat (c.toNat % 64 + 0x80)) =
          c.toNat := by
    rw [withContinuation_ofNat _ (by omega), withContinuation_ofNat _ (by omega),
      withContinuation_ofNat _ (by omega)]
    omega
  rw [utf8EncodeChar_four hleast, List.cons_append, List.cons_append, List.cons_append,
    List.singleton_append, decodeUtf8From_four (not_ofNat_lt_ascii (by omega) (by omega)) hlead rfl
      hsecond (isContinuation_ofNat (by omega)) (isContinuation_ofNat (by omega)), hbits]

end Back

theorem exists_decodeUtf8From_utf8EncodeChar (c : Char) (position : Nat) (rest : List UInt8) :
    ∃ next, decodeUtf8From position (String.utf8EncodeChar c ++ rest) =
      consText c.toNat (decodeUtf8From next rest) := by
  by_cases hone : c.toNat < 0x80
  · exact ⟨_, decodeUtf8From_encode_one position rest hone⟩
  by_cases htwo : c.toNat < 0x800
  · exact ⟨_, decodeUtf8From_encode_two position rest (Nat.not_lt.mp hone) htwo⟩
  by_cases hthree : c.toNat < 0x10000
  · exact ⟨_, decodeUtf8From_encode_three position rest (Nat.not_lt.mp htwo) hthree⟩
  · exact ⟨_, decodeUtf8From_encode_four position rest (Nat.not_lt.mp hthree)⟩

theorem decodeUtf8From_encodeUtf8 (text : List Char) (position : Nat) :
    decodeUtf8From position (encodeUtf8 text) = .ok text := by
  induction text generalizing position with
  | nil => rfl
  | cons c text ih =>
    obtain ⟨next, hnext⟩ := exists_decodeUtf8From_utf8EncodeChar c position (encodeUtf8 text)
    have hcons : encodeUtf8 (c :: text) = String.utf8EncodeChar c ++ encodeUtf8 text :=
      List.flatMap_cons
    rw [hcons, hnext, ih, consText, Char.ofNat_toNat]
    rfl

theorem decodeUtf8_encodeUtf8 (text : List Char) : decodeUtf8 (encodeUtf8 text) = .ok text :=
  decodeUtf8From_encodeUtf8 text 0

/-! ## Octets that are decoded -/

section Decoded

variable {first second third fourth : UInt8} {lead : Utf8Lead}

/-- A code that is valid is the code of a character. -/
theorem exists_toNat_eq {code : Nat} (hcode : code.isValidChar) : ∃ c : Char, c.toNat = code :=
  ⟨Char.ofNatAux code hcode, rfl⟩

theorem ofNat_eq_octet (octet : UInt8) {code : Nat} (hcode : code = octet.toNat) :
    UInt8.ofNat code = octet := by
  rw [hcode, UInt8.ofNat_toNat]

/-- What a first octet announces, by the number of octets that follow it. -/
theorem utf8Lead?_eq_some (hlead : utf8Lead? first = some lead) :
    0x80 ≤ lead.least.toNat ∧ lead.greatest.toNat ≤ 0xBF ∧
      (lead.following = 1 ∧ 0xC2 ≤ first.toNat ∧ first.toNat < 0xE0 ∧
          lead.bits = first.toNat - 0xC0 ∨
        lead.following = 2 ∧ 0xE0 ≤ first.toNat ∧ first.toNat < 0xF0 ∧
          lead.bits = first.toNat - 0xE0 ∧ (first.toNat = 0xE0 → 0xA0 ≤ lead.least.toNat) ∧
          (first.toNat = 0xED → lead.greatest.toNat ≤ 0x9F) ∨
        lead.following = 3 ∧ 0xF0 ≤ first.toNat ∧ first.toNat < 0xF5 ∧
          lead.bits = first.toNat - 0xF0 ∧ (first.toNat = 0xF0 → 0x90 ≤ lead.least.toNat) ∧
          (first.toNat = 0xF4 → lead.greatest.toNat ≤ 0x8F)) := by
  unfold utf8Lead? at hlead
  dsimp only at hlead
  split_ifs at hlead <;> cases hlead <;> simp <;> omega

/-- The second octet was not refused. -/
theorem admits_of_not_outside (hsecond : ¬ (second < lead.least ∨ lead.greatest < second)) :
    lead.Admits second := by
  rw [UInt8.lt_iff_toNat_lt, UInt8.lt_iff_toNat_lt, not_or, Nat.not_lt, Nat.not_lt] at hsecond
  exact hsecond

theorem isContinuation_iff :
    isContinuation first = true ↔ 0x80 ≤ first.toNat ∧ first.toNat ≤ 0xBF := by
  rw [isContinuation, Bool.and_eq_true, decide_eq_true_iff, decide_eq_true_iff,
    UInt8.le_iff_toNat_le, UInt8.le_iff_toNat_le]
  rfl

theorem utf8EncodeChar_decoded_one (hfirst : first.toNat < 0x80) :
    String.utf8EncodeChar (Char.ofNat first.toNat) = [first] := by
  obtain ⟨c, hc⟩ := exists_toNat_eq (show first.toNat.isValidChar from .inl (by omega))
  rw [← hc, Char.ofNat_toNat, utf8EncodeChar_one (by omega), hc, UInt8.ofNat_toNat]

theorem utf8EncodeChar_decoded_two (hlead : utf8Lead? first = some lead)
    (hfollowing : lead.following = 1) (hsecond : lead.Admits second) :
    String.utf8EncodeChar (Char.ofNat (withContinuation lead.bits second)) = [first, second] := by
  obtain ⟨hleast, hgreatest⟩ := hsecond
  have hfirst := utf8Lead?_eq_some hlead
  have hcode : withContinuation lead.bits second =
      (first.toNat - 0xC0) * 64 + (second.toNat - 0x80) := by
    unfold withContinuation
    omega
  rw [hcode]
  generalize hchar : (first.toNat - 0xC0) * 64 + (second.toNat - 0x80) = code
  obtain ⟨c, rfl⟩ := exists_toNat_eq (show code.isValidChar from .inl (by omega))
  rw [Char.ofNat_toNat, utf8EncodeChar_two (by omega) (by omega),
    ofNat_eq_octet first (by omega), ofNat_eq_octet second (by omega)]

theorem utf8EncodeChar_decoded_three (hlead : utf8Lead? first = some lead)
    (hfollowing : lead.following = 2) (hsecond : lead.Admits second)
    (hthird : isContinuation third = true) :
    String.utf8EncodeChar
        (Char.ofNat (withContinuation (withContinuation lead.bits second) third)) =
      [first, second, third] := by
  obtain ⟨hleast, hgreatest⟩ := hsecond
  have hfirst := utf8Lead?_eq_some hlead
  rw [isContinuation_iff] at hthird
  have hcode : withContinuation (withContinuation lead.bits second) third =
      (first.toNat - 0xE0) * 4096 + (second.toNat - 0x80) * 64 + (third.toNat - 0x80) := by
    unfold withContinuation
    omega
  rw [hcode]
  generalize hchar :
    (first.toNat - 0xE0) * 4096 + (second.toNat - 0x80) * 64 + (third.toNat - 0x80) = code
  have hvalid : code < 0xD800 ∨ 0xDFFF < code ∧ code < 0x110000 := by omega
  obtain ⟨c, rfl⟩ := exists_toNat_eq hvalid
  rw [Char.ofNat_toNat, utf8EncodeChar_three (by omega) (by omega),
    ofNat_eq_octet first (by omega), ofNat_eq_octet second (by omega),
    ofNat_eq_octet third (by omega)]

theorem utf8EncodeChar_decoded_four (hlead : utf8Lead? first = some lead)
    (hfollowing : lead.following = 3) (hsecond : lead.Admits second)
    (hthird : isContinuation third = true) (hfourth : isContinuation fourth = true) :
    String.utf8EncodeChar
        (Char.ofNat (withContinuation
          (withContinuation (withContinuation lead.bits second) third) fourth)) =
      [first, second, third, fourth] := by
  obtain ⟨hleast, hgreatest⟩ := hsecond
  have hfirst := utf8Lead?_eq_some hlead
  rw [isContinuation_iff] at hthird hfourth
  have hcode : withContinuation
      (withContinuation (withContinuation lead.bits second) third) fourth =
        (first.toNat - 0xF0) * 262144 + (second.toNat - 0x80) * 4096 +
          (third.toNat - 0x80) * 64 + (fourth.toNat - 0x80) := by
    unfold withContinuation
    omega
  rw [hcode]
  generalize hchar : (first.toNat - 0xF0) * 262144 + (second.toNat - 0x80) * 4096 +
    (third.toNat - 0x80) * 64 + (fourth.toNat - 0x80) = code
  have hvalid : code < 0xD800 ∨ 0xDFFF < code ∧ code < 0x110000 := by omega
  obtain ⟨c, rfl⟩ := exists_toNat_eq hvalid
  rw [Char.ofNat_toNat, utf8EncodeChar_four (by omega),
    ofNat_eq_octet first (by omega), ofNat_eq_octet second (by omega),
    ofNat_eq_octet third (by omega), ofNat_eq_octet fourth (by omega)]

/-- One character is put before a text that is decoded from the remaining octets. -/
theorem encodeUtf8_of_consText {code : Nat} {decoded : Except Utf8Fault (List Char)}
    {octets rest : List UInt8} {text : List Char} (hcons : consText code decoded = .ok text)
    (hchar : String.utf8EncodeChar (Char.ofNat code) = octets)
    (hrest : ∀ {text}, decoded = .ok text → encodeUtf8 text = rest) :
    encodeUtf8 text = octets ++ rest := by
  cases decoded with
  | error fault => cases hcons
  | ok tail =>
    cases hcons
    have hencode : encodeUtf8 (Char.ofNat code :: tail) =
        String.utf8EncodeChar (Char.ofNat code) ++ encodeUtf8 tail := List.flatMap_cons
    rw [hencode, hchar, hrest rfl]

theorem encodeUtf8_of_decodeUtf8From {position : Nat} {octets : List UInt8} {text : List Char}
    (hdecode : decodeUtf8From position octets = .ok text) : encodeUtf8 text = octets := by
  fun_induction decodeUtf8From position octets generalizing text
  case case1 =>
    cases hdecode
    rfl
  case case2 hascii ih =>
    exact encodeUtf8_of_consText hdecode
      (utf8EncodeChar_decoded_one (UInt8.lt_iff_toNat_lt.mp hascii)) ih
  case case6 hlead _ _ hsecond hfollowing ih =>
    exact encodeUtf8_of_consText hdecode
      (utf8EncodeChar_decoded_two hlead hfollowing (admits_of_not_outside hsecond)) ih
  case case9 hlead _ hsecond _ _ _ hthird hfollowing ih =>
    rw [Bool.not_eq_true, Bool.not_eq_false'] at hthird
    exact encodeUtf8_of_consText hdecode
      (utf8EncodeChar_decoded_three hlead hfollowing (admits_of_not_outside hsecond) hthird) ih
  case case12 hlead _ hsecond hone _ hthird htwo _ _ hfourth ih =>
    rw [Bool.not_eq_true, Bool.not_eq_false'] at hthird hfourth
    have hfollowing := utf8Lead?_eq_some hlead
    exact encodeUtf8_of_consText hdecode
      (utf8EncodeChar_decoded_four hlead (by omega) (admits_of_not_outside hsecond) hthird
        hfourth) ih
  -- in all other cases an octet was refused
  all_goals cases hdecode

end Decoded

/-- Octets are decoded to a text if and only if they are its encoding. -/
theorem decodeUtf8_eq_ok_iff {octets : List UInt8} {text : List Char} :
    decodeUtf8 octets = .ok text ↔ encodeUtf8 text = octets := by
  constructor
  · exact encodeUtf8_of_decodeUtf8From
  · rintro rfl
    exact decodeUtf8_encodeUtf8 text

/-- Octets that are the encoding of some text. -/
def IsText (octets : List UInt8) : Prop :=
  ∃ text, encodeUtf8 text = octets

theorem decodeUtf8_eq_error_iff {octets : List UInt8} :
    (∃ fault, decodeUtf8 octets = .error fault) ↔ ¬ IsText octets := by
  constructor
  · rintro ⟨fault, hfault⟩ ⟨text, htext⟩
    rw [decodeUtf8_eq_ok_iff.mpr htext] at hfault
    cases hfault
  · intro hnone
    cases hdecode : decodeUtf8 octets with
    | error fault => exact ⟨fault, rfl⟩
    | ok text => exact absurd ⟨text, decodeUtf8_eq_ok_iff.mp hdecode⟩ hnone

end ConfigReference.Text

import ConfigReference.Proofs.DocumentReading

/-!
# Backslashes before angle brackets

To a reader of the document two backslashes stand for one, so a bracket is escaped
if the number of backslashes right before it is odd.  The document puts one before
each bracket and leaves those that are there already as they are.  So there is
always one more than in the line that the document shows, and the bracket is
escaped exactly where the line has an even number of them.
-/

namespace ConfigReference.Document

open Text

/-! ## Backslashes at the end of a text -/

def trailingBackslashes (text : List Char) : Nat :=
  (text.reverse.takeWhile (· = '\\')).length

theorem trailingBackslashes_concat (text : List Char) (c : Char) :
    trailingBackslashes (text ++ [c]) = if c = '\\' then trailingBackslashes text + 1 else 0 := by
  rw [trailingBackslashes, List.reverse_append, List.reverse_singleton, List.singleton_append,
    List.takeWhile_cons]
  by_cases hc : c = '\\'
  · simp [hc, trailingBackslashes]
  · simp [hc]

/-- Other characters end the row of backslashes. -/
theorem trailingBackslashes_append_cons {c : Char} (hc : c ≠ '\\') (front back : List Char) :
    trailingBackslashes (front ++ c :: back) = trailingBackslashes back := by
  induction back using List.reverseRecOn with
  | nil => rw [trailingBackslashes_concat, if_neg hc, trailingBackslashes]; rfl
  | append_singleton back d ih =>
    rw [← List.cons_append, ← List.append_assoc, trailingBackslashes_concat,
      trailingBackslashes_concat, ih]

theorem ne_of_isBracket {c d : Char} (hc : isBracket c = true) (hd : isBracket d = false) :
    c ≠ d := by
  rintro rfl
  exact Bool.false_ne_true (hd.symm.trans hc)

/-- An escape is followed by its bracket, so it is never the end of a text. -/
theorem trailingBackslashes_escapeBrackets (text : List Char) :
    trailingBackslashes (escapeBrackets text) = trailingBackslashes text := by
  induction text using List.reverseRecOn with
  | nil => rfl
  | append_singleton text c ih =>
    rw [escapeBrackets_append, escapeBrackets_cons]
    split
    · next hbracket =>
      have hc : c ≠ '\\' := ne_of_isBracket hbracket rfl
      have hpair : escapeBrackets text ++ '\\' :: c :: escapeBrackets [] =
          (escapeBrackets text ++ ['\\']) ++ [c] := by
        rw [List.append_assoc]
        rfl
      rw [hpair, trailingBackslashes_concat, trailingBackslashes_concat text, if_neg hc, if_neg hc]
    · have hsingle : c :: escapeBrackets [] = [c] := rfl
      rw [hsingle, trailingBackslashes_concat, trailingBackslashes_concat, ih]

/-! ## Where brackets stand -/

/-- The character stands somewhere in the text, right behind so many backslashes. -/
def StandsBehind (c : Char) (number : Nat) (text : List Char) : Prop :=
  ∃ front back, text = front ++ c :: back ∧ trailingBackslashes front = number

section Places

variable {c : Char} {number : Nat} {text first rest : List Char}

/-- Every bracket of a text with escapes is one of the text itself, behind an escape. -/
theorem exists_of_escapeBrackets_eq {front back : List Char} (hbracket : isBracket c = true)
    (heq : escapeBrackets text = front ++ c :: back) :
    ∃ before behind, text = before ++ c :: behind ∧ front = escapeBrackets before ++ ['\\'] := by
  induction text generalizing front with
  | nil => simp [escapeBrackets] at heq
  | cons d text ih =>
    rw [escapeBrackets_cons] at heq
    split at heq
    · next hd =>
      rcases List.cons_eq_append_iff.mp heq with ⟨-, hcons⟩ | ⟨front, rfl, hinside⟩
      · -- the first character is the escape, and no bracket
        exact absurd (List.cons.inj hcons).1 (ne_of_isBracket hbracket rfl)
      · rcases List.cons_eq_append_iff.mp hinside with ⟨rfl, hcons⟩ | ⟨front, rfl, hrest⟩
        · exact ⟨[], text, by rw [(List.cons.inj hcons).1]; rfl, rfl⟩
        · obtain ⟨before, behind, rfl, rfl⟩ := ih hrest
          refine ⟨d :: before, behind, rfl, ?_⟩
          rw [escapeBrackets_cons, if_pos hd]
          rfl
    · next hd =>
      rcases List.cons_eq_append_iff.mp heq with ⟨-, hcons⟩ | ⟨front, rfl, hrest⟩
      · exact absurd (List.cons.inj hcons).1
          (ne_of_isBracket hbracket (Bool.eq_false_iff.mpr hd))
      · obtain ⟨before, behind, rfl, rfl⟩ := ih hrest
        refine ⟨d :: before, behind, rfl, ?_⟩
        rw [escapeBrackets_cons, if_neg hd]
        rfl

/-- Escapes put one more backslash before each bracket. -/
theorem standsBehind_escapeBrackets (hbracket : isBracket c = true) :
    StandsBehind c number (escapeBrackets text) ↔
      ∃ given, StandsBehind c given text ∧ number = given + 1 := by
  have hcount : ∀ before, trailingBackslashes (escapeBrackets before ++ ['\\']) =
      trailingBackslashes before + 1 := by
    intro before
    rw [trailingBackslashes_concat, if_pos rfl, trailingBackslashes_escapeBrackets]
  constructor
  · rintro ⟨front, back, heq, rfl⟩
    obtain ⟨before, behind, htext, rfl⟩ := exists_of_escapeBrackets_eq hbracket heq
    exact ⟨trailingBackslashes before, ⟨before, behind, htext, rfl⟩, hcount before⟩
  · rintro ⟨_, ⟨before, behind, rfl, rfl⟩, rfl⟩
    refine ⟨escapeBrackets before ++ ['\\'], escapeBrackets behind, ?_, hcount before⟩
    rw [escapeBrackets_append, escapeBrackets_cons, if_pos hbracket, List.append_assoc]
    rfl

theorem standsBehind_append_lineFeed (hc : c ≠ '\n') :
    StandsBehind c number (first ++ '\n' :: rest) ↔
      StandsBehind c number first ∨ StandsBehind c number rest := by
  constructor
  · rintro ⟨front, back, heq, rfl⟩
    rcases List.append_eq_append_iff.mp heq with ⟨middle, rfl, hrest⟩ | ⟨middle, rfl, hfirst⟩
    · rcases List.cons_eq_append_iff.mp hrest with ⟨-, hcons⟩ | ⟨before, rfl, rfl⟩
      · exact absurd (List.cons.inj hcons).1 hc
      · exact .inr ⟨before, back, rfl,
          (trailingBackslashes_append_cons (by decide) first before).symm⟩
    · rcases List.cons_eq_append_iff.mp hfirst with ⟨-, hcons⟩ | ⟨behind, rfl, -⟩
      · exact absurd (List.cons.inj hcons).1.symm hc
      · exact .inl ⟨front, behind, rfl, rfl⟩
  · rintro (⟨front, back, rfl, rfl⟩ | ⟨front, back, rfl, rfl⟩)
    · exact ⟨front, back ++ '\n' :: rest, by rw [List.append_assoc]; rfl, rfl⟩
    · exact ⟨first ++ '\n' :: front, back, by rw [List.append_assoc]; rfl,
        trailingBackslashes_append_cons (by decide) first front⟩

theorem standsBehind_joinWith (hc : c ≠ '\n') (parts : List (List Char)) :
    StandsBehind c number (joinWith ['\n'] parts) ↔
      ∃ part ∈ parts, StandsBehind c number part := by
  fun_induction joinWith ['\n'] parts with
  | case1 =>
    have hnone : ¬ StandsBehind c number [] := by
      rintro ⟨front, back, heq, -⟩
      simp at heq
    simp [hnone]
  | case2 part => simp
  | case3 part parts _ ih =>
    rw [List.append_assoc, List.singleton_append, standsBehind_append_lineFeed hc, ih,
      List.exists_mem_cons_iff]

end Places

/-! ## The document -/

section Content

variable {variant : Variant} {schema : Schema} {c : Char} {number : Nat}

/-- Each bracket of the document is one of its lines, with one more backslash. -/
theorem standsBehind_content (hescape : variant.escapeBrackets = true)
    (hbracket : isBracket c = true) :
    StandsBehind c number (content variant schema).toList ↔
      ∃ line ∈ lines variant schema, ∃ given,
        StandsBehind c given line.toList ∧ number = given + 1 := by
  have hc : c ≠ '\n' := ne_of_isBracket hbracket rfl
  rw [toList_content, shown, if_pos hescape, standsBehind_escapeBrackets hbracket]
  simp only [standsBehind_joinWith hc, List.mem_map, exists_exists_and_eq_and]
  constructor
  · rintro ⟨given, ⟨line, hline, hstands⟩, hnumber⟩
    exact ⟨line, hline, given, hstands, hnumber⟩
  · rintro ⟨line, hline, given, hstands, hnumber⟩
    exact ⟨given, ⟨line, hline, hstands⟩, hnumber⟩

end Content

/-- Every angle bracket stands right behind an odd number of backslashes. -/
def BracketsEscaped (text : List Char) : Prop :=
  ∀ c number, isBracket c = true → StandsBehind c number text → number % 2 = 1

/-- A document with escapes has one backslash more before each of its brackets than the
line it shows.  So all its brackets are escaped if and only if no line has a bracket
behind an odd number of backslashes. -/
theorem brackets_escaped_iff (variant : Variant) (schema : Schema)
    (hescape : variant.escapeBrackets = true) :
    (∀ c number, isBracket c = true →
      (StandsBehind c number (content variant schema).toList ↔
        ∃ line ∈ lines variant schema, ∃ given,
          StandsBehind c given line.toList ∧ number = given + 1)) ∧
    (BracketsEscaped (content variant schema).toList ↔
      ∀ line ∈ lines variant schema, ∀ c given, isBracket c = true →
        StandsBehind c given line.toList → given % 2 = 0) := by
  refine ⟨fun c number hbracket => standsBehind_content hescape hbracket, ?_⟩
  constructor
  · intro hescaped line hline c given hbracket hstands
    have hodd := hescaped c (given + 1) hbracket
      ((standsBehind_content hescape hbracket).mpr ⟨line, hline, given, hstands, rfl⟩)
    omega
  · intro hlines c number hbracket hstands
    obtain ⟨line, hline, given, hgiven, rfl⟩ := (standsBehind_content hescape hbracket).mp hstands
    have heven := hlines line hline c given hbracket hgiven
    omega

/-- A default value that has a backslash before its bracket already. -/
def backslashSchema : Schema :=
  Schema.ofScans [scanText Variant.map "src/map.cpp" "CFG.GetString(\"k\", \"a\\<b\");"]

theorem brackets_escaped_iff_backslash :
    Variant.map.escapeBrackets = true ∧
      StandsBehind '<' 2 (content Variant.map backslashSchema).toList ∧
      ¬ BracketsEscaped (content Variant.map backslashSchema).toList := by
  have hescape : Variant.map.escapeBrackets = true := rfl
  have hretained : backslashSchema.entries.filter (fun entry => !Variant.map.excludes entry.key) =
      [⟨"k", "GetString", some "\"a\\<b\"", "src/map.cpp", 1⟩] := by decide +kernel
  have hline : "- Default value: a\\<b" ∈ lines Variant.map backslashSchema := by
    rw [lines, entries, hretained, List.mergeSort_singleton]
    decide +kernel
  have hgiven : StandsBehind '<' 1 "- Default value: a\\<b".toList :=
    ⟨"- Default value: a\\".toList, ['b'], by decide +kernel, by decide +kernel⟩
  obtain ⟨hplaces, hescaped⟩ := brackets_escaped_iff Variant.map backslashSchema hescape
  refine ⟨hescape, (hplaces '<' 2 rfl).mpr ⟨_, hline, 1, hgiven, rfl⟩, fun hall => ?_⟩
  exact absurd (hescaped.mp hall _ hline '<' 1 rfl hgiven) (by decide)

end ConfigReference.Document

import ConfigReference.Text.Blank
import ConfigReference.Text.Split
import Mathlib.Data.Bool.AllAny
import Mathlib.Data.List.DropRight
import Mathlib.Data.List.TakeWhile

/-!
# Laws of cutting and trimming

What the recognition of statements needs to know about texts: a beginning that
is cut off can be put back, trimming removes the blanks around a text and no
others, and the lines of a text are what stands between its line feeds.
-/

namespace ConfigReference.Text

/-! ## Beginnings -/

@[simp]
theorem after?_append (beginning rest : List Char) :
    after? beginning (beginning ++ rest) = some rest := by
  induction beginning with
  | nil => rfl
  | cons c beginning ih => simpa [after?] using ih

theorem after?_eq_some_iff {beginning text rest : List Char} :
    after? beginning text = some rest ↔ text = beginning ++ rest := by
  constructor
  · intro hafter
    induction beginning generalizing text with
    | nil => simpa [after?] using hafter
    | cons b beginning ih =>
      cases text with
      | nil => simp [after?] at hafter
      | cons c text =>
        by_cases hc : b = c
        · subst hc
          simp only [after?, if_true] at hafter
          rw [ih hafter, List.cons_append]
        · simp [after?, hc] at hafter
  · rintro rfl
    exact after?_append beginning rest

/-- What follows the first character outside a class is found by skipping the
class, and the characters that are skipped stand before it. -/
theorem takeWhile_dropWhile_append_cons {p : Char → Bool} {skipped : List Char}
    (hskipped : ∀ c ∈ skipped, p c = true) (stop : Char) (hstop : p stop = false)
    (rest : List Char) :
    (skipped ++ stop :: rest).takeWhile p = skipped ∧
      (skipped ++ stop :: rest).dropWhile p = stop :: rest := by
  constructor
  · rw [List.takeWhile_append_of_pos hskipped]
    simp [hstop]
  · rw [List.dropWhile_append_of_pos hskipped]
    simp [hstop]

/-! ## Trimming -/

theorem trimEnd_eq_rdropWhile (text : List Char) :
    trimEnd text = text.rdropWhile isBlank := rfl

theorem trim_eq_trimEnd_dropWhile (text : List Char) :
    trim text = trimEnd (text.dropWhile isBlank) := rfl

theorem trimEnd_append_blank (text : List Char) {blanks : List Char}
    (hblanks : ∀ c ∈ blanks, isBlank c = true) : trimEnd (text ++ blanks) = trimEnd text := by
  induction blanks using List.reverseRecOn with
  | nil => rw [List.append_nil]
  | append_singleton blanks c ih =>
    have hc : isBlank c = true := hblanks c (by simp)
    have hrest : ∀ d ∈ blanks, isBlank d = true := fun d hd => hblanks d (by simp [hd])
    rw [← List.append_assoc, trimEnd_eq_rdropWhile, List.rdropWhile_concat_pos _ _ _ hc,
      ← trimEnd_eq_rdropWhile, ih hrest]

theorem trimEnd_eq_self {text : List Char} (hlast : ∀ c ∈ text.getLast?, isBlank c = false) :
    trimEnd text = text := by
  rw [trimEnd_eq_rdropWhile, List.rdropWhile_eq_self_iff]
  intro hne
  simp [hlast _ (List.getLast?_eq_some_getLast hne)]

theorem trim_append_blank_left {blanks : List Char} (hblanks : ∀ c ∈ blanks, isBlank c = true)
    (text : List Char) : trim (blanks ++ text) = trim text := by
  rw [trim_eq_trimEnd_dropWhile, List.dropWhile_append_of_pos hblanks,
    ← trim_eq_trimEnd_dropWhile]

theorem trim_append_blank_right (text : List Char) {blanks : List Char}
    (hblanks : ∀ c ∈ blanks, isBlank c = true) : trim (text ++ blanks) = trim text := by
  rw [trim_eq_trimEnd_dropWhile, trim_eq_trimEnd_dropWhile, List.dropWhile_append]
  split
  · next hempty =>
    -- a text of blanks only: nothing is left on either side
    rw [List.isEmpty_iff] at hempty
    have hall : blanks.dropWhile isBlank = [] := by
      rw [List.dropWhile_eq_nil_iff]
      exact hblanks
    rw [hempty, hall]
  · exact trimEnd_append_blank _ hblanks

/-- Blanks that do not end a line. -/
def IsPadding (blanks : List Char) : Prop :=
  ∀ c ∈ blanks, isBlank c = true ∧ c ≠ '\n'

instance (blanks : List Char) : Decidable (IsPadding blanks) :=
  decidable_of_iff _ List.all_iff_forall_prop

theorem IsPadding.lineFeed_not_mem {blanks : List Char} (hblanks : IsPadding blanks) :
    '\n' ∉ blanks :=
  fun hmem => (hblanks _ hmem).2 rfl

/-- What stands around a line is trimmed off it. -/
theorem trim_padding {left right : List Char} (hleft : IsPadding left) (hright : IsPadding right)
    (text : List Char) : trim (left ++ text ++ right) = trim text := by
  rw [trim_append_blank_right _ fun c hc => (hright c hc).1,
    trim_append_blank_left fun c hc => (hleft c hc).1]

/-- A text that begins and ends with other characters than blanks is what
trimming leaves of it, whatever blanks stand around. -/
theorem trim_eq_self {text : List Char} (hfirst : ∀ c ∈ text.head?, isBlank c = false)
    (hlast : ∀ c ∈ text.getLast?, isBlank c = false) : trim text = text := by
  have hdrop : text.dropWhile isBlank = text := by
    cases text with
    | nil => rfl
    | cons c rest => simp [hfirst c rfl]
  rw [trim_eq_trimEnd_dropWhile, hdrop, trimEnd_eq_self hlast]

theorem trim_concat {c : Char} (hc : isBlank c = false) (text : List Char) :
    trim (text ++ [c]) = text.dropWhile isBlank ++ [c] := by
  have hdrop : (text ++ [c]).dropWhile isBlank = text.dropWhile isBlank ++ [c] := by
    rw [List.dropWhile_append]
    split
    · next hempty => simp [hc, List.isEmpty_iff.mp hempty]
    · rfl
  rw [trim_eq_trimEnd_dropWhile, hdrop]
  exact trimEnd_eq_self (by simpa using hc)

theorem mem_of_mem_trim {text : List Char} {c : Char} (hc : c ∈ trim text) : c ∈ text := by
  rw [trim_eq_trimEnd_dropWhile, trimEnd_eq_rdropWhile] at hc
  exact (List.dropWhile_suffix isBlank).mem ((List.rdropWhile_prefix isBlank _).mem hc)

theorem length_trim_le (text : List Char) : (trim text).length ≤ text.length := by
  rw [trim_eq_trimEnd_dropWhile, trimEnd_eq_rdropWhile]
  exact (List.rdropWhile_prefix isBlank _).length_le.trans
    (List.dropWhile_suffix isBlank).length_le

/-- A character outside a class is not dropped. -/
theorem mem_dropWhile {drops : Char → Bool} {c : Char} (hc : drops c = false) {text : List Char}
    (hmem : c ∈ text) : c ∈ text.dropWhile drops := by
  rw [← List.takeWhile_append_dropWhile (p := drops) (l := text), List.mem_append] at hmem
  rcases hmem with hdropped | hkept
  · have hdrops := List.mem_takeWhile_imp hdropped
    rw [hc] at hdrops
    cases hdrops
  · exact hkept

theorem mem_trim {c : Char} (hc : isBlank c = false) {text : List Char} (hmem : c ∈ text) :
    c ∈ trim text := by
  have hfront : c ∈ (text.dropWhile isBlank).reverse :=
    List.mem_reverse.mpr (mem_dropWhile hc hmem)
  exact List.mem_reverse.mpr (mem_dropWhile hc hfront)

/-! ## Lines -/

/-- A line without a carriage return at its end, which belongs to the line end. -/
def dropReturn (line : List Char) : List Char :=
  if line.getLast? = some '\r' then line.dropLast else line

theorem dropReturn_cons {c : Char} {line : List Char} (hline : c ≠ '\r' ∨ line ≠ []) :
    dropReturn (c :: line) = c :: dropReturn line := by
  cases line with
  | nil =>
    have hc : c ≠ '\r' := by simpa using hline
    simp [dropReturn, hc]
  | cons d line =>
    rw [dropReturn, dropReturn, List.getLast?_cons_cons]
    split
    · rfl
    · rfl

theorem trim_dropReturn (line : List Char) : trim (dropReturn line) = trim line := by
  rw [dropReturn]
  split
  · next hlast =>
    rw [List.getLast?_eq_some_iff] at hlast
    obtain ⟨front, rfl⟩ := hlast
    rw [List.dropLast_concat, trim_append_blank_right front (by simp; decide)]
  · rfl

theorem lines_cons {c : Char} {rest : List Char} (hc : c ≠ '\n')
    (hreturn : c = '\r' → rest.head? ≠ some '\n') :
    lines (c :: rest) = extendFirst c (lines rest) := by
  rw [lines.eq_4]
  · rintro tail rfl rfl
    exact hreturn rfl rfl
  · exact hc

theorem lines_eq_singleton {line : List Char} (hline : '\n' ∉ line) : lines line = [line] := by
  induction line with
  | nil => rfl
  | cons c rest ih =>
    simp only [List.mem_cons, not_or] at hline
    have hhead : rest.head? ≠ some '\n' := fun heq => hline.2 (List.mem_of_mem_head? heq)
    rw [lines_cons (Ne.symm hline.1) (fun _ => hhead), ih hline.2]
    rfl

/-- A line feed ends the first line. -/
theorem lines_append_lineFeed {line : List Char} (hline : '\n' ∉ line) (rest : List Char) :
    lines (line ++ '\n' :: rest) = dropReturn line :: lines rest := by
  induction line with
  | nil => rfl
  | cons c line ih =>
    simp only [List.mem_cons, not_or] at hline
    by_cases hend : c = '\r' ∧ line = []
    · obtain ⟨rfl, rfl⟩ := hend
      rfl
    · have hreturn : c = '\r' → (line ++ '\n' :: rest).head? ≠ some '\n' := by
        rintro hc
        obtain ⟨d, tail, rfl⟩ := List.exists_cons_of_ne_nil fun hnil => hend ⟨hc, hnil⟩
        intro heq
        simp_all
      rw [List.cons_append, lines_cons (Ne.symm hline.1) hreturn, ih hline.2, extendFirst,
        dropReturn_cons (by tauto)]

/-- A text is a single line, or a line with a line feed and a further text. -/
theorem induction_on_lines {p : List Char → Prop} (hlast : ∀ line, '\n' ∉ line → p line)
    (hline : ∀ line rest, '\n' ∉ line → p rest → p (line ++ '\n' :: rest)) (text : List Char) :
    p text := by
  by_cases hmem : '\n' ∈ text
  · obtain ⟨line, rest, htext, hfree⟩ := List.eq_append_cons_of_mem hmem
    have hshorter : rest.length < text.length := by
      rw [htext, List.length_append, List.length_cons]
      omega
    rw [htext]
    exact hline line rest hfree (induction_on_lines hlast hline rest)
  · exact hlast text hmem
termination_by text.length

/-! ## Parts between separators -/

section Parts

variable {separator c : Char} {text part : List Char} {parts : List (List Char)}

theorem splitAt_cons (separator c : Char) (text : List Char) :
    splitAt separator (c :: text) =
      if c = separator then [] :: splitAt separator text
      else extendFirst c (splitAt separator text) := rfl

theorem splitAt_of_not_mem (hfree : separator ∉ text) : splitAt separator text = [text] := by
  induction text with
  | nil => rfl
  | cons c text ih =>
    rw [List.mem_cons, not_or] at hfree
    rw [splitAt_cons, if_neg (Ne.symm hfree.1), ih hfree.2, extendFirst]

theorem splitAt_ne_nil (separator : Char) (text : List Char) : splitAt separator text ≠ [] := by
  cases text with
  | nil => simp [splitAt]
  | cons c text =>
    rw [splitAt_cons]
    split
    · simp
    · cases splitAt separator text <;> simp [extendFirst]

theorem splitAt_append_separator (separator : Char) (front back : List Char) :
    splitAt separator (front ++ separator :: back) =
      splitAt separator front ++ splitAt separator back := by
  induction front with
  | nil =>
    rw [List.nil_append, splitAt_cons, if_pos rfl]
    rfl
  | cons c front ih =>
    rw [List.cons_append, splitAt_cons, splitAt_cons, ih]
    split
    · rfl
    · cases hparts : splitAt separator front with
      | nil => exact absurd hparts (splitAt_ne_nil separator front)
      | cons first rest => rfl

theorem length_splitAt (separator : Char) (text : List Char) :
    (splitAt separator text).length = text.count separator + 1 := by
  induction text with
  | nil => rfl
  | cons c text ih =>
    rw [splitAt_cons]
    split
    · next hc => simp [hc, ih]
    · next hc =>
      rw [List.count_cons_of_ne hc, ← ih]
      cases hparts : splitAt separator text with
      | nil => exact absurd hparts (splitAt_ne_nil separator text)
      | cons first rest => rfl

/-- The last part is what follows the last separator. -/
theorem exists_getLast?_splitAt (hmem : separator ∈ text) :
    ∃ front last, text = front ++ separator :: last ∧ separator ∉ last ∧
      (splitAt separator text).getLast? = some last := by
  obtain ⟨last, front, hreverse, hfree⟩ :=
    List.eq_append_cons_of_mem (List.mem_reverse.mpr hmem)
  have htext : text = front.reverse ++ separator :: last.reverse := by
    have hback := congrArg List.reverse hreverse
    simpa using hback
  have hlast : separator ∉ last.reverse := by simpa using hfree
  refine ⟨front.reverse, last.reverse, htext, hlast, ?_⟩
  rw [htext, splitAt_append_separator, splitAt_of_not_mem hlast, List.getLast?_concat]

/-- Parts without the separator are found again. -/
theorem splitAt_joinWith (hne : parts ≠ []) (hfree : ∀ part ∈ parts, separator ∉ part) :
    splitAt separator (joinWith [separator] parts) = parts := by
  fun_induction joinWith [separator] parts with
  | case1 => exact absurd rfl hne
  | case2 part => exact splitAt_of_not_mem (hfree part List.mem_cons_self)
  | case3 part parts hparts ih =>
    have hrest := ih (fun hnil => hparts hnil) fun other hother =>
      hfree other (List.mem_cons_of_mem part hother)
    rw [List.append_assoc, List.singleton_append, splitAt_append_separator,
      splitAt_of_not_mem (hfree part List.mem_cons_self), hrest]
    rfl

theorem mem_of_mem_extendFirst {d : Char}
    (hpart : part ∈ extendFirst d parts) (hc : c ∈ part) : c = d ∨ ∃ old ∈ parts, c ∈ old := by
  cases parts with
  | nil => simp_all [extendFirst]
  | cons first rest =>
    rcases List.mem_cons.mp hpart with rfl | hrest
    · rcases List.mem_cons.mp hc with rfl | hfirst
      · exact .inl rfl
      · exact .inr ⟨first, List.mem_cons_self, hfirst⟩
    · exact .inr ⟨part, List.mem_cons_of_mem first hrest, hc⟩

theorem mem_of_mem_splitAt (hpart : part ∈ splitAt separator text) (hc : c ∈ part) :
    c ∈ text := by
  induction text generalizing part with
  | nil => simp_all [splitAt]
  | cons d text ih =>
    rw [splitAt_cons] at hpart
    split at hpart
    · rcases List.mem_cons.mp hpart with rfl | hrest
      · cases hc
      · exact List.mem_cons_of_mem d (ih hrest hc)
    · rcases mem_of_mem_extendFirst hpart hc with rfl | ⟨old, hold, hmem⟩
      · exact List.mem_cons_self
      · exact List.mem_cons_of_mem d (ih hold hmem)

theorem separator_not_mem_of_mem_splitAt (hpart : part ∈ splitAt separator text) :
    separator ∉ part := by
  induction text generalizing part with
  | nil => simp_all [splitAt]
  | cons c text ih =>
    rw [splitAt_cons] at hpart
    split at hpart
    · rcases List.mem_cons.mp hpart with rfl | hrest
      · exact List.not_mem_nil
      · exact ih hrest
    · next hc =>
      intro hmem
      rcases mem_of_mem_extendFirst hpart hmem with heq | ⟨old, hold, hseparator⟩
      · exact hc heq.symm
      · exact ih hold hseparator

theorem mem_joinWith {between : List Char}
    (hc : c ∈ joinWith between parts) : c ∈ between ∨ ∃ part ∈ parts, c ∈ part := by
  fun_induction joinWith between parts with
  | case1 => cases hc
  | case2 part => exact .inr ⟨part, List.mem_cons_self, hc⟩
  | case3 part parts hparts ih =>
    rw [List.append_assoc, List.mem_append, List.mem_append] at hc
    rcases hc with hpart | hbetween | hrest
    · exact .inr ⟨part, List.mem_cons_self, hpart⟩
    · exact .inl hbetween
    · rcases ih hrest with hbetween | ⟨other, hother, hmem⟩
      · exact .inl hbetween
      · exact .inr ⟨other, List.mem_cons_of_mem part hother, hmem⟩

theorem mem_joinWith_of_mem {between : List Char} (hpart : part ∈ parts) (hc : c ∈ part) :
    c ∈ joinWith between parts := by
  fun_induction joinWith between parts with
  | case1 => cases hpart
  | case2 only => rwa [← List.mem_singleton.mp hpart]
  | case3 first rest _ ih =>
    rw [List.append_assoc, List.mem_append, List.mem_append]
    rcases List.mem_cons.mp hpart with rfl | hlater
    · exact .inl hc
    · exact .inr (.inr (ih hlater))

/-- The last part stands at the end, behind the others with their separators. -/
theorem joinWith_concat (between last : List Char) (parts : List (List Char)) :
    joinWith between (parts ++ [last]) = (parts.flatMap (· ++ between)) ++ last := by
  induction parts with
  | nil => rfl
  | cons part parts ih =>
    have hcons : joinWith between (part :: (parts ++ [last])) =
        part ++ between ++ joinWith between (parts ++ [last]) := by
      cases parts <;> rfl
    rw [List.cons_append, hcons, ih, List.flatMap_cons, ← List.append_assoc]

/-- The parts of a text make up the text again. -/
theorem joinWith_splitAt (separator : Char) (text : List Char) :
    joinWith [separator] (splitAt separator text) = text := by
  induction text with
  | nil => rfl
  | cons c text ih =>
    rw [splitAt_cons]
    cases hparts : splitAt separator text with
    | nil => exact absurd hparts (splitAt_ne_nil separator text)
    | cons first rest =>
      rw [hparts] at ih
      split
      · next hc =>
        have hskip : joinWith [separator] ([] :: first :: rest) =
            separator :: joinWith [separator] (first :: rest) := rfl
        rw [hskip, ih, hc]
      · have hextend : joinWith [separator] ((c :: first) :: rest) =
            c :: joinWith [separator] (first :: rest) := by
          cases rest <;> rfl
        rw [extendFirst, hextend, ih]

theorem exists_part_of_mem (hseparator : c ≠ separator) (hc : c ∈ text) :
    ∃ part ∈ splitAt separator text, c ∈ part := by
  rw [← joinWith_splitAt separator text] at hc
  rcases mem_joinWith hc with hbetween | hpart
  · exact absurd (List.mem_singleton.mp hbetween) hseparator
  · exact hpart

end Parts

/-! ## Line feeds -/

theorem mem_of_mem_dropReturn {c : Char} {line : List Char} (hc : c ∈ dropReturn line) : c ∈ line := by
  rw [dropReturn] at hc
  split at hc
  · exact (List.dropLast_sublist line).mem hc
  · exact hc

theorem lineFeed_not_mem_of_mem_lines {text line : List Char} (hline : line ∈ lines text) :
    '\n' ∉ line := by
  induction text using induction_on_lines with
  | hlast last hfree =>
    rw [lines_eq_singleton hfree, List.mem_singleton] at hline
    rwa [hline]
  | hline first rest hfree ih =>
    rw [lines_append_lineFeed hfree] at hline
    rcases List.mem_cons.mp hline with rfl | hrest
    · exact fun hmem => hfree (mem_of_mem_dropReturn hmem)
    · exact ih hrest

/-- But for the blanks around them, the lines are the parts between line feeds: a
carriage return before a line feed is a blank at the end of its part. -/
theorem map_trim_lines (text : List Char) :
    (lines text).map trim = (splitAt '\n' text).map trim := by
  induction text using induction_on_lines with
  | hlast line hfree => rw [lines_eq_singleton hfree, splitAt_of_not_mem hfree]
  | hline line rest hfree ih =>
    rw [lines_append_lineFeed hfree, splitAt_append_separator, splitAt_of_not_mem hfree,
      List.map_cons, List.map_append, trim_dropReturn, ih]
    rfl

theorem lineFeed_not_mem_append {left right : String} (hleft : '\n' ∉ left.toList)
    (hright : '\n' ∉ right.toList) : '\n' ∉ (left ++ right).toList := by
  rw [String.toList_append, List.mem_append, not_or]
  exact ⟨hleft, hright⟩

end ConfigReference.Text

import ConfigReference.Argument
import ConfigReference.Proofs.Text

/-!
# The last argument

The arguments of a read are cut at their commas, and blanks around an argument do
not belong to it.  The default value is that of the last argument, whatever stands
before it, if this argument has neither commas nor braces.
-/

namespace ConfigReference.Argument

open Text

/-! ## Arguments between commas -/

theorem isBlank_of_mem_space : ∀ c ∈ [' '], isBlank c = true := by
  intro c hc
  rw [List.mem_singleton.mp hc]
  decide

theorem split_append_comma (front back : List Char) :
    split (front ++ ',' :: back) = split front ++ split back := by
  rw [split, splitAt_append_separator, List.map_append]
  rfl

/-- Blanks at the beginning of the arguments belong to none of them. -/
theorem split_append_blank_left {blanks : List Char} (hblanks : ∀ c ∈ blanks, isBlank c = true)
    (text : List Char) : split (blanks ++ text) = split text := by
  induction blanks with
  | nil => rfl
  | cons c blanks ih =>
    have hc : isBlank c = true := hblanks c List.mem_cons_self
    have hcomma : c ≠ ',' := by
      rintro rfl
      exact absurd hc (by decide)
    rw [← ih fun d hd => hblanks d (List.mem_cons_of_mem c hd), List.cons_append, split,
      splitAt_cons, if_neg hcomma, split]
    cases hparts : splitAt ',' (blanks ++ text) with
    | nil => exact absurd hparts (splitAt_ne_nil ',' _)
    | cons first rest =>
      have hblank : ∀ d ∈ [c], isBlank d = true := by simpa using hc
      have hfirst : trim (c :: first) = trim first := trim_append_blank_left hblank first
      rw [extendFirst, List.map_cons, List.map_cons, hfirst]

theorem split_of_not_mem {text : List Char} (hcomma : ',' ∉ text) : split text = [trim text] := by
  rw [split, splitAt_of_not_mem hcomma]
  rfl

theorem split_append_blank_right (text : List Char) {blanks : List Char}
    (hblanks : ∀ c ∈ blanks, isBlank c = true) : split (text ++ blanks) = split text := by
  have hcomma : ',' ∉ blanks := fun hmem => absurd (hblanks ',' hmem) (by decide)
  by_cases hmem : ',' ∈ text
  · obtain ⟨front, last, rfl, hlast, -⟩ := exists_getLast?_splitAt hmem
    have hfree : ',' ∉ last ++ blanks := by simp [hlast, hcomma]
    rw [List.append_assoc, List.cons_append, split_append_comma, split_append_comma,
      split_of_not_mem hlast, split_of_not_mem hfree, trim_append_blank_right last hblanks]
  · have hfree : ',' ∉ text ++ blanks := by simp [hmem, hcomma]
    rw [split_of_not_mem hmem, split_of_not_mem hfree, trim_append_blank_right text hblanks]

/-- Blanks around the arguments belong to none of them. -/
theorem split_trim (text : List Char) : split (trim text) = split text := by
  have hfront : split (text.dropWhile isBlank) = split text := by
    conv_rhs => rw [← List.takeWhile_append_dropWhile (p := isBlank) (l := text)]
    rw [split_append_blank_left fun c hc => List.mem_takeWhile_imp hc]
  have hback : ∀ other : List Char, split (trimEnd other) = split other := by
    intro other
    have hparts : trimEnd other ++ (other.reverse.takeWhile isBlank).reverse = other := by
      rw [trimEnd, ← List.reverse_append, List.takeWhile_append_dropWhile, List.reverse_reverse]
    conv_rhs => rw [← hparts]
    rw [split_append_blank_right _ fun c hc => List.mem_takeWhile_imp (List.mem_reverse.mp hc)]
  rw [trim_eq_trimEnd_dropWhile, hback, hfront]

/-! ## Arguments at the end -/

/-- A text that is an argument or an item of a list as it stands: it is not empty, and
has no blanks around it, no commas and no braces. -/
structure IsItem (text : List Char) : Prop where
  ne_nil : text ≠ []
  trim_eq : trim text = text
  comma_not_mem : ',' ∉ text
  opening_not_mem : '\x7b' ∉ text
  closing_not_mem : '\x7d' ∉ text

instance (text : List Char) : Decidable (IsItem text) :=
  decidable_of_iff
    (text ≠ [] ∧ trim text = text ∧ ',' ∉ text ∧ '\x7b' ∉ text ∧ '\x7d' ∉ text)
    ⟨fun ⟨hne, htrim, hcomma, hopening, hclosing⟩ => ⟨hne, htrim, hcomma, hopening, hclosing⟩,
      fun ⟨hne, htrim, hcomma, hopening, hclosing⟩ => ⟨hne, htrim, hcomma, hopening, hclosing⟩⟩

/-- The last of the arguments is the given one; blanks may stand around it. -/
inductive IsLast (argument : List Char) : List Char → Prop
  | alone {before after : List Char} (hbefore : ∀ c ∈ before, isBlank c = true)
    (hafter : ∀ c ∈ after, isBlank c = true) : IsLast argument (before ++ (argument ++ after))
  | behind (earlier : List Char) {before after : List Char}
    (hbefore : ∀ c ∈ before, isBlank c = true) (hafter : ∀ c ∈ after, isBlank c = true) :
    IsLast argument (earlier ++ ',' :: (before ++ (argument ++ after)))

theorem IsLast.self (argument : List Char) : IsLast argument argument := by
  have hlast : IsLast argument ([] ++ (argument ++ [])) := .alone nofun nofun
  rwa [List.nil_append, List.append_nil] at hlast

section Last

variable {argument arguments : List Char}

theorem IsLast.getLast?_split (hlast : IsLast argument arguments) (hcomma : ',' ∉ argument) :
    (split arguments).getLast? = some (trim argument) := by
  have hsplit : ∀ before after : List Char, (∀ c ∈ before, isBlank c = true) →
      (∀ c ∈ after, isBlank c = true) →
      split (before ++ (argument ++ after)) = [trim argument] := by
    intro before after hbefore hafter
    rw [split_append_blank_left hbefore, split_append_blank_right _ hafter,
      split_of_not_mem hcomma]
  cases hlast with
  | alone hbefore hafter => rw [hsplit _ _ hbefore hafter, List.getLast?_singleton]
  | behind earlier hbefore hafter =>
    rw [split_append_comma, hsplit _ _ hbefore hafter, List.getLast?_concat]

/-- Up to blanks, the arguments end with the last one. -/
theorem IsLast.getLast?_trim (hlast : IsLast argument arguments) (hitem : IsItem argument) :
    (trim arguments).getLast? = argument.getLast? := by
  obtain ⟨front, c, rfl⟩ : ∃ front c, argument = front ++ [c] :=
    ⟨_, _, (List.dropLast_concat_getLast hitem.ne_nil).symm⟩
  have hc : isBlank c = false := by
    by_contra hblank
    have hblanks : ∀ d ∈ [c], isBlank d = true := by simpa using hblank
    have htrim := hitem.trim_eq
    rw [trim_append_blank_right front hblanks] at htrim
    have hlength := congrArg List.length htrim
    have hle : (trim front).length ≤ front.length := length_trim_le front
    simp only [List.length_append, List.length_singleton] at hlength
    omega
  obtain ⟨before, after, hafter, rfl⟩ : ∃ before after, (∀ d ∈ after, isBlank d = true) ∧
      arguments = before ++ [c] ++ after := by
    cases hlast with
    | @alone before after _ hafter => exact ⟨before ++ front, after, hafter, by simp⟩
    | @behind earlier before after _ hafter =>
      exact ⟨earlier ++ ',' :: (before ++ front), after, hafter, by simp⟩
  rw [trim_append_blank_right _ hafter, trim_concat hc, List.getLast?_concat, List.getLast?_concat]

/-- An argument that is not a list is shown by its value, whatever stands before it. -/
theorem defaultValue_of_isLast {overrides : Table String String} (constants : Table String String)
    (lists : Bool) {key : String} (hkey : overrides.find? key = none)
    (hlast : IsLast argument arguments) (hitem : IsItem argument) :
    defaultValue overrides constants lists key (String.ofList arguments) =
      value constants argument := by
  have hbrace : braceList? (trim arguments) = none := by
    rw [braceList?, if_neg]
    rw [hlast.getLast?_trim hitem]
    exact fun hclosing => hitem.closing_not_mem (List.mem_of_getLast? hclosing)
  have hnone : (if lists then braceList? (trim arguments) else none) = none := by
    rw [hbrace, ite_self]
  rw [defaultValue, hkey, String.toList_ofList]
  simp only [lastValue, hnone]
  rw [split_trim, hlast.getLast?_split hitem.comma_not_mem, Option.getD_some, hitem.trim_eq]

end Last

end ConfigReference.Argument

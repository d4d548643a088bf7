import ConfigReference.Proofs.LastArgument

/-!
# Defaults that are lists

A list in braces at the end of the arguments is shown as its items with blanks
between them.  The list is taken to begin at the first opening brace of all the
arguments.  The arguments before it therefore do not matter as long as none of
them has an opening brace; otherwise what follows that brace is shown as part of
the list, with the brace of the list itself in the midst.
-/

namespace ConfigReference.Argument

open Text

/-! ## Lists in braces -/

/-- A list of items as it is written. -/
def braces (items : List (List Char)) : List Char :=
  '\x7b' :: (joinWith [',', ' '] items ++ ['\x7d'])

/-- A list of items as it is shown. -/
def itemsText (items : List (List Char)) : String :=
  if items.isEmpty then emptyMark else String.ofList (joinWith [' '] items)

/-- The items that are found in the inside of a list. -/
def itemsIn (inside : List Char) : List (List Char) :=
  (split inside).filter (! ·.isEmpty)

theorem split_joinWith {items : List (List Char)} (hne : items ≠ [])
    (hitems : ∀ item ∈ items, IsItem item) : split (joinWith [',', ' '] items) = items := by
  have hitem : ∀ item ∈ items, split item = [item] := fun item hmem => by
    rw [split_of_not_mem (hitems item hmem).comma_not_mem, (hitems item hmem).trim_eq]
  clear hitems
  fun_induction joinWith [',', ' '] items with
  | case1 => exact absurd rfl hne
  | case2 item => exact hitem item List.mem_cons_self
  | case3 item rest hrest ih =>
    have hothers : split (joinWith [',', ' '] rest) = rest :=
      ih (fun hnil => hrest hnil) fun other hother => hitem other (List.mem_cons_of_mem _ hother)
    have hback : split (' ' :: joinWith [',', ' '] rest) = rest :=
      (split_append_blank_left isBlank_of_mem_space _).trans hothers
    rw [List.append_assoc, List.cons_append, List.singleton_append, split_append_comma, hback,
      hitem item List.mem_cons_self]
    rfl

theorem itemsIn_joinWith {items : List (List Char)} (hitems : ∀ item ∈ items, IsItem item) :
    itemsIn (joinWith [',', ' '] items) = items := by
  by_cases hne : items = []
  · rw [hne]
    rfl
  · rw [itemsIn, split_joinWith hne hitems, List.filter_eq_self]
    intro item hmem
    simpa using (hitems item hmem).ne_nil

/-- The list begins at the first opening brace. -/
theorem braceList?_eq {front inside : List Char} (hfront : '\x7b' ∉ front) :
    braceList? (front ++ '\x7b' :: (inside ++ ['\x7d'])) = some (itemsText (itemsIn inside)) := by
  have hlast : (front ++ '\x7b' :: (inside ++ ['\x7d'])).getLast? = some '\x7d' := by
    rw [← List.cons_append, ← List.append_assoc, List.getLast?_concat]
  have hbegin : (front ++ '\x7b' :: (inside ++ ['\x7d'])).dropWhile (· ≠ '\x7b') =
      '\x7b' :: (inside ++ ['\x7d']) := by
    apply (takeWhile_dropWhile_append_cons _ '\x7b' (by simp) _).2
    intro c hc
    exact decide_eq_true fun heq => hfront (heq ▸ hc)
  rw [braceList?, if_pos hlast, hbegin]
  simp only [List.dropLast_concat]
  rfl

section Shown

variable {c : Char}

/-- A character that is neither blank nor a comma is still there when the inside of
a list is shown. -/
theorem mem_itemsText_itemsIn (hblank : isBlank c = false) (hcomma : c ≠ ',') {inside : List Char}
    (hmem : c ∈ inside) : c ∈ (itemsText (itemsIn inside)).toList := by
  obtain ⟨part, hpart, hin⟩ := exists_part_of_mem hcomma hmem
  have htrimmed : c ∈ trim part := mem_trim hblank hin
  have hitem : trim part ∈ itemsIn inside := by
    rw [itemsIn, List.mem_filter]
    refine ⟨List.mem_map_of_mem hpart, ?_⟩
    simpa using List.ne_nil_of_mem htrimmed
  have hne : (itemsIn inside).isEmpty = false := by
    simpa using List.ne_nil_of_mem hitem
  rw [itemsText, hne, if_neg (by simp), String.toList_ofList]
  exact mem_joinWith_of_mem hitem htrimmed

theorem opening_not_mem_itemsText {items : List (List Char)}
    (hitems : ∀ item ∈ items, IsItem item) : '\x7b' ∉ (itemsText items).toList := by
  rw [itemsText]
  split
  · decide
  · rw [String.toList_ofList]
    intro hmem
    rcases mem_joinWith hmem with hbetween | ⟨item, hitem, hin⟩
    · exact absurd hbetween (by decide)
    · exact (hitems item hitem).opening_not_mem hin

end Shown

/-! ## The list as the last argument -/

/-- Arguments with commas and blanks between them, the last of them a list. -/
def endingWithList (earlier items : List (List Char)) : List Char :=
  joinWith [',', ' '] (earlier ++ [braces items])

/-- What stands before the list. -/
def beforeList (earlier : List (List Char)) : List Char :=
  (earlier.flatMap (· ++ [',', ' '])).dropWhile isBlank

theorem opening_mem_beforeList_iff {earlier : List (List Char)} :
    '\x7b' ∈ beforeList earlier ↔ ∃ argument ∈ earlier, '\x7b' ∈ argument := by
  have hall : '\x7b' ∈ earlier.flatMap (· ++ [',', ' ']) ↔
      ∃ argument ∈ earlier, '\x7b' ∈ argument := by
    simp [List.mem_flatMap]
  rw [← hall]
  exact ⟨fun hmem => (List.dropWhile_sublist _).mem hmem, mem_dropWhile (by decide)⟩

theorem trim_endingWithList (earlier items : List (List Char)) :
    trim (endingWithList earlier items) = beforeList earlier ++ braces items := by
  have hconcat : endingWithList earlier items =
      (earlier.flatMap (· ++ [',', ' ']) ++ '\x7b' :: joinWith [',', ' '] items) ++ ['\x7d'] := by
    rw [endingWithList, joinWith_concat, braces, List.append_assoc, List.cons_append]
  have hopening : ∀ front back : List Char, (front ++ '\x7b' :: back).dropWhile isBlank =
      front.dropWhile isBlank ++ '\x7b' :: back := by
    intro front back
    rw [List.dropWhile_append]
    split
    · next hblank =>
      rw [List.isEmpty_iff.mp hblank, List.dropWhile_cons_of_neg (by decide)]
      rfl
    · rfl
  rw [hconcat, trim_concat (by decide), hopening, List.append_assoc]
  rfl

section LastList

variable {earlier items : List (List Char)} {overrides : Table String String} {key : String}

theorem defaultValue_endingWithList (constants : Table String String)
    (hkey : overrides.find? key = none) {shown : String}
    (hlist : braceList? (beforeList earlier ++ braces items) = some shown) :
    defaultValue overrides constants true key (String.ofList (endingWithList earlier items)) =
      shown := by
  rw [defaultValue, hkey, String.toList_ofList, trim_endingWithList]
  simp only [lastValue, if_true, hlist]

/-- Without an opening brace before it the list is shown as it is. -/
theorem defaultValue_of_no_brace (constants : Table String String)
    (hkey : overrides.find? key = none) (hitems : ∀ item ∈ items, IsItem item)
    (hfree : ∀ argument ∈ earlier, '\x7b' ∉ argument) :
    defaultValue overrides constants true key (String.ofList (endingWithList earlier items)) =
      itemsText items := by
  have hfront : '\x7b' ∉ beforeList earlier := by
    rw [opening_mem_beforeList_iff]
    rintro ⟨argument, hargument, hmem⟩
    exact hfree argument hargument hmem
  apply defaultValue_endingWithList constants hkey
  rw [braces, braceList?_eq hfront, itemsIn_joinWith hitems]

/-- An opening brace before the list leaves that of the list in what is shown. -/
theorem opening_mem_defaultValue (constants : Table String String)
    (hkey : overrides.find? key = none)
    (hbrace : ∃ argument ∈ earlier, '\x7b' ∈ argument) :
    '\x7b' ∈ (defaultValue overrides constants true key
      (String.ofList (endingWithList earlier items))).toList := by
  obtain ⟨front, back, hfront, hfree⟩ :=
    List.eq_append_cons_of_mem (opening_mem_beforeList_iff.mpr hbrace)
  have hlist : braceList? (beforeList earlier ++ braces items) =
      some (itemsText (itemsIn (back ++ '\x7b' :: joinWith [',', ' '] items))) := by
    rw [← braceList?_eq hfree, hfront, braces]
    simp only [List.append_assoc, List.cons_append]
  rw [defaultValue_endingWithList constants hkey hlist]
  exact mem_itemsText_itemsIn (by decide) (by decide) (by simp)

end LastList

/-- A list in braces, alone, is shown as its items.  Behind other arguments it is
shown so exactly if none of them has an opening brace; else the opening brace of
the list is shown with what stands before it. -/
theorem list_default_after_arguments (overrides constants : Table String String) (key : String)
    (earlier items : List (List Char)) (hkey : overrides.find? key = none)
    (hitems : ∀ item ∈ items, IsItem item) :
    defaultValue overrides constants true key (String.ofList (braces items)) = itemsText items ∧
    (defaultValue overrides constants true key (String.ofList (endingWithList earlier items)) =
        itemsText items ↔
      ∀ argument ∈ earlier, '\x7b' ∉ argument) ∧
    ((∃ argument ∈ earlier, '\x7b' ∈ argument) →
      '\x7b' ∈ (defaultValue overrides constants true key
        (String.ofList (endingWithList earlier items))).toList) := by
  refine ⟨?_, ⟨?_, ?_⟩, opening_mem_defaultValue constants hkey⟩
  · have halone : endingWithList [] items = braces items := rfl
    rw [← halone]
    exact defaultValue_of_no_brace constants hkey hitems nofun
  · intro hshown argument hargument hmem
    have hleft : '\x7b' ∈ (defaultValue overrides constants true key
        (String.ofList (endingWithList earlier items))).toList :=
      opening_mem_defaultValue constants hkey ⟨argument, hargument, hmem⟩
    rw [hshown] at hleft
    exact opening_not_mem_itemsText hitems hleft
  · exact defaultValue_of_no_brace constants hkey hitems

/-- Two lists, of which the second is the default. -/
def twoLists : List Char :=
  endingWithList [braces [['a'], ['b']]] [['c'], ['d']]

/-- A list behind another list: the two are shown as one. -/
theorem list_default_after_arguments_two_lists :
    (∀ item ∈ [['c'], ['d']], IsItem item) ∧
      String.ofList twoLists = "\x7ba, b\x7d, \x7bc, d\x7d" ∧
      defaultValue ∅ ∅ true "k" "\x7bc, d\x7d" = "c d" ∧
      defaultValue ∅ ∅ true "k" (String.ofList twoLists) ≠ "c d" ∧
      '\x7b' ∈ (defaultValue ∅ ∅ true "k" (String.ofList twoLists)).toList := by
  have hitems : ∀ item ∈ [['c'], ['d']], IsItem item := by decide
  have hbrace : ∃ argument ∈ [braces [['a'], ['b']]], '\x7b' ∈ argument := by decide
  obtain ⟨halone, hiff, hleft⟩ := list_default_after_arguments ∅ ∅ "k" [braces [['a'], ['b']]]
    [['c'], ['d']] rfl hitems
  refine ⟨hitems, by decide, halone, fun hshown => ?_, hleft hbrace⟩
  obtain ⟨argument, hargument, hmem⟩ := hbrace
  exact hiff.mp hshown argument hargument hmem

end ConfigReference.Argument

import ConfigReference.Proofs.JoinedText
import ConfigReference.Proofs.SourceReading
import ConfigReference.Proofs.Utf8

/-!
# Line ends and indentation

A scan looks at what stands between the line feeds of a text, without the blanks
around it.  A carriage return is a blank, so it makes no difference whether lines
end with a line feed alone, and lines may be indented and followed by blanks at
will.  Reading a file turns every carriage return into a line end; that changes
nothing if each of them is part of a line end already.
-/

namespace ConfigReference

open File (Location Path)

namespace Text

/-! ## Carriage returns before line feeds -/

/-- The text with a carriage return before every line feed. -/
def withReturns (text : List Char) : List Char :=
  text.flatMap fun c => if c = '\n' then ['\r', '\n'] else [c]

theorem withReturns_of_not_mem {line : List Char} (hfree : '\n' ∉ line) :
    withReturns line = line := by
  induction line with
  | nil => rfl
  | cons c line ih =>
    rw [List.mem_cons, not_or] at hfree
    rw [withReturns, List.flatMap_cons, if_neg (Ne.symm hfree.1), ← withReturns, ih hfree.2]
    rfl

theorem withReturns_append_lineFeed {line : List Char} (hfree : '\n' ∉ line) (rest : List Char) :
    withReturns (line ++ '\n' :: rest) = (line ++ ['\r']) ++ '\n' :: withReturns rest := by
  have happend : withReturns (line ++ '\n' :: rest) =
      withReturns line ++ withReturns ('\n' :: rest) := List.flatMap_append
  rw [happend, withReturns_of_not_mem hfree, List.append_assoc]
  rfl

theorem trim_append_return (line : List Char) : trim (line ++ ['\r']) = trim line :=
  trim_append_blank_right line (by simp; decide)

theorem map_trim_withReturns (text : List Char) :
    (splitAt '\n' (withReturns text)).map trim = (splitAt '\n' text).map trim := by
  induction text using induction_on_lines with
  | hlast line hfree => rw [withReturns_of_not_mem hfree]
  | hline line rest hfree ih =>
    have hreturn : '\n' ∉ line ++ ['\r'] := by simpa using hfree
    rw [withReturns_append_lineFeed hfree, splitAt_append_separator, splitAt_append_separator,
      splitAt_of_not_mem hreturn, splitAt_of_not_mem hfree, List.map_append, List.map_append, ih,
      List.map_singleton, List.map_singleton, trim_append_return]

/-! ## Blanks around lines -/

/-- The second line is the first one with blanks before and behind it.  A carriage
return that belongs to the line end may stay where it is. -/
inductive PaddedLine : List Char → List Char → Prop
  | mk (left body right ending : List Char) (hleft : IsPadding left) (hright : IsPadding right)
      (hending : ending = [] ∨ ending = ['\r']) :
      PaddedLine (body ++ ending) (left ++ body ++ right ++ ending)

/-- The second text is the first one with blanks before and behind any of its lines. -/
def Padded (text padded : List Char) : Prop :=
  ∃ lines, List.Forall₂ PaddedLine (splitAt '\n' text) lines ∧ padded = joinWith ['\n'] lines

theorem PaddedLine.trim_eq {line padded : List Char} (hpadded : PaddedLine line padded) :
    trim padded = trim line := by
  obtain ⟨left, body, right, ending, hleft, hright, hending⟩ := hpadded
  have hblanks : ∀ c ∈ ending, isBlank c = true := by
    rcases hending with rfl | rfl
    · exact nofun
    · simp; decide
  rw [trim_append_blank_right _ hblanks, trim_padding hleft hright,
    trim_append_blank_right _ hblanks]

theorem PaddedLine.lineFeed_not_mem {line padded : List Char} (hpadded : PaddedLine line padded)
    (hfree : '\n' ∉ line) : '\n' ∉ padded := by
  obtain ⟨left, body, right, ending, hleft, hright, -⟩ := hpadded
  simp only [List.mem_append, not_or] at hfree ⊢
  exact ⟨⟨⟨hleft.lineFeed_not_mem, hfree.1⟩, hright.lineFeed_not_mem⟩, hfree.2⟩

theorem map_trim_of_paddedLines {lines padded : List (List Char)}
    (hpadded : List.Forall₂ PaddedLine lines padded) : padded.map trim = lines.map trim := by
  induction hpadded with
  | nil => rfl
  | cons hline _ ih => rw [List.map_cons, List.map_cons, hline.trim_eq, ih]

theorem lineFeed_not_mem_of_paddedLines {lines padded : List (List Char)}
    (hpadded : List.Forall₂ PaddedLine lines padded) (hfree : ∀ line ∈ lines, '\n' ∉ line) :
    ∀ line ∈ padded, '\n' ∉ line := by
  induction hpadded with
  | nil => exact nofun
  | cons hline _ ih =>
    rw [List.forall_mem_cons] at hfree ⊢
    exact ⟨hline.lineFeed_not_mem hfree.1, ih hfree.2⟩

theorem Padded.map_trim_eq {text padded : List Char} (hpadded : Padded text padded) :
    (splitAt '\n' padded).map trim = (splitAt '\n' text).map trim := by
  obtain ⟨lines, hlines, rfl⟩ := hpadded
  have hne : lines ≠ [] := by
    rintro rfl
    exact splitAt_ne_nil '\n' text (List.forall₂_nil_right_iff.mp hlines)
  have hfree : ∀ line ∈ lines, '\n' ∉ line :=
    lineFeed_not_mem_of_paddedLines hlines fun _ hpart => separator_not_mem_of_mem_splitAt hpart
  rw [splitAt_joinWith hne hfree, map_trim_of_paddedLines hlines]

/-! ## Carriage returns as line ends -/

/-- Every carriage return stands right before a line feed. -/
def ReturnsEndLines (text : List Char) : Prop :=
  ∀ front back, text = front ++ '\r' :: back → back.head? = some '\n'

/-- A carriage return in a line can only be its last character, with a line feed
behind it. -/
theorem ReturnsEndLines.line {line tail : List Char} (hreturns : ReturnsEndLines (line ++ tail))
    (hfree : '\n' ∉ line) :
    '\r' ∉ line ∨ ∃ body, line = body ++ ['\r'] ∧ '\r' ∉ body ∧ tail.head? = some '\n' := by
  by_cases hmem : '\r' ∈ line
  · obtain ⟨body, behind, rfl, hbody⟩ := List.eq_append_cons_of_mem hmem
    have hhead := hreturns body (behind ++ tail) (by rw [List.append_assoc]; rfl)
    cases behind with
    | nil => exact .inr ⟨body, rfl, hbody, hhead⟩
    | cons c behind =>
      obtain rfl : c = '\n' := Option.some.inj hhead
      exact absurd (by simp) hfree
  · exact .inl hmem

theorem returnsEndLines_nil : ReturnsEndLines [] := by
  intro front back heq
  simp at heq

theorem returnsEndLines_cons_iff {c : Char} {text : List Char} :
    ReturnsEndLines (c :: text) ↔
      (c = '\r' → text.head? = some '\n') ∧ ReturnsEndLines text := by
  constructor
  · intro hreturns
    refine ⟨?_, ?_⟩
    · rintro rfl
      exact hreturns [] text rfl
    · rintro front back rfl
      exact hreturns (c :: front) back rfl
  · rintro ⟨hfirst, hrest⟩ front back heq
    cases front with
    | nil =>
      obtain ⟨rfl, rfl⟩ := List.cons.inj heq
      exact hfirst rfl
    | cons d front =>
      obtain ⟨rfl, rfl⟩ := List.cons.inj heq
      exact hrest front back rfl

instance decidableReturnsEndLines : (text : List Char) → Decidable (ReturnsEndLines text)
  | [] => isTrue returnsEndLines_nil
  | _ :: text =>
    have := decidableReturnsEndLines text
    decidable_of_iff _ returnsEndLines_cons_iff.symm

theorem unifyLineEnds_cons {c : Char} (hc : c ≠ '\r') (rest : List Char) :
    unifyLineEnds (c :: rest) = c :: unifyLineEnds rest := by
  rw [unifyLineEnds.eq_4]
  · rintro _ rfl
    exact absurd rfl hc
  · exact hc

theorem unifyLineEnds_append {body : List Char} (hbody : '\r' ∉ body) (rest : List Char) :
    unifyLineEnds (body ++ rest) = body ++ unifyLineEnds rest := by
  induction body with
  | nil => rfl
  | cons c body ih =>
    rw [List.mem_cons, not_or] at hbody
    rw [List.cons_append, unifyLineEnds_cons (Ne.symm hbody.1), ih hbody.2, List.cons_append]

theorem unifyLineEnds_append_lineFeed {line rest : List Char}
    (hreturns : ReturnsEndLines (line ++ '\n' :: rest)) (hfree : '\n' ∉ line) :
    unifyLineEnds (line ++ '\n' :: rest) = dropReturn line ++ '\n' :: unifyLineEnds rest := by
  have hfeed : unifyLineEnds ('\n' :: rest) = '\n' :: unifyLineEnds rest :=
    unifyLineEnds_cons (by decide) rest
  rcases hreturns.line hfree with hnone | ⟨body, rfl, hbody, -⟩
  · have hlast : line.getLast? ≠ some '\r' := fun heq => hnone (List.mem_of_getLast? heq)
    rw [unifyLineEnds_append hnone, hfeed, dropReturn, if_neg hlast]
  · rw [List.append_assoc, unifyLineEnds_append hbody, dropReturn, if_pos List.getLast?_concat,
      List.dropLast_concat]
    rfl

theorem ReturnsEndLines.map_trim_unifyLineEnds {text : List Char}
    (hreturns : ReturnsEndLines text) :
    (splitAt '\n' (unifyLineEnds text)).map trim = (splitAt '\n' text).map trim := by
  induction text using induction_on_lines with
  | hlast line hfree =>
    rw [← List.append_nil line] at hreturns
    rcases hreturns.line hfree with hnone | ⟨_, _, _, hhead⟩
    · have hsame : unifyLineEnds line = line := by
        rw [← List.append_nil line, unifyLineEnds_append hnone, unifyLineEnds]
      rw [hsame]
    · cases hhead
  | hline line rest hfree ih =>
    have hrest : ReturnsEndLines rest := by
      rintro front back rfl
      exact hreturns (line ++ '\n' :: front) back (by rw [List.append_assoc]; rfl)
    have hbody : '\n' ∉ dropReturn line := fun hmem => hfree (mem_of_mem_dropReturn hmem)
    rw [unifyLineEnds_append_lineFeed hreturns hfree, splitAt_append_separator,
      splitAt_append_separator, splitAt_of_not_mem hbody, splitAt_of_not_mem hfree,
      List.map_append, List.map_append, List.map_singleton, List.map_singleton, trim_dropReturn,
      ih hrest]

end Text

/-! ## Scans of texts that differ in blanks -/

section Scans

open Text

theorem scanText_eq_of_map_trim_eq (variant : Variant) (file : String) {text other : String}
    (hlines : (splitAt '\n' other.toList).map trim = (splitAt '\n' text.toList).map trim) :
    scanText variant file other = scanText variant file text := by
  rw [scanText, scanText, statements_eq_map_trim, statements_eq_map_trim, hlines]

theorem lines_scanText (variant : Variant) (file text : String) :
    (scanText variant file text).lines = text.toList.count '\n' + 1 := by
  rw [scanText, ScanState.lines_finish, line_scanStatements, statements_eq_map_trim,
    List.length_map, List.length_map, length_splitAt, Int.natCast_succ]

/-- The octets of a text are read as the text with its line ends unified. -/
theorem Source.read_eq_ok_of_octets {working : Location} {root : Path} {source text : String}
    {session : Session} (hnull : (root.join (Path.ofString source)).hasNull = false)
    (hoctets : session.tree.octets working (root.join (Path.ofString source)) =
      .ok (encodeUtf8 text.toList)) :
    ∃ after, Source.read working root source session =
      .ok (String.ofList (unifyLineEnds text.toList)) after := by
  have htext : session.tree.text? working (root.join (Path.ofString source)) =
      some (String.ofList (unifyLineEnds text.toList)) := by
    simp only [File.Tree.text?, hoctets, decodeUtf8_encodeUtf8]
  obtain ⟨after, hread, -⟩ := Source.yields_read hnull htext session rfl
  exact ⟨after, hread⟩

/-- The scan of a text is the same with carriage returns before its line feeds, and with
blanks around its lines.  If the text has no other carriage returns than such, it is
the same again for what is read from a file that holds the text.  The number of lines
is one more than that of the line feeds. -/
theorem scanText_ignores_line_ends (variant : Variant) (file text : String) :
    scanText variant file (String.ofList (withReturns text.toList)) =
        scanText variant file text ∧
      (∀ padded : String, Padded text.toList padded.toList →
        scanText variant file padded = scanText variant file text) ∧
      (ReturnsEndLines text.toList →
        scanText variant file (String.ofList (unifyLineEnds text.toList)) =
          scanText variant file text) ∧
      (∀ (working : Location) (root : Path) (source : String) (session : Session),
        (root.join (Path.ofString source)).hasNull = false →
        session.tree.octets working (root.join (Path.ofString source)) =
          .ok (encodeUtf8 text.toList) →
        ∃ after, Source.read working root source session =
          .ok (String.ofList (unifyLineEnds text.toList)) after) ∧
      (scanText variant file text).lines = text.toList.count '\n' + 1 := by
  refine ⟨?_, ?_, ?_, ?_, lines_scanText variant file text⟩
  · apply scanText_eq_of_map_trim_eq
    rw [String.toList_ofList, map_trim_withReturns]
  · intro padded hpadded
    exact scanText_eq_of_map_trim_eq variant file hpadded.map_trim_eq
  · intro hreturns
    apply scanText_eq_of_map_trim_eq
    rw [String.toList_ofList, hreturns.map_trim_unifyLineEnds]
  · intro working root source session hnull hoctets
    exact Source.read_eq_ok_of_octets hnull hoctets

end Scans

/-- Two lines, the first of which ends with a carriage return and a line feed. -/
def returnedText : String :=
  "CFG->GetInt(\"k\", 1);\r\nCFG->FailIfErrorLast();"

/-- The same lines with blanks of several kinds around them. -/
def paddedText : String :=
  "\tCFG->GetInt(\"k\", 1);\u0085\r\n\u2028CFG->FailIfErrorLast();\r"

theorem padded_paddedText : Text.Padded returnedText.toList paddedText.toList := by
  have hlines : Text.splitAt '\n' returnedText.toList =
      ["CFG->GetInt(\"k\", 1);".toList ++ ['\r'], "CFG->FailIfErrorLast();".toList ++ []] := by
    decide +kernel
  rw [Text.Padded, hlines]
  refine ⟨_, .cons (.mk ['\t'] _ ['\u0085'] _ ?_ ?_ (.inr rfl))
    (.cons (.mk ['\u2028'] _ ['\r'] _ ?_ ?_ (.inl rfl)) .nil), by decide +kernel⟩
  all_goals exact List.forall_mem_singleton.mpr (by decide)

def returnedFile : Session where
  files.tree := (File.Tree.put {} ["p"] .directory).put ["p", "a.cpp"]
    (.file (Text.encodeUtf8 returnedText.toList))

theorem scanText_ignores_line_ends_returned :
    Text.Padded returnedText.toList paddedText.toList ∧
      Text.ReturnsEndLines returnedText.toList ∧
      scanText Variant.config "a.cpp" paddedText = scanText Variant.config "a.cpp" returnedText ∧
      ∃ text after, Source.read [] (Path.ofString "p") "a.cpp" returnedFile = .ok text after ∧
        scanText Variant.config "a.cpp" text = scanText Variant.config "a.cpp" returnedText := by
  have hreturns : Text.ReturnsEndLines returnedText.toList := by decide +kernel
  obtain ⟨-, hpadded, hunified, hread, -⟩ :=
    scanText_ignores_line_ends Variant.config "a.cpp" returnedText
  obtain ⟨after, hrun⟩ := hread [] (Path.ofString "p") "a.cpp" returnedFile (by decide +kernel)
    (by decide +kernel)
  exact ⟨padded_paddedText, hreturns, hpadded paddedText padded_paddedText, _, after, hrun,
    hunified hreturns⟩

end ConfigReference

import Mathlib.Data.List.DropRight
import Mathlib.Tactic.SplitIfs
import StyleInline.Pattern
import StyleInline.Proofs.Matching

/-!
# Texts without indentation

A text loses its indentation when every run of white space around a line break is replaced by that
line break.  What is left are the trimmed lines of the text that are not empty, so these lines, and
nothing else, tell which texts become one.
-/

namespace StyleInline.Text

open Pattern (Matcher Tree)

/-- White space around a line break. -/
def lineBreaks : Matcher :=
  .sequence (.repetition ⟨0, none⟩ (.set .whiteSpace)) <| .sequence (.set (.single '\n')) <|
    .sequence (.repetition ⟨0, none⟩ (.set .whiteSpace)) .nothing

/-- The lines of a text, trimmed, but for the empty ones. -/
def solidLines (text : List Char) : List (List Char) :=
  ((text.splitOn '\n').map trimChars).filter (· ≠ [])

def IsBlank (text : List Char) : Prop := ∀ c ∈ text, isBlank c = true

def StartsSolid (text : List Char) : Prop := ∀ c ∈ text.head?, isBlank c = false

def EndsSolid (text : List Char) : Prop := ∀ c ∈ text.getLast?, isBlank c = false

section Matches

theorem contains_whiteSpace (c : Char) : CharTable.whiteSpace.contains c = isBlank c := by
  unfold CharTable.contains CharTable.containsCode isBlank
  generalize c.toNat = code
  simp [CharTable.whiteSpace, CharTable.boundsUpTo]
  split_ifs <;> simp <;> omega

theorem contains_lineBreak (c : Char) :
    (CharTable.single '\n').contains c = true ↔ c = '\n' := by
  have table : CharTable.single '\n' = ⟨#[10, 11]⟩ := rfl
  rw [table, ← Char.toNat_inj]
  unfold CharTable.contains CharTable.containsCode
  simp [CharTable.boundsUpTo]
  split_ifs <;> simp <;> omega

/-- The pattern as it is written. -/
theorem ofText_lineBreaks : (Tree.ofText "\\s*\\n\\s*").bind Matcher.ofTree = .ok lineBreaks := by
  decide +kernel

open Pattern.Matcher in
/-- The parts that match are white space with a line break in it. -/
theorem matches_lineBreaks {text : List Char} {first last : Nat} :
    lineBreaks.Matches text first last ↔
      (∃ place, first ≤ place ∧ place < last ∧ text[place]? = some '\n') ∧
        ∀ place, first ≤ place → place < last → ∃ c, text[place]? = some c ∧ isBlank c = true := by
  have full : (onlyPlace text first).length = text.length + 1 := by simp [onlyPlace]
  have walked : lineBreaks.Matches text first last ↔
      IsMarked ((repetition ⟨0, none⟩ (set .whiteSpace)).ends text
        ((set (.single '\n')).ends text
          ((repetition ⟨0, none⟩ (set .whiteSpace)).ends text (onlyPlace text first)))) last :=
    Iff.rfl
  rw [walked, isMarked_repeated (length_ends _ (length_ends _ full))]
  simp only [isMarked_set, isMarked_repeated full, isMarked_onlyPlace, IsAccepted,
    contains_whiteSpace, contains_lineBreak]
  constructor
  · rintro ⟨_, low, ⟨middle, rfl, ⟨start, low', ⟨rfl, _⟩, before⟩, _, found, rfl⟩, behind⟩
    refine ⟨⟨middle, low', by omega, found⟩, fun place above below => ?_⟩
    rcases Nat.lt_trichotomy place middle with left | rfl | right
    · exact before place above left
    · exact ⟨_, found, rfl⟩
    · exact behind place right below
  · rintro ⟨⟨middle, low, high, found⟩, blank⟩
    obtain ⟨inside, _⟩ := List.getElem?_eq_some_iff.mp found
    exact ⟨middle + 1, high, ⟨middle, rfl, ⟨first, low, ⟨rfl, by omega⟩,
      fun place above below => blank place above (by omega)⟩, '\n', found, rfl⟩,
      fun place above below => blank place (by omega) below⟩

end Matches

section Runs

/-- The first run of white space with a line break in a text, with what stands around it. -/
structure FirstRun (before run behind : List Char) : Prop where
  unbroken : '\n' ∉ before
  ends : EndsSolid before
  blank : IsBlank run
  breaks : '\n' ∈ run
  starts : StartsSolid behind

theorem startsSolid_dropWhile (text : List Char) : StartsSolid (text.dropWhile isBlank) := by
  intro c start
  simpa [Option.mem_def.mp start] using List.head?_dropWhile_not isBlank text

theorem endsSolid_rdropWhile (text : List Char) : EndsSolid (text.rdropWhile isBlank) := by
  intro c last
  rw [List.rdropWhile, List.getLast?_reverse] at last
  exact startsSolid_dropWhile _ c last

theorem isBlank_takeWhile (text : List Char) : IsBlank (text.takeWhile isBlank) :=
  fun _ member => List.mem_takeWhile_imp member

/-- A text with a line break has a first run. -/
theorem exists_firstRun {text : List Char} (broken : '\n' ∈ text) :
    ∃ before run behind, text = before ++ run ++ behind ∧ FirstRun before run behind := by
  obtain ⟨front, rest, rfl, unbroken⟩ := List.eq_append_cons_of_mem broken
  refine ⟨front.rdropWhile isBlank,
    front.rtakeWhile isBlank ++ '\n' :: rest.takeWhile isBlank, rest.dropWhile isBlank, ?_, ?_⟩
  · simp only [List.append_assoc, List.cons_append, List.takeWhile_append_dropWhile]
    rw [← List.append_assoc, List.rdropWhile_append_rtakeWhile]
  · refine ⟨fun member => unbroken ((List.rdropWhile_prefix _ _).subset member),
      endsSolid_rdropWhile front, ?_, by simp, startsSolid_dropWhile rest⟩
    intro c member
    rcases List.mem_append.mp member with inside | inside
    · rw [List.rtakeWhile, List.mem_reverse] at inside
      exact isBlank_takeWhile _ c inside
    · rcases List.mem_cons.mp inside with rfl | later
      · rfl
      · exact isBlank_takeWhile rest c later

/-- A text is taken apart at its runs, one after another. -/
@[elab_as_elim]
theorem runs_induction {motive : List Char → Prop}
    (unbroken : ∀ text, '\n' ∉ text → motive text)
    (broken : ∀ before run behind, FirstRun before run behind → motive behind →
      motive (before ++ run ++ behind)) (text : List Char) : motive text := by
  induction length : text.length using Nat.strongRecOn generalizing text with
  | _ length ih =>
      subst length
      by_cases breaks : '\n' ∈ text
      · obtain ⟨before, run, behind, rfl, first⟩ := exists_firstRun breaks
        have some := List.length_pos_of_mem first.breaks
        exact broken before run behind first (ih _ (by simp only [List.length_append]; omega) _ rfl)
      · exact unbroken text breaks

section Settling

variable {text rest : List Char}

theorem settleRun_of_breaks {run : List Char} (breaks : '\n' ∈ run) : settleRun run = ['\n'] := by
  rw [settleRun, if_pos (List.contains_iff_mem.mpr breaks)]

theorem settleRun_of_unbroken {run : List Char} (unbroken : '\n' ∉ run) : settleRun run = run := by
  rw [settleRun, if_neg (mt List.contains_iff_mem.mp unbroken)]

/-- White space waits until its run is over. -/
theorem settleRuns_blank {run : List Char} (blank : IsBlank run) (reversed rest : List Char) :
    settleRuns reversed (run ++ rest) = settleRuns (run.reverse ++ reversed) rest := by
  induction run generalizing reversed with
  | nil => rfl
  | cons c run ih =>
      obtain ⟨here, later⟩ := List.forall_mem_cons.mp blank
      rw [List.cons_append, settleRuns, if_pos here, ih later, List.reverse_cons, List.append_assoc,
        List.singleton_append]

theorem settleRuns_starts (starts : StartsSolid rest) (reversed : List Char) :
    settleRuns reversed rest = settleRun reversed.reverse ++ settleRuns [] rest := by
  cases rest with
  | nil => exact (List.append_nil _).symm
  | cons c rest =>
      have solid : isBlank c = false := starts c rfl
      rw [settleRuns, settleRuns, solid, if_neg Bool.false_ne_true, if_neg Bool.false_ne_true]
      rfl

/-- Without a line break nothing is changed. -/
theorem settleRuns_unbroken (unbroken : '\n' ∉ text) {reversed : List Char}
    (waiting : '\n' ∉ reversed) : settleRuns reversed text = reversed.reverse ++ text := by
  induction text generalizing reversed with
  | nil =>
      rw [settleRuns, settleRun_of_unbroken (mt List.mem_reverse.mp waiting), List.append_nil]
  | cons c text ih =>
      obtain ⟨other, later⟩ := not_or.mp (mt List.mem_cons.mpr unbroken)
      rw [settleRuns]
      split
      · have waiting' : '\n' ∉ c :: reversed := by
          rw [List.mem_cons, not_or]
          exact ⟨other, waiting⟩
        rw [ih later waiting', List.reverse_cons, List.append_assoc, List.singleton_append]
      · rw [settleRun_of_unbroken (mt List.mem_reverse.mp waiting), ih later List.not_mem_nil]
        rfl

/-- What ends with another character than white space is settled on its own. -/
theorem settleRuns_ends (unbroken : '\n' ∉ text) (ends : EndsSolid text) (rest : List Char)
    {reversed : List Char} (waiting : '\n' ∉ reversed) (empty : text = [] → reversed = []) :
    settleRuns reversed (text ++ rest) = reversed.reverse ++ text ++ settleRuns [] rest := by
  induction text generalizing reversed with
  | nil =>
      rw [empty rfl]
      rfl
  | cons c text ih =>
      obtain ⟨other, later⟩ := not_or.mp (mt List.mem_cons.mpr unbroken)
      have ends' : EndsSolid text := by
        intro d last
        refine ends d ?_
        rw [List.getLast?_cons, Option.mem_def.mp last]
        rfl
      rw [List.cons_append, settleRuns]
      split
      next blank =>
        have some : text ≠ [] := by
          rintro rfl
          exact Bool.false_ne_true ((ends c rfl).symm.trans blank)
        have waiting' : '\n' ∉ c :: reversed := by
          rw [List.mem_cons, not_or]
          exact ⟨other, waiting⟩
        rw [ih later ends' waiting' fun none => absurd none some]
        simp
      next =>
        rw [settleRun_of_unbroken (mt List.mem_reverse.mp waiting),
          ih later ends' List.not_mem_nil fun _ => rfl]
        simp

/-- The first run becomes a line break. -/
theorem FirstRun.settleRuns {before run behind : List Char} (first : FirstRun before run behind) :
    settleRuns [] (before ++ run ++ behind) = before ++ '\n' :: Text.settleRuns [] behind := by
  rw [List.append_assoc, settleRuns_ends first.unbroken first.ends _ List.not_mem_nil fun _ => rfl,
    settleRuns_blank first.blank, settleRuns_starts first.starts, List.append_nil,
    List.reverse_reverse, settleRun_of_breaks first.breaks]
  rfl

end Settling

/-- Behind what was passed, the first run is the longest of the leftmost parts that match. -/
theorem FirstRun.matches_next (passed : List Char) {before run behind : List Char}
    (first : FirstRun before run behind) :
    let text := passed ++ (before ++ run ++ behind)
    let start := passed.length + before.length
    lineBreaks.Matches text start (start + run.length) ∧
      (∀ first' last', passed.length ≤ first' → lineBreaks.Matches text first' last' →
        start ≤ first') ∧
      ∀ last', lineBreaks.Matches text start last' → last' ≤ start + run.length := by
  intro text start
  have inBefore : ∀ index, index < before.length →
      text[passed.length + index]? = before[index]? := by
    intro index inside
    rw [List.getElem?_append_right (by omega), List.append_assoc, Nat.add_sub_cancel_left,
      List.getElem?_append_left inside]
  have inRun : ∀ index, index < run.length → text[start + index]? = run[index]? := by
    intro index inside
    rw [List.getElem?_append_right (by omega), List.append_assoc,
      List.getElem?_append_right (by omega), List.getElem?_append_left (by omega)]
    congr 1
    omega
  have atEnd : text[start + run.length]? = behind.head? := by
    rw [List.getElem?_append_right (by omega), List.append_assoc,
      List.getElem?_append_right (by omega), List.getElem?_append_right (by omega),
      List.head?_eq_getElem?]
    congr 1
    omega
  refine ⟨matches_lineBreaks.mpr ⟨?_, fun place above below => ?_⟩,
    fun first' last' above found => ?_, fun last' found => ?_⟩
  · obtain ⟨index, inside, here⟩ := List.getElem_of_mem first.breaks
    exact ⟨start + index, by omega, by omega,
      by rw [inRun index inside, List.getElem?_eq_getElem inside, here]⟩
  · obtain ⟨index, rfl⟩ := Nat.exists_eq_add_of_le above
    have inside : index < run.length := by omega
    exact ⟨_, by rw [inRun index inside, List.getElem?_eq_getElem inside],
      first.blank _ (List.getElem_mem inside)⟩
  · by_contra early
    obtain ⟨⟨middle, low, high, breaks⟩, blank⟩ := matches_lineBreaks.mp found
    rcases Nat.lt_or_ge middle start with left | right
    · obtain ⟨index, rfl⟩ := Nat.exists_eq_add_of_le (above.trans low)
      rw [inBefore index (by omega)] at breaks
      exact first.unbroken (List.mem_of_getElem? breaks)
    · -- The match goes over the last character in front of the run.
      have some : 0 < before.length := by omega
      obtain ⟨c, here, white⟩ := blank (passed.length + (before.length - 1)) (by omega) (by omega)
      rw [inBefore _ (by omega), ← List.getLast?_eq_getElem?] at here
      exact Bool.false_ne_true ((first.ends c here).symm.trans white)
  · by_contra late
    obtain ⟨_, blank⟩ := matches_lineBreaks.mp found
    obtain ⟨c, here, white⟩ := blank (start + run.length) (by omega) (by omega)
    rw [atEnd] at here
    exact Bool.false_ne_true ((first.starts c here).symm.trans white)

/-- Settling the runs of a text replaces the parts that match. -/
theorem replaces_settleRuns (passed text : List Char) :
    lineBreaks.Replaces (passed ++ text) ['\n'] passed.length (settleRuns [] text) := by
  induction text using runs_induction generalizing passed with
  | unbroken text unbroken =>
      have rest : (passed ++ text).drop passed.length = settleRuns [] text := by
        rw [List.drop_left, settleRuns_unbroken unbroken List.not_mem_nil]
        rfl
      rw [← rest]
      refine .rest fun first last above found => unbroken ?_
      obtain ⟨⟨place, low, _, breaks⟩, _⟩ := matches_lineBreaks.mp found
      rw [List.getElem?_append_right (above.trans low)] at breaks
      exact List.mem_of_getElem? breaks
  | broken before run behind first ih =>
      obtain ⟨found, leftmost, longest⟩ := first.matches_next passed
      have others := ih (passed ++ before ++ run)
      have same : passed ++ before ++ run ++ behind = passed ++ (before ++ run ++ behind) := by
        simp only [List.append_assoc]
      rw [same, List.length_append, List.length_append] at others
      have next := Matcher.Replaces.next (Nat.le_add_right _ _) found leftmost longest others
      rw [List.drop_left, Nat.add_sub_cancel_left, List.append_assoc before, List.take_left] at next
      rw [first.settleRuns]
      simpa using next

end Runs

section Trimming

theorem trimChars_eq (text : List Char) :
    trimChars text = (text.dropWhile isBlank).rdropWhile isBlank := rfl

theorem startsSolid_of_prefix {text front : List Char} (solid : StartsSolid text)
    (start : front <+: text) : StartsSolid front := by
  intro c here
  obtain ⟨rest, rfl⟩ := start
  exact solid c (by rw [List.head?_append, Option.mem_def.mp here]; rfl)

theorem endsSolid_of_suffix {text back : List Char} (solid : EndsSolid text)
    (stop : back <:+ text) : EndsSolid back := by
  intro c here
  obtain ⟨rest, rfl⟩ := stop
  exact solid c (by rw [List.getLast?_append, Option.mem_def.mp here]; rfl)

theorem startsSolid_trimChars (text : List Char) : StartsSolid (trimChars text) :=
  startsSolid_of_prefix (startsSolid_dropWhile text) (List.rdropWhile_prefix _ _)

theorem endsSolid_trimChars (text : List Char) : EndsSolid (trimChars text) :=
  endsSolid_rdropWhile _

theorem dropWhile_of_startsSolid {text : List Char} (starts : StartsSolid text) :
    text.dropWhile isBlank = text := by
  cases text with
  | nil => rfl
  | cons c rest => rw [List.dropWhile_cons_of_neg (by simp [starts c rfl])]

theorem rdropWhile_of_endsSolid {text : List Char} (ends : EndsSolid text) :
    text.rdropWhile isBlank = text := by
  have starts : StartsSolid text.reverse := by
    intro c start
    rw [List.head?_reverse] at start
    exact ends c start
  rw [List.rdropWhile, dropWhile_of_startsSolid starts, List.reverse_reverse]

theorem dropWhile_append_of_endsSolid {front : List Char} (some : front ≠ [])
    (ends : EndsSolid front) (rest : List Char) :
    (front ++ rest).dropWhile isBlank = front.dropWhile isBlank ++ rest := by
  have kept : front.dropWhile isBlank ≠ [] := by
    intro none
    have blank := List.dropWhile_eq_nil_iff.mp none (front.getLast some) (List.getLast_mem some)
    exact Bool.false_ne_true
      ((ends _ (List.getLast?_eq_some_getLast some)).symm.trans blank)
  rw [List.dropWhile_append, if_neg (by simpa using kept)]

theorem rdropWhile_append_of_startsSolid {rest : List Char} (some : rest ≠ [])
    (starts : StartsSolid rest) (front : List Char) :
    (front ++ rest).rdropWhile isBlank = front ++ rest.rdropWhile isBlank := by
  have ends : EndsSolid rest.reverse := by
    intro c last
    rw [List.getLast?_reverse] at last
    exact starts c last
  rw [List.rdropWhile, List.reverse_append,
    dropWhile_append_of_endsSolid (by simpa using some) ends, List.reverse_append,
    List.reverse_reverse]
  rfl

/-- What is trimmed is the white space around. -/
theorem trimChars_around {front core back : List Char} (left : IsBlank front) (right : IsBlank back)
    (starts : StartsSolid core) (ends : EndsSolid core) :
    trimChars (front ++ core ++ back) = core := by
  have back' : back.rdropWhile isBlank = [] := List.rdropWhile_eq_nil_iff.mpr right
  rw [trimChars_eq, List.append_assoc, List.dropWhile_append_of_pos left]
  by_cases some : core = []
  · subst some
    rw [List.nil_append, List.dropWhile_eq_nil_iff.mpr right]
    rfl
  · rw [dropWhile_append_of_endsSolid some ends, dropWhile_of_startsSolid starts, List.rdropWhile,
      List.reverse_append, List.dropWhile_append_of_pos fun c member =>
        right c (List.mem_reverse.mp member)]
    exact rdropWhile_of_endsSolid ends

theorem trimChars_of_solid {text : List Char} (starts : StartsSolid text) (ends : EndsSolid text) :
    trimChars text = text := by
  rw [trimChars_eq, dropWhile_of_startsSolid starts, rdropWhile_of_endsSolid ends]

/-- A text is its trimmed core with white space around it. -/
theorem exists_around (text : List Char) :
    ∃ front back, text = front ++ trimChars text ++ back ∧ IsBlank front ∧ IsBlank back := by
  refine ⟨text.takeWhile isBlank, (text.dropWhile isBlank).rtakeWhile isBlank, ?_,
    isBlank_takeWhile text, ?_⟩
  · rw [List.append_assoc, trimChars_eq, List.rdropWhile_append_rtakeWhile,
      List.takeWhile_append_dropWhile]
  · intro c member
    rw [List.rtakeWhile, List.mem_reverse] at member
    exact isBlank_takeWhile _ c member

theorem IsBlank.append {front back : List Char} (left : IsBlank front) (right : IsBlank back) :
    IsBlank (front ++ back) := by
  intro c member
  rcases List.mem_append.mp member with inside | inside
  · exact left c inside
  · exact right c inside

theorem isBlank_of_trimChars {text : List Char} (empty : trimChars text = []) : IsBlank text := by
  obtain ⟨front, back, split, left, right⟩ := exists_around text
  rw [split, empty, List.append_nil]
  exact left.append right

theorem trimChars_ne_nil {text : List Char} {c : Char} (member : c ∈ text)
    (solid : isBlank c = false) : trimChars text ≠ [] :=
  fun empty => Bool.false_ne_true (solid.symm.trans (isBlank_of_trimChars empty c member))

theorem trimChars_blank {run : List Char} (blank : IsBlank run) (text : List Char) :
    trimChars (run ++ text) = trimChars text := by
  rw [trimChars_eq, List.dropWhile_append_of_pos blank, trimChars_eq]

theorem trimChars_behind (text : List Char) {run : List Char} (blank : IsBlank run) :
    trimChars (text ++ run) = trimChars text := by
  obtain ⟨front, back, split, left, right⟩ := exists_around text
  conv_lhs => rw [split, List.append_assoc]
  exact trimChars_around left (right.append blank) (startsSolid_trimChars text)
    (endsSolid_trimChars text)

/-- What stands between two characters other than white space is not trimmed. -/
theorem trimChars_between {before behind : List Char} (some : before ≠ []) (some' : behind ≠ [])
    (ends : EndsSolid before) (starts : StartsSolid behind) (middle : List Char) :
    trimChars (before ++ middle ++ behind) = trimChars before ++ middle ++ trimChars behind := by
  rw [trimChars_eq, List.append_assoc, dropWhile_append_of_endsSolid some ends, ← List.append_assoc,
    rdropWhile_append_of_startsSolid some' starts, trimChars_eq, trimChars_eq,
    dropWhile_of_startsSolid starts,
    rdropWhile_of_endsSolid (endsSolid_of_suffix ends (List.dropWhile_suffix _))]

end Trimming

section Lines

variable {text : List Char}

theorem solidLines_unbroken (unbroken : '\n' ∉ text) :
    solidLines text = if trimChars text = [] then [] else [trimChars text] := by
  rw [solidLines, List.splitOn_eq_singleton unbroken, List.map_singleton]
  split
  next none => simp [none]
  next some => simp [some]

theorem solidLines_break (first second : List Char) :
    solidLines (first ++ '\n' :: second) = solidLines first ++ solidLines second := by
  rw [solidLines, List.splitOn_append_cons_self, List.map_append, List.filter_append]
  rfl

/-- White space in front of a text makes no line of its own. -/
theorem solidLines_blank {run : List Char} (blank : IsBlank run) (text : List Char) :
    solidLines (run ++ text) = solidLines text := by
  induction run with
  | nil => rfl
  | cons c run ih =>
      obtain ⟨here, later⟩ := List.forall_mem_cons.mp blank
      rw [← ih later]
      by_cases breaks : c = '\n'
      · subst breaks
        exact solidLines_break [] (run ++ text)
      · obtain ⟨line, lines, split⟩ := List.exists_cons_of_ne_nil
          (List.splitOn_ne_nil '\n' (run ++ text))
        have joined : trimChars (c :: line) = trimChars line :=
          @trimChars_blank [c] (by simpa [IsBlank] using here) line
        rw [solidLines, solidLines, List.cons_append, List.splitOn_cons_eq_if_modifyHead,
          if_neg (by simpa using breaks), split, List.modifyHead_cons, List.map_cons, List.map_cons,
          joined]

/-- The first run parts the lines in front of it from those behind it. -/
theorem FirstRun.solidLines {before run behind : List Char} (first : FirstRun before run behind) :
    solidLines (before ++ run ++ behind) =
      Text.solidLines before ++ Text.solidLines behind := by
  obtain ⟨front, back, rfl, unbroken⟩ := List.eq_append_cons_of_mem first.breaks
  have left : IsBlank front := fun c member => first.blank c (by simp [member])
  have right : IsBlank back := fun c member => first.blank c (by simp [member])
  have split : before ++ (front ++ '\n' :: back) ++ behind =
      (before ++ front) ++ '\n' :: (back ++ behind) := by
    simp only [List.append_assoc, List.cons_append]
  have unbroken' : '\n' ∉ before ++ front := by
    rw [List.mem_append, not_or]
    exact ⟨first.unbroken, unbroken⟩
  rw [split, solidLines_break, solidLines_blank right, solidLines_unbroken unbroken',
    solidLines_unbroken first.unbroken, trimChars_behind before left]

/-- Solid lines are lines that trimming leaves as they are. -/
theorem solid_of_mem {line : List Char} (member : line ∈ solidLines text) :
    '\n' ∉ line ∧ line ≠ [] ∧ StartsSolid line ∧ EndsSolid line := by
  have unbroken : ∀ {text : List Char}, '\n' ∉ text → line ∈ solidLines text →
      '\n' ∉ line ∧ line ≠ [] ∧ StartsSolid line ∧ EndsSolid line := by
    intro text unbroken member
    rw [solidLines_unbroken unbroken] at member
    split at member
    · cases member
    next some =>
      obtain rfl := List.mem_singleton.mp member
      obtain ⟨front, back, split, _, _⟩ := exists_around text
      refine ⟨fun inside => unbroken ?_, some, startsSolid_trimChars text, endsSolid_trimChars text⟩
      rw [split]
      simp [inside]
  induction text using runs_induction with
  | unbroken text plain => exact unbroken plain member
  | broken before run behind first ih =>
      rw [first.solidLines] at member
      rcases List.mem_append.mp member with here | later
      · exact unbroken first.unbroken here
      · exact ih later

/-- Lines that are solid are the solid lines of the text that they make up. -/
theorem solidLines_intercalate {lines : List (List Char)}
    (solid : ∀ line ∈ lines, '\n' ∉ line ∧ line ≠ [] ∧ StartsSolid line ∧ EndsSolid line) :
    solidLines (['\n'].intercalate lines) = lines := by
  by_cases none : lines = []
  · subst none
    rfl
  · rw [solidLines, List.splitOn_intercalate '\n' (fun line member => (solid line member).1) none]
    have trimmed : lines.map trimChars = lines := by
      conv_rhs => rw [← List.map_id lines]
      refine List.map_congr_left fun line member => ?_
      obtain ⟨_, _, starts, ends⟩ := solid line member
      exact trimChars_of_solid starts ends
    rw [trimmed, List.filter_eq_self]
    intro line member
    simpa using (solid line member).2.1

theorem settleRuns_starts_solid {rest : List Char} (some : rest ≠ []) (starts : StartsSolid rest) :
    settleRuns [] rest ≠ [] ∧ StartsSolid (settleRuns [] rest) := by
  cases rest with
  | nil => exact absurd rfl some
  | cons c rest =>
      have solid : isBlank c = false := starts c rfl
      rw [settleRuns, if_neg (by simp [solid])]
      exact ⟨by simp [settleRun], starts⟩

/-- A settled text, trimmed, is made of the solid lines. -/
theorem trimChars_settleRuns (text : List Char) :
    trimChars (settleRuns [] text) = ['\n'].intercalate (solidLines text) := by
  induction text using runs_induction with
  | unbroken text unbroken =>
      rw [settleRuns_unbroken unbroken List.not_mem_nil, solidLines_unbroken unbroken]
      split
      next none => exact none
      next => exact (List.intercalate_singleton ..).symm
  | broken before run behind first ih =>
      rw [first.settleRuns, first.solidLines]
      have newline : IsBlank ['\n'] := by simp [IsBlank, isBlank]
      by_cases alone : behind = []
      · subst alone
        rw [@solidLines_unbroken [] List.not_mem_nil, solidLines_unbroken first.unbroken]
        have trimmed : trimChars (before ++ '\n' :: settleRuns [] []) = trimChars before :=
          trimChars_behind before newline
        rw [trimmed]
        split
        next none => exact none
        next => exact (List.intercalate_singleton ..).symm
      · obtain ⟨some, starts⟩ := settleRuns_starts_solid alone first.starts
        by_cases none : before = []
        · subst none
          rw [@solidLines_unbroken [] List.not_mem_nil]
          exact (trimChars_blank newline _).trans ih
        · have lines : solidLines behind ≠ [] := by
            intro empty
            rw [empty] at ih
            obtain ⟨c, rest, split⟩ := List.exists_cons_of_ne_nil some
            exact trimChars_ne_nil (by simp [split]) (starts c (by rw [split]; rfl)) ih
          have trimmed : trimChars before ≠ [] :=
            trimChars_ne_nil (List.getLast_mem none)
              (first.ends _ (List.getLast?_eq_some_getLast none))
          rw [solidLines_unbroken first.unbroken, if_neg trimmed, List.singleton_append,
            List.intercalate_cons_of_ne_nil lines, ← ih]
          simpa using trimChars_between none some first.ends starts ['\n']

theorem IsBlank.filter_eq_nil {run : List Char} (blank : IsBlank run) :
    run.filter (!isBlank ·) = [] := by
  rw [List.filter_eq_nil_iff]
  intro c member
  simp [blank c member]

/-- Apart from white space nothing is lost. -/
theorem filter_trimChars (text : List Char) :
    (trimChars text).filter (!isBlank ·) = text.filter (!isBlank ·) := by
  obtain ⟨front, back, split, left, right⟩ := exists_around text
  conv_rhs =>
    rw [split, List.filter_append, List.filter_append, left.filter_eq_nil, right.filter_eq_nil]
  rw [List.nil_append, List.append_nil]

theorem filter_settleRuns (text : List Char) :
    (settleRuns [] text).filter (!isBlank ·) = text.filter (!isBlank ·) := by
  induction text using runs_induction with
  | unbroken text unbroken => rw [settleRuns_unbroken unbroken List.not_mem_nil]; rfl
  | broken before run behind first ih =>
      rw [first.settleRuns, List.filter_append, List.filter_append, List.filter_append,
        first.blank.filter_eq_nil, List.append_nil, ← ih]
      rfl

end Lines

theorem toList_removeIndentation (text : String) :
    (removeIndentation text).toList = ['\n'].intercalate (solidLines text.toList) := by
  rw [removeIndentation, String.toList_ofList, trimChars_settleRuns]

/-- A text without indentation has the solid lines of the text. -/
theorem solidLines_removeIndentation (text : String) :
    solidLines (removeIndentation text).toList = solidLines text.toList := by
  rw [toList_removeIndentation]
  exact solidLines_intercalate fun line member => solid_of_mem member

structure IsUnindented (text : String) : Prop where
  /-- The longest parts that match are replaced, from the left, and the rest is trimmed. -/
  replaced : ∃ replaced,
    (∀ other, lineBreaks.Replaces text.toList ['\n'] 0 other ↔ other = replaced) ∧
      removeIndentation text = String.ofList (trimChars replaced)
  joined : removeIndentation text = String.ofList (['\n'].intercalate (solidLines text.toList))
  again : removeIndentation (removeIndentation text) = removeIndentation text
  filtered : (removeIndentation text).toList.filter (!isBlank ·) = text.toList.filter (!isBlank ·)
  kept : ∀ front core back, front ++ core ++ back ∈ text.toList.splitOn '\n' →
    IsBlank front → IsBlank back → core ≠ [] → StartsSolid core → EndsSolid core →
      core ∈ (removeIndentation text).toList.splitOn '\n'
  same : ∀ other, removeIndentation other = removeIndentation text ↔
    solidLines other.toList = solidLines text.toList

/-- Removing the indentation replaces, from the left, the longest parts that match `\s*\n\s*` by
line breaks and trims what comes of it, and that joins the trimmed lines that are not empty.  A
second time it changes nothing; it keeps all that is no white space, and the white space inside of
lines; and the texts that become one are those with the same trimmed lines. -/
theorem removeIndentation_lines (text : String) :
    (Tree.ofText "\\s*\\n\\s*").bind Matcher.ofTree = .ok lineBreaks ∧ IsUnindented text := by
  have joined : ∀ text, removeIndentation text =
      String.ofList (['\n'].intercalate (solidLines text.toList)) := by
    intro text
    rw [← toList_removeIndentation, String.ofList_toList]
  refine ⟨ofText_lineBreaks, ?_⟩
  constructor
  case replaced =>
    have replaced := replaces_settleRuns [] text.toList
    refine ⟨settleRuns [] text.toList, fun other => ⟨fun same => same.unique replaced, ?_⟩, rfl⟩
    rintro rfl
    exact replaced
  case joined => exact joined text
  case again => rw [joined (removeIndentation text), solidLines_removeIndentation, ← joined]
  case filtered =>
    rw [removeIndentation, String.toList_ofList, filter_trimChars, filter_settleRuns]
  case kept =>
    intro front core back line left right some starts ends
    have member : core ∈ solidLines text.toList := by
      rw [solidLines, List.mem_filter, List.mem_map]
      exact ⟨⟨_, line, trimChars_around left right starts ends⟩, by simpa using some⟩
    rw [toList_removeIndentation, List.splitOn_intercalate '\n'
      (fun line inside => (solid_of_mem inside).1) (List.ne_nil_of_mem member)]
    exact member
  case same =>
    intro other
    constructor
    · intro same
      rw [← solidLines_removeIndentation, same, solidLines_removeIndentation]
    · intro same
      rw [joined other, joined text, same]

/-- The lines of a class. -/
example : removeIndentation "\n  class A \x7b\n\n      static a = 1;\n  \x7d\n" =
    "class A \x7b\nstatic a = 1;\n\x7d" := by
  decide +kernel

end StyleInline.Text

import Mathlib.Data.List.TakeWhile
import StyleInline.Proofs.Expansion
import StyleInline.Proofs.Memory

/-!
# Literal prefixes of patterns

Up to its first character with a meaning, a pattern is walked through octet by octet along with the
path.  So what it accepts starts in the same way, a pattern of literals accepts its own text, and
the name of a directory is kept as long as it is made of literals.
-/

namespace StyleInline

open Glob Location

namespace Glob

-- The characters of the list are tried, not those of the whole type.
instance decidableForall (chars : List Char) (p : Char → Prop) [DecidablePred p] :
    Decidable (∀ c ∈ chars, p c) :=
  List.decidableBAll p chars

/-- A character that does not stand for itself, outside of sets and braces. -/
def IsMeta (c : Char) : Prop := c ∈ ['*', '?', '[', '{', '\\']

instance : DecidablePred IsMeta := fun c => inferInstanceAs (Decidable (c ∈ _))

theorem IsMeta.isShort {c : Char} (special : IsMeta c) : IsShort c := by
  have all : ∀ c ∈ ['*', '?', '[', '{', '\\'], IsShort c := by decide
  exact all c special

namespace Braces

/-- An octet that stands for itself, outside of sets and braces. -/
def StandsForItself (b : UInt8) : Prop := ∀ c, IsMeta c → b ≠ octet c

/-- The place behind as many octets of the path as of the pattern, without a star on the way. -/
def level (index : Nat) : Spot := { path := index, glob := index }

section Fronts

variable {glob path : Octets} {index fuel : Nat} {b : UInt8} {front rest : List UInt8}

theorem goBack?_level (glob path : Octets) (index : Nat) :
    goBack? glob path { spot := level index } = .ok none := by
  rw [goBack?_open]
  rfl

/-- A literal takes the same octet of the path, or the walk ends. -/
theorem run_literal (literal : StandsForItself b) (spelled : from_ glob index = b :: rest) :
    run glob path false (fuel + 1) { spot := level index } = true ↔
      ∃ more, from_ path index = b :: more ∧
        run glob path false fuel { spot := level (index + 1) } = true := by
  have inside : ¬ glob.size ≤ (level index).glob := not_le.mpr (lt_size_of_from_ spelled)
  have found : glob[(level index).glob]? = some b := by
    rw [getElem?_from_]
    exact congrArg List.head? spelled
  have plain : b ≠ mark := literal '?' (by decide)
  have starless : b ≠ star := literal '*' (by decide)
  have next : path[(level index).path]? = (from_ path index).head? := getElem?_from_ path index
  rw [run, if_neg (by simp [inside])]
  unfold step
  dsimp only
  rw [found, next]
  dsimp only
  rw [if_neg (by simpa using starless)]
  cases from_ path index with
  | nil =>
      rw [List.head?_nil, step.stepPlain]
      dsimp only
      rw [goBack?_level]
      simp
  | cons c more =>
      rw [List.head?_cons, stepPlain_open found
        ⟨literal '[' (by decide), literal '{' (by decide), literal '\\' (by decide)⟩]
      have takes : Takes b c ↔ b = c := by
        unfold Takes
        rw [if_neg plain]
      by_cases same : b = c
      · subst same
        have taken : (level index).taken b = level (index + 1) := by
          unfold Spot.taken level
          split <;> rfl
        simp [takes, taken]
      · rw [if_neg (mt takes.mp same)]
        dsimp only
        rw [goBack?_level]
        simp [Ne.symm same]

/-- A front of literals is taken as it is, or the walk ends. -/
theorem run_front (literal : ∀ b ∈ front, StandsForItself b)
    (spelled : from_ glob index = front ++ rest) :
    run glob path false (fuel + front.length) { spot := level index } = true ↔
      ∃ more, from_ path index = front ++ more ∧
        run glob path false fuel { spot := level (index + front.length) } = true := by
  induction front generalizing index with
  | nil => simp
  | cons b front ih =>
      have later : from_ glob (index + 1) = front ++ rest := from_succ spelled
      rw [List.length_cons, ← Nat.add_assoc, run_literal (literal b (by simp)) spelled,
        ih (fun b member => literal b (by simp [member])) later, Nat.add_right_comm index]
      constructor
      · rintro ⟨more, here, behind, there, accepted⟩
        rw [from_succ here] at there
        exact ⟨behind, by rw [here, there, List.cons_append], accepted⟩
      · rintro ⟨more, here, accepted⟩
        exact ⟨front ++ more, here, more, from_succ here, accepted⟩

theorem run_ended (ended : from_ glob index = []) :
    run glob path false (fuel + 1) { spot := level index } = true ↔ from_ path index = [] := by
  have glob_le : glob.size ≤ (level index).glob := from_eq_nil_iff.mp ended
  have none : glob[(level index).glob]? = none := by
    rw [getElem?_from_]
    exact congrArg List.head? ended
  rw [run, from_eq_nil_iff]
  by_cases path_le : path.size ≤ index
  · have here : path.size ≤ (level index).path := path_le
    simp [glob_le, here, path_le]
  · have here : ¬ path.size ≤ (level index).path := path_le
    rw [if_neg (by simp [here])]
    unfold step
    dsimp only
    rw [none]
    dsimp only
    rw [goBack?_level]
    simp [path_le]

end Fronts

section Sets

variable {glob path : Octets} {index fuel : Nat} {front rest : List UInt8}

/-- Octets of a set that is read without ranges, escapes and brackets. -/
def IsMember (b : UInt8) : Prop := ∀ c ∈ ['[', '-', '\\', '^', '!'], b ≠ octet c

theorem not_isAt {c : Char} (other : ∀ b ∈ from_ glob index, b ≠ octet c) :
    isAt glob index c = false := by
  rw [Bool.eq_false_iff, Ne, isAt_iff]
  rintro ⟨rest, spelled⟩
  exact other _ (by simp [spelled]) rfl

theorem mem_from_add {b : UInt8} {more : Nat} (member : b ∈ from_ glob (index + more)) :
    b ∈ from_ glob index := by
  unfold from_ at member ⊢
  rw [← List.drop_drop] at member
  exact List.mem_of_mem_drop member

/-- A set without brackets does not hold a bracket. -/
theorem readSet_members {isFirst : Bool} (members : ∀ b ∈ from_ glob index, IsMember b) :
    ∀ result ∈ readSet glob (octet '[') fuel isFirst false index, result.1 = false := by
  induction fuel generalizing isFirst index with
  | zero =>
      intro result read
      cases read
  | succ fuel ih =>
      intro result read
      have unescaped : isAt glob index '\\' = false :=
        not_isAt fun b member => members b member '\\' (by decide)
      have later : ∀ b ∈ from_ glob (index + 1), IsMember b :=
        fun b member => members b (mem_from_add member)
      have ranges : isAt glob (index + 1) '-' = false :=
        not_isAt fun b member => later b member '-' (by decide)
      rw [readSet] at read
      cases here : from_ glob index with
      | nil =>
          rw [if_pos (from_eq_nil_iff.mp here)] at read
          cases read
      | cons b rest =>
          rw [if_neg (not_le.mpr (lt_size_of_from_ here))] at read
          split at read
          · cases read
            rfl
          · have other : b ≠ octet '[' := members b (by simp [here]) '[' (by decide)
            have found : glob[index]? = some b := by rw [getElem?_from_, here, List.head?_cons]
            rw [literal?, unescaped, found] at read
            simp only [Bool.false_eq_true, if_false, Option.map_some, ranges, Bool.false_and,
              Bool.false_or] at read
            rw [beq_eq_false_iff_ne.mpr other] at read
            exact ih later result read

/-- Behind literals, a set without brackets does not take the bracket that it starts with. -/
theorem run_set (members : ∀ b ∈ rest, IsMember b) (spelled : from_ glob index = octet '[' :: rest)
    {more : List UInt8} (spelled' : from_ path index = octet '[' :: more) :
    run glob path false fuel { spot := level index } = false := by
  cases fuel with
  | zero => rfl
  | succ fuel =>
      have inside : ¬ glob.size ≤ (level index).glob := not_le.mpr (lt_size_of_from_ spelled)
      have found : glob[(level index).glob]? = some (octet '[') := by
        rw [getElem?_from_]
        exact congrArg List.head? spelled
      have next : path[(level index).path]? = some (octet '[') := by
        rw [getElem?_from_]
        exact congrArg List.head? spelled'
      have members' : ∀ b ∈ from_ glob (index + 1), IsMember b := by rwa [from_succ spelled]
      have plain : ∀ c ∈ ['^', '!'], isAt glob ((level index).glob + 1) c = false := by
        intro c member
        refine not_isAt fun b inside => members' b inside c ?_
        rcases List.mem_cons.mp member with rfl | last
        · decide
        · obtain rfl := List.mem_singleton.mp last
          decide
      rw [run, if_neg (by simp [inside])]
      unfold step
      dsimp only
      rw [found, next]
      dsimp only
      rw [if_neg (by decide), step.stepPlain]
      dsimp only
      rw [if_neg (by decide), if_pos (by decide), stepSet]
      dsimp only
      rw [plain '^' (by decide), plain '!' (by decide)]
      simp only [Bool.or_self, Bool.false_eq_true, if_false]
      cases read : readSet glob (octet '[') (glob.size + 1) true false ((level index).glob + 1) with
      | none => rfl
      | some result =>
          have absent : result.1 = false := readSet_members members' result read
          obtain ⟨_, last⟩ := result
          cases absent
          have back := goBack?_open glob path { level index with glob := last }
          simp only [bne_self_eq_false, Bool.false_eq_true, if_false]
          dsimp only at back ⊢
          rw [back]
          rfl

end Sets

theorem size_lt_stepLimit (glob path : Octets) : glob.size < stepLimit glob path := by
  unfold stepLimit
  have wide := Nat.le_mul_of_pos_right (glob.size + 2) (show 0 < path.size + 2 by omega)
  have square := Nat.le_mul_self ((glob.size + 2) * (path.size + 2))
  omega

end Braces

section Texts

variable {segments : List String} {path : String} {front rest : List Char}

theorem prefix_of_octets {chars : List Char} {more : List UInt8}
    (spelled : octets chars = octets front ++ more) :
    ∃ behind, chars = front ++ behind ∧ octets behind = more := by
  induction front generalizing chars with
  | nil => exact ⟨chars, rfl, spelled⟩
  | cons c front ih =>
      cases chars with
      | nil =>
          have none := List.append_eq_nil_iff.mp (List.append_eq_nil_iff.mp spelled.symm).1
          exact absurd none.1 String.utf8EncodeChar_ne_nil
      | cons d chars =>
          rw [octets_cons, octets_cons, List.append_assoc] at spelled
          obtain ⟨rfl, same⟩ := encoded_append spelled
          obtain ⟨behind, rfl, more⟩ := ih same
          exact ⟨behind, rfl, more⟩

theorem literal_octets (literal : ∀ c ∈ front, ¬ IsMeta c) :
    ∀ b ∈ octets front, Braces.StandsForItself b := by
  rintro b member c special rfl
  exact literal c ((octet_mem_octets special.isShort).mp member) special

/-- A pattern that starts with literals accepts what goes on behind the same front. -/
theorem accepts_front (valid : ∀ segment ∈ segments, IsName segment)
    (spelled : (Location.path ⟨true, segments⟩).text.toList = front ++ rest)
    (literal : ∀ c ∈ front, ¬ IsMeta c) :
    ∃ fuel, Braces.accepts (Location.path ⟨true, segments⟩).text path = true ↔
      ∃ behind, path.toList = front ++ behind ∧
        Braces.run (Location.path ⟨true, segments⟩).text.toUTF8.data path.toUTF8.data false
          (fuel + 1) { spot := Braces.level (octets front).length } = true := by
  have text : (Location.path ⟨true, segments⟩).text.toUTF8.data.toList =
      octets front ++ octets rest := by
    rw [toUTF8_eq, spelled, octets_append]
  have shorter : (octets front).length ≤
      (Location.path ⟨true, segments⟩).text.toUTF8.data.size := by
    rw [← Array.length_toList, text, List.length_append]
    omega
  obtain ⟨fuel, enough⟩ := Nat.exists_eq_add_of_lt (lt_of_le_of_lt shorter
    (Braces.size_lt_stepLimit (Location.path ⟨true, segments⟩).text.toUTF8.data path.toUTF8.data))
  refine ⟨fuel, ?_⟩
  rw [accepts_eq valid]
  dsimp only
  rw [enough, show (octets front).length + fuel + 1 = fuel + 1 + (octets front).length by omega]
  refine (@Braces.run_front _ _ 0 _ _ _ (literal_octets literal) text).trans ?_
  rw [Nat.zero_add]
  constructor
  · rintro ⟨more, here, accepted⟩
    have here' : octets path.toList = octets front ++ more := by rw [← toUTF8_eq]; exact here
    obtain ⟨behind, split, _⟩ := prefix_of_octets here'
    exact ⟨behind, split, accepted⟩
  · rintro ⟨behind, split, accepted⟩
    refine ⟨octets behind, ?_, accepted⟩
    have here : path.toUTF8.data.toList = octets front ++ octets behind := by
      rw [toUTF8_eq, split, octets_append]
    exact here

/-- A pattern of literals accepts its own text only. -/
theorem accepts_literal (valid : ∀ segment ∈ segments, IsName segment)
    (literal : ∀ c ∈ (Location.path ⟨true, segments⟩).text.toList, ¬ IsMeta c) :
    Braces.accepts (Location.path ⟨true, segments⟩).text path = true ↔
      path = (Location.path ⟨true, segments⟩).text := by
  have ended : ∀ text : String, Braces.from_ text.toUTF8.data (octets text.toList).length = [] := by
    intro text
    rw [Braces.from_eq_nil_iff, ← Array.length_toList, toUTF8_eq]
  obtain ⟨fuel, accepts⟩ := @accepts_front _ path _ _ valid (List.append_nil _).symm literal
  rw [accepts, Braces.run_ended (ended _)]
  constructor
  · rintro ⟨behind, split, last⟩
    rw [Braces.from_eq_nil_iff, ← Array.length_toList, toUTF8_eq, split, octets_append,
      List.length_append] at last
    have none : octets behind = [] := List.length_eq_zero_iff.mp (by omega)
    cases behind with
    | nil => rw [← String.toList_inj, split, List.append_nil]
    | cons c behind => exact absurd (List.append_eq_nil_iff.mp none).1 String.utf8EncodeChar_ne_nil
  · rintro rfl
    exact ⟨[], (List.append_nil _).symm, ended _⟩

/-- Where the first character with a meaning opens a set without brackets in it, the pattern does
not accept what goes on with that bracket. -/
theorem not_accepts_set (valid : ∀ segment ∈ segments, IsName segment)
    (spelled : (Location.path ⟨true, segments⟩).text.toList = front ++ '[' :: rest)
    (literal : ∀ c ∈ front, ¬ IsMeta c) (members : ∀ c ∈ ['[', '-', '\\', '^', '!'], c ∉ rest)
    {more : List Char} (spelled' : path.toList = front ++ '[' :: more) :
    Braces.accepts (Location.path ⟨true, segments⟩).text path = false := by
  rw [Bool.eq_false_iff]
  obtain ⟨fuel, accepts⟩ := @accepts_front _ path _ _ valid spelled literal
  rw [Ne, accepts]
  rintro ⟨behind, _, accepted⟩
  have behind_front : ∀ (text : String) (rest : List Char), text.toList = front ++ '[' :: rest →
      Braces.from_ text.toUTF8.data (octets front).length = Braces.octet '[' :: octets rest := by
    intro text rest split
    rw [Braces.from_, toUTF8_eq, split, octets_append, List.drop_left, octets_short (by decide)]
  have members' : ∀ b ∈ octets rest, Braces.IsMember b := by
    rintro b member c listed rfl
    have all : ∀ c ∈ ['[', '-', '\\', '^', '!'], IsShort c := by decide
    exact members c listed ((octet_mem_octets (all c listed)).mp member)
  rw [Braces.run_set members' (behind_front _ _ spelled) (behind_front _ _ spelled')] at accepted
  cases accepted

end Texts

end Glob


namespace Path

section Segments

variable {path base : Path}

theorem mem_of_segmentsOf {c : Char} {segment chars : List Char}
    (member : segment ∈ segmentsOf chars) (inside : c ∈ segment) : c ∈ chars := by
  induction chars generalizing segment with
  | nil => simp_all [segmentsOf]
  | cons d rest ih =>
      by_cases slash : d = '/'
      · subst slash
        rcases List.mem_cons.mp member with rfl | later
        · cases inside
        · exact List.mem_cons_of_mem _ (ih later inside)
      · obtain ⟨first, more, split, joined⟩ := segmentsOf_cons slash rest
        rw [joined] at member
        rw [split] at ih
        rcases List.mem_cons.mp member with rfl | later
        · rcases List.mem_cons.mp inside with rfl | inside
          · exact List.mem_cons_self
          · exact List.mem_cons_of_mem _ (ih List.mem_cons_self inside)
        · exact List.mem_cons_of_mem _ (ih (List.mem_cons_of_mem _ later) inside)

theorem componentOf_eq_name {leading : Bool} {segment : List Char} {text : String}
    (carried : componentOf leading segment = some (.name text)) : text.toList = segment := by
  unfold componentOf at carried
  split at carried
  · cases carried
  split at carried
  · split at carried <;> cases carried
  split at carried
  · cases carried
  · cases carried
    exact String.toList_ofList

/-- The names of a relative path are made of its characters. -/
theorem mem_of_name (relative : path.isAbsolute = false) {text : String}
    (member : .name text ∈ path.components) : ∀ c ∈ text.toList, c ∈ path.text.toList := by
  intro c inside
  obtain ⟨first, rest, segments, spelled⟩ :=
    componentsOf_relative (isAbsolute_eq_false_iff.mp relative)
  have carried : ∃ leading, ∃ segment ∈ segmentsOf path.text.toList,
      componentOf leading segment = some (.name text) := by
    rw [components, spelled] at member
    rw [segments]
    rcases List.mem_append.mp member with leading | later
    · exact ⟨true, first, List.mem_cons_self, Option.mem_toList.mp leading⟩
    · obtain ⟨segment, among, carried⟩ := List.mem_filterMap.mp later
      exact ⟨false, segment, List.mem_cons_of_mem _ among, carried⟩
  obtain ⟨leading, segment, among, carried⟩ := carried
  rw [componentOf_eq_name carried] at inside
  exact mem_of_segmentsOf among inside

theorem components_absolute (absolute : path.isAbsolute = true) :
    path.components = .root :: (segmentsOf path.text.toList).filterMap (componentOf false) := by
  obtain ⟨rest, split⟩ := isAbsolute_eq_true_iff.mp absolute
  rw [components, split]
  rfl

/-- A path whose text goes on behind that of another one lies below it. -/
theorem startsWith_of_toList (absolute : base.isAbsolute = true) {rest : List Char}
    (split : path.text.toList = base.text.toList ++ '/' :: rest) : path.startsWith base = true := by
  have absolute' : path.isAbsolute = true := by
    obtain ⟨more, first⟩ := isAbsolute_eq_true_iff.mp absolute
    exact isAbsolute_eq_true_iff.mpr ⟨_, by rw [split, first, List.cons_append]⟩
  rw [startsWith, List.isPrefixOf_iff_prefix, components_absolute absolute,
    components_absolute absolute', split, segmentsOf_append_any, List.filterMap_append,
    ← List.cons_append]
  exact List.prefix_append _ _

end Segments

end Path

namespace Location

/-- Components without a root and `..` lead to more names. -/
theorem follow_level {components : List Component} (level : .up ∉ components)
    (unrooted : .root ∉ components) (start : Location) :
    ∃ names, start.follow components = ⟨start.isRooted, start.names ++ names⟩ ∧
      ∀ name ∈ names, .name name ∈ components := by
  induction components generalizing start with
  | nil => exact ⟨[], by simp [follow], by simp⟩
  | cons component rest ih =>
      simp only [List.mem_cons, not_or] at level unrooted
      obtain ⟨names, led, among⟩ := ih level.2 unrooted.2 (start.step component)
      have here : start.follow (component :: rest) = (start.step component).follow rest := rfl
      cases component with
      | root => exact absurd rfl unrooted.1
      | up => exact absurd rfl level.1
      | here =>
          refine ⟨names, ?_, fun name member => List.mem_cons_of_mem _ (among name member)⟩
          rw [here, led]
          rfl
      | name text =>
          refine ⟨text :: names, ?_, ?_⟩
          · rw [here, led]
            simp [step]
          · intro name member
            rcases List.mem_cons.mp member with rfl | later
            · exact List.mem_cons_self
            · exact List.mem_cons_of_mem _ (among name later)

theorem toList_below {front behind : List String} (valid : IsValid ⟨true, front ++ behind⟩)
    (some : front ≠ []) :
    (path ⟨true, front ++ behind⟩).text.toList =
      (path ⟨true, front⟩).text.toList ++ Glob.spell behind := by
  have above : ∀ name ∈ front, IsName name := fun name member => valid name (by simp [member])
  rw [Glob.toList_path valid (by simp [some]), Glob.toList_path above some]
  exact List.flatMap_append


theorem mem_text_iff {names : List String} (valid : IsValid ⟨true, names⟩) {c : Char} :
    c ∈ (path ⟨true, names⟩).text.toList ↔ c = '/' ∨ ∃ name ∈ names, c ∈ name.toList := by
  by_cases none : names = []
  · subst none
    have root : (path ⟨true, []⟩).text.toList = ['/'] := by decide
    simp [root]
  obtain ⟨first, rest, rfl⟩ := List.exists_cons_of_ne_nil none
  rw [Glob.toList_path valid none, Glob.spell, List.mem_flatMap]
  constructor
  · rintro ⟨name, member, inside⟩
    rcases List.mem_cons.mp inside with slash | inside
    · exact .inl slash
    · exact .inr ⟨name, member, inside⟩
  · rintro (rfl | ⟨name, member, inside⟩)
    · exact ⟨first, List.mem_cons_self, List.mem_cons_self⟩
    · exact ⟨name, member, List.mem_cons_of_mem _ inside⟩

end Location

section Below

variable {above names : List String} {path : Path}

/-- What a pattern below a directory accepts starts as the directory does, up to the first character
with a meaning. -/
theorem literal_prefix_of_accepts (valid : IsValid ⟨true, above ++ names⟩)
    (accepted : Braces.accepts (Location.path ⟨true, above ++ names⟩).text path.text = true) :
    (Location.path ⟨true, above⟩).text.toList.takeWhile (fun c => ¬ IsMeta c) <+:
      path.text.toList := by
  have split : (Location.path ⟨true, above⟩).text.toList <+:
      (Location.path ⟨true, above ++ names⟩).text.toList := by
    by_cases none : above = []
    · subst none
      have rooted : (Location.path ⟨true, [] ++ names⟩).isAbsolute = true := isAbsolute_path valid
      obtain ⟨rest, first⟩ := Path.isAbsolute_eq_true_iff.mp rooted
      have root : (Location.path ⟨true, []⟩).text.toList = ['/'] := by decide
      exact ⟨rest, by rw [root, first]; rfl⟩
    · exact ⟨_, (toList_below valid none).symm⟩
  obtain ⟨rest, spelled⟩ := (List.takeWhile_prefix (fun c => decide (¬ IsMeta c))).trans split
  obtain ⟨fuel, accepts⟩ := accepts_front valid spelled.symm fun c member => by
    simpa using List.mem_takeWhile_imp member
  obtain ⟨behind, starts, _⟩ := accepts.mp accepted
  exact ⟨behind, starts.symm⟩

/-- What a pattern below a directory of literals accepts lies below the directory. -/
theorem startsWith_of_accepts (valid : IsValid ⟨true, above ++ names⟩)
    (literal : ∀ c ∈ (Location.path ⟨true, above⟩).text.toList, ¬ IsMeta c)
    (accepted : Braces.accepts (Location.path ⟨true, above ++ names⟩).text path.text = true) :
    path.startsWith (Location.path ⟨true, above⟩) = true := by
  have valid' : IsValid ⟨true, above⟩ := fun name member => valid name (by simp [member])
  have absolute : (Location.path ⟨true, above⟩).isAbsolute = true := isAbsolute_path valid'
  by_cases top : above = []
  · subst top
    have root : (Location.path ⟨true, []⟩).text.toList = ['/'] := by decide
    obtain ⟨rest, starts⟩ := literal_prefix_of_accepts valid accepted
    have absolute' : path.isAbsolute = true :=
      Path.isAbsolute_eq_true_iff.mpr ⟨rest, by rw [← starts, root]; rfl⟩
    rw [Path.startsWith, List.isPrefixOf_iff_prefix, components_path valid',
      Path.components_absolute absolute']
    exact ⟨_, rfl⟩
  by_cases none : names = []
  · subst none
    rw [List.append_nil] at accepted
    obtain rfl := Path.ext ((accepts_literal valid' literal).mp accepted)
    rw [Path.startsWith, List.isPrefixOf_iff_prefix]
  obtain ⟨first, rest, rfl⟩ := List.exists_cons_of_ne_nil none
  have spelled : (Location.path ⟨true, above ++ first :: rest⟩).text.toList =
      ((Location.path ⟨true, above⟩).text.toList ++ ['/']) ++ (first.toList ++ spell rest) := by
    rw [toList_below valid top, List.append_assoc]
    rfl
  have literal' : ∀ c ∈ (Location.path ⟨true, above⟩).text.toList ++ ['/'], ¬ IsMeta c := by
    intro c member
    rcases List.mem_append.mp member with inside | last
    · exact literal c inside
    · obtain rfl := List.mem_singleton.mp last
      decide
  obtain ⟨fuel, accepts⟩ := accepts_front valid spelled literal'
  obtain ⟨behind, starts, _⟩ := accepts.mp accepted
  rw [List.append_assoc] at starts
  exact Path.startsWith_of_toList absolute starts

/-- A pattern below a directory whose name opens a set accepts nothing below the directory. -/
theorem not_startsWith_of_accepts (valid : IsValid ⟨true, above ++ names⟩) (plain : path.IsPlain)
    {front behind : List Char}
    (split : (Location.path ⟨true, above⟩).text.toList = front ++ '[' :: behind)
    (literal : ∀ c ∈ front, ¬ IsMeta c)
    (members : ∀ c ∈ ['[', '-', '\\', '^', '!'], c ∉ behind ∧ ∀ name ∈ names, c ∉ name.toList)
    (accepted : Braces.accepts (Location.path ⟨true, above ++ names⟩).text path.text = true) :
    path.startsWith (Location.path ⟨true, above⟩) = false := by
  have valid' : IsValid ⟨true, above⟩ := fun name member => valid name (by simp [member])
  have some : above ≠ [] := by
    rintro rfl
    have root : (Location.path ⟨true, []⟩).text.toList = ['/'] := by decide
    have bracket : '[' ∈ (Location.path ⟨true, []⟩).text.toList := by simp [split]
    rw [root] at bracket
    exact absurd bracket (by decide)
  rw [Bool.eq_false_iff, Ne, Path.startsWith, List.isPrefixOf_iff_prefix]
  intro below
  obtain ⟨⟨isRooted, others⟩, valid'', rfl⟩ := plain
  rw [components_path valid', components_path valid''] at below
  have starts : isRooted = true ∧ above <+: others := by
    cases isRooted with
    | true =>
        have names := (List.prefix_cons_inj _).mp below
        exact ⟨rfl, (List.prefix_map_iff_of_injective fun _ _ same => by cases same; rfl).mp names⟩
    | false =>
        obtain ⟨rest, same⟩ := below
        have first : .root ∈ components ⟨false, others⟩ := by
          rw [← same]
          exact List.mem_cons_self
        obtain ⟨name, _, impossible⟩ := List.mem_map.mp first
        cases impossible
  obtain ⟨rfl, rest, rfl⟩ := starts
  have spelled : ∀ {names}, IsValid ⟨true, above ++ names⟩ →
      (Location.path ⟨true, above ++ names⟩).text.toList =
        front ++ '[' :: (behind ++ spell names) := by
    intro names valid
    rw [toList_below valid some, split, List.append_assoc]
    rfl
  rw [not_accepts_set valid (spelled valid) literal _ (spelled valid'')] at accepted
  · cases accepted
  intro c listed member
  obtain ⟨absent, absent'⟩ := members c listed
  rcases List.mem_append.mp member with inside | inside
  · exact absent inside
  · obtain ⟨name, among, inside⟩ := List.mem_flatMap.mp inside
    rcases List.mem_cons.mp inside with rfl | inside
    · exact absurd listed (by decide)
    · exact absent' name among inside

end Below

end StyleInline

import Mathlib.Data.List.Nodup
import StyleInline.FileSystem.Disk
import StyleInline.Proofs.Memory
import StyleInline.Proofs.Wildcards

/-!
# Listings of a tree on a disk

A plain path leads to the entry of its names.  So what a walk along the segments of a pattern comes
to are the files whose names fit the segments.
-/

namespace StyleInline

open Glob Location

namespace Disk

/-- Everything in a tree has a name, stands in a directory and stands there once. -/
structure IsTree (disk : Disk) : Prop where
  named : ∀ names entry, (names, entry) ∈ disk.entries →
    names ≠ [] ∧ ∀ name ∈ names, IsName name ∧ '\x00' ∉ name.toList
  above : ∀ front name entry, (front ++ [name], entry) ∈ disk.entries → front ≠ [] →
    (front, .directory) ∈ disk.entries
  unique : (disk.entries.map Prod.fst).Nodup

section Entries

variable {disk : Disk} {names front back : List String} {entry : DiskEntry}

theorem entry?_eq_some_iff (tree : disk.IsTree) :
    disk.entry? names = some entry ↔
      (names = [] ∧ entry = .directory) ∨ (names, entry) ∈ disk.entries := by
  unfold entry?
  cases names with
  | nil =>
      have missing : ([], entry) ∉ disk.entries := fun member => (tree.named _ _ member).1 rfl
      simp [missing, eq_comm]
  | cons first rest =>
      rw [if_neg (by simp), lookup_eq_some_iff tree.unique]
      simp

theorem named_of_entry? (tree : disk.IsTree) (found : disk.entry? names = some entry) :
    ∀ name ∈ names, IsName name ∧ '\x00' ∉ name.toList := by
  rcases (entry?_eq_some_iff tree).mp found with ⟨rfl, _⟩ | member
  · simp
  · exact (tree.named _ _ member).2

/-- What stands above something is a directory. -/
theorem entry?_above (tree : disk.IsTree) (found : disk.entry? (front ++ back) = some entry)
    (some : back ≠ []) : disk.entry? front = .some .directory := by
  induction back using List.reverseRecOn generalizing entry with
  | nil => exact absurd rfl some
  | append_singleton back name ih =>
      rw [← List.append_assoc] at found
      have directory : disk.entry? (front ++ back) = .some .directory := by
        rcases (entry?_eq_some_iff tree).mp found with ⟨empty, _⟩ | member
        · simp at empty
        · rw [entry?_eq_some_iff tree]
          by_cases top : front ++ back = []
          · exact .inl ⟨top, rfl⟩
          · exact .inr (tree.above _ _ _ member top)
      by_cases last : back = []
      · rw [last, List.append_nil] at directory
        exact directory
      · exact ih directory last

theorem entry?_front (tree : disk.IsTree) (found : disk.entry? (front ++ back) = some entry) :
    ∃ entry, disk.entry? front = some entry := by
  by_cases last : back = []
  · rw [last, List.append_nil] at found
    exact ⟨entry, found⟩
  · exact ⟨_, entry?_above tree found last⟩

theorem directory_front (tree : disk.IsTree)
    (found : disk.entry? (front ++ back) = some .directory) :
    disk.entry? front = some .directory := by
  by_cases last : back = []
  · rw [last, List.append_nil] at found
    exact found
  · exact entry?_above tree found last

end Entries

section Paths

variable {disk : Disk} {names base : List String}

theorem follow_names (tree : disk.IsTree) (here : disk.entry? base = some .directory)
    (valid : ∀ name ∈ names, IsName name) (found : Found) :
    disk.follow ⟨base, .directory⟩ names = .ok found ↔
      found.names = base ++ names ∧ disk.entry? (base ++ names) = some found.entry := by
  induction names generalizing base with
  | nil =>
      rw [follow, List.append_nil, here]
      obtain ⟨others, entry⟩ := found
      simp [eq_comm]
  | cons name rest ih =>
      have named := valid name (by simp)
      have other : name ≠ "." := by
        rintro rfl
        exact named.2.1 rfl
      have other' : name ≠ ".." := by
        rintro rfl
        exact named.2.2.1 rfl
      have joined : base ++ name :: rest = base ++ [name] ++ rest := by simp
      rw [follow]
      simp only [other, other', if_false]
      rw [joined]
      cases next : disk.entry? (base ++ [name]) with
      | none =>
          refine iff_of_false (by simp) ?_
          rintro ⟨_, reached⟩
          by_cases last : rest = []
          · rw [last, List.append_nil, next] at reached
            cases reached
          · rw [entry?_above tree reached last] at next
            cases next
      | some entry =>
          cases entry with
          | directory => exact ih next fun later member => valid later (by simp [member])
          | file content time =>
              cases rest with
              | nil =>
                  rw [List.append_nil, next]
                  obtain ⟨others, entry⟩ := found
                  simp [follow, eq_comm]
              | cons second rest =>
                  refine iff_of_false (by simp [follow]) ?_
                  rintro ⟨_, reached⟩
                  rw [entry?_above tree reached (by simp)] at next
                  cases next

theorem segmentsOf_path (valid : ∀ name ∈ names, IsName name) :
    segmentsOf (path ⟨true, names⟩) = if names = [] then ["."] else names := by
  cases names with
  | nil => rfl
  | cons first rest =>
      have spelled := @Location.toList_path ⟨true, first :: rest⟩ valid
      have kept := @IsValid.map_toList ⟨true, first :: rest⟩ valid
      have split : Path.segmentsOf (path ⟨true, first :: rest⟩).text.toList =
          [] :: (first :: rest).map String.toList := by
        rw [spelled]
        simp only [if_true, List.cons_append, List.nil_append, Path.segmentsOf]
        rw [Path.segmentsOf_joinSegments (by simp) fun segment member => (kept segment member).2]
      have whole : ((first :: rest).map String.toList).filter (!·.isEmpty) =
          (first :: rest).map String.toList := by
        rw [List.filter_eq_self]
        intro segment member
        simpa using (kept segment member).1
      have last : ([] :: (first :: rest).map String.toList).getLast? ≠ some [] := by
        rw [List.getLast?_cons_of_ne_nil (by simp)]
        intro ended
        exact (kept [] (List.mem_of_getLast? ended)).1 rfl
      rw [segmentsOf, split, List.filter_cons_of_neg (by simp), whole, if_neg (by simpa using last),
        if_neg (by simp), List.map_map]
      simp [Function.comp_def]

/-- A plain path leads to the entry of its names. -/
theorem find_path (tree : disk.IsTree) (valid : ∀ name ∈ names, IsName name) (found : Found) :
    disk.find (path ⟨true, names⟩) = .ok found ↔
      found.names = names ∧ disk.entry? names = some found.entry := by
  have spelled := @Location.toList_path ⟨true, names⟩ valid
  have absolute := @isAbsolute_path ⟨true, names⟩ valid
  have some : (path ⟨true, names⟩).text.isEmpty = false := by
    rw [← Bool.not_eq_true, String.isEmpty_iff]
    intro empty
    simp [empty] at spelled
  rw [find, some, if_neg (by simp)]
  by_cases nul : (path ⟨true, names⟩).text.toList.contains '\x00'
  · rw [if_pos nul]
    refine iff_of_false (by simp) ?_
    rintro ⟨_, reached⟩
    have clean := named_of_entry? tree reached
    have member : '\x00' ∈ (path ⟨true, names⟩).text.toList := by simpa using nul
    cases names with
    | nil => exact absurd member (by decide)
    | cons first rest =>
        rw [Glob.toList_path valid (by simp), spell] at member
        obtain ⟨name, inside, spelled⟩ := List.mem_flatMap.mp member
        rcases List.mem_cons.mp spelled with slash | spelled
        · exact absurd slash (by decide)
        · exact (clean name inside).2 spelled
  · rw [if_neg nul]
    simp only [absolute, if_true, segmentsOf_path valid]
    by_cases top : names = []
    · subst top
      rw [if_pos rfl]
      obtain ⟨others, entry⟩ := found
      simp [follow, entry?, eq_comm]
    · rw [if_neg top]
      exact follow_names tree rfl valid found

theorem isFile_path (tree : disk.IsTree) (valid : ∀ name ∈ names, IsName name) :
    disk.isFile (path ⟨true, names⟩) = true ↔
      ∃ content time, disk.entry? names = some (.file content time) := by
  have led := find_path tree valid
  constructor
  · unfold isFile
    split
    · rename_i others content time found
      intro _
      exact ⟨content, time, ((led _).mp found).2⟩
    · simp
  · rintro ⟨content, time, reached⟩
    rw [isFile, (led ⟨names, .file content time⟩).mpr ⟨rfl, reached⟩]

theorem leadsSomewhere_path (tree : disk.IsTree) (valid : ∀ name ∈ names, IsName name) :
    disk.leadsSomewhere (path ⟨true, names⟩) = true ↔ ∃ entry, disk.entry? names = some entry := by
  have led := find_path tree valid
  unfold leadsSomewhere
  cases found : disk.find (path ⟨true, names⟩) with
  | ok place =>
      simp only [Except.toOption, Option.isSome_some, true_iff]
      exact ⟨_, ((led place).mp found).2⟩
  | error error =>
      simp only [Except.toOption, Option.isSome_none, Bool.false_eq_true, false_iff, not_exists]
      intro entry reached
      rw [(led ⟨names, entry⟩).mpr ⟨rfl, reached⟩] at found
      cases found

theorem directory?_path (tree : disk.IsTree) (valid : ∀ name ∈ names, IsName name) :
    disk.directory? (path ⟨true, names⟩) =
      match disk.entry? names with
      | some .directory => some names
      | _ => none := by
  have led := find_path tree valid
  unfold directory?
  cases reached : disk.entry? names with
  | none =>
      cases found : disk.find (path ⟨true, names⟩) with
      | error error => rfl
      | ok place =>
          rw [((led place).mp found).2] at reached
          cases reached
  | some entry =>
      rw [(led ⟨names, entry⟩).mpr ⟨rfl, reached⟩]
      cases entry <;> rfl

theorem follow_append (disk : Disk) (place : Found) (front back : List String) :
    disk.follow place (front ++ back) =
      (disk.follow place front).bind fun place => disk.follow place back := by
  induction front generalizing place with
  | nil => rfl
  | cons segment front ih =>
      rw [List.cons_append, follow, follow]
      cases place.entry with
      | file content time => rfl
      | directory =>
          dsimp only
          split
          · exact ih place
          · cases disk.entry? (if segment = ".." then place.names.dropLast
              else place.names ++ [segment]) with
            | none => rfl
            | some entry => exact ih _

theorem segmentsOf_join (valid : ∀ name ∈ names, IsName name) {special : String}
    (isSpecial : special = "." ∨ special = "..") :
    segmentsOf ((path ⟨true, names⟩).join ⟨special⟩) = names ++ [special] := by
  have relative : (⟨special⟩ : Path).isAbsolute = false := by
    rcases isSpecial with rfl | rfl <;> rfl
  have plain : Path.segmentsOf special.toList = [special.toList] := by
    rcases isSpecial with rfl | rfl <;> rfl
  have some : special.toList ≠ [] := by rcases isSpecial with rfl | rfl <;> decide
  have kept : (Path.segmentsOf (path ⟨true, names⟩).text.toList).filter (!·.isEmpty) =
      names.map String.toList := by
    rw [← Wildcards.componentTexts_eq, Wildcards.componentTexts_path valid]
  have spelled : ∃ segments, segments.filter (!·.isEmpty) = names.map String.toList ∧
      Path.segmentsOf ((path ⟨true, names⟩).join ⟨special⟩).text.toList =
        segments ++ [special.toList] := by
    rcases toList_join relative (path ⟨true, names⟩) with
      ⟨none, _⟩ | ⟨front, ended, joined⟩ | ⟨_, _, joined⟩
    · simp [@Location.toList_path ⟨true, names⟩ valid] at none
    · refine ⟨Path.segmentsOf front, ?_, ?_⟩
      · rw [ended, segmentsOf_append_any] at kept
        simpa [Path.segmentsOf] using kept
      · rw [joined, segmentsOf_append_any, plain]
    · exact ⟨_, kept, by rw [joined, segmentsOf_append_any, plain]⟩
  obtain ⟨segments, filtered, split⟩ := spelled
  rw [segmentsOf, split, List.filter_append, filtered]
  simp [some, Function.comp_def]

/-- The special names of a directory lead to no file. -/
theorem not_isFile_special (tree : disk.IsTree) (valid : ∀ name ∈ names, IsName name)
    {special : String} (isSpecial : special = "." ∨ special = "..") :
    disk.isFile ((path ⟨true, names⟩).join ⟨special⟩) = false := by
  have absolute : ((path ⟨true, names⟩).join ⟨special⟩).isAbsolute = true :=
    isAbsolute_join (@isAbsolute_path ⟨true, names⟩ valid) _
  unfold isFile
  split
  next others content time found =>
    rw [find] at found
    split at found
    next => cases found
    split at found
    next => cases found
    dsimp only at found
    rw [segmentsOf_join valid isSpecial, follow_append] at found
    cases reached : disk.follow ⟨[], .directory⟩ names with
    | error error =>
        rw [reached] at found
        cases found
    | ok place =>
        obtain ⟨same, entry⟩ := (follow_names tree rfl valid place).mp reached
        rw [reached] at found
        simp only [Except.bind, follow] at found
        cases kind : place.entry with
        | file content time => simp [kind] at found
        | directory =>
            rcases isSpecial with rfl | rfl
            · simp only [kind, if_true, Except.ok.injEq] at found
              rw [found] at kind
              cases kind
            · have above : disk.entry? names.dropLast = some .directory := by
                rcases List.eq_nil_or_concat names with rfl | ⟨front, last, rfl⟩
                · rfl
                · rw [List.nil_append] at entry
                  rw [List.concat_eq_append] at entry ⊢
                  rw [List.dropLast_concat]
                  exact entry?_above tree entry (by simp)
              simp [kind, same, above] at found
  next => rfl

end Paths

section Directories

variable {disk : Disk} {base : List String}

theorem mem_namesIn (tree : disk.IsTree) (name : String) :
    name ∈ disk.namesIn base ↔ ∃ entry, disk.entry? (base ++ [name]) = some entry := by
  simp only [namesIn, List.mem_filterMap, entry?_eq_some_iff tree]
  constructor
  · rintro ⟨⟨names, entry⟩, member, named⟩
    split at named
    next inside =>
      subst inside
      rw [List.dropLast_append_getLast? _ named]
      exact ⟨entry, .inr member⟩
    next => cases named
  · rintro ⟨entry, ⟨empty, _⟩ | member⟩
    · simp at empty
    · exact ⟨_, member, by simp⟩

theorem nodup_namesIn (tree : disk.IsTree) (base : List String) : (disk.namesIn base).Nodup := by
  have keys : (disk.namesIn base) = (disk.entries.map Prod.fst).filterMap fun names =>
      if names.dropLast = base then names.getLast? else none := by
    rw [List.filterMap_map]
    rfl
  rw [keys]
  apply tree.unique.filterMap
  intro names others name named named'
  rw [Option.mem_def] at named named'
  split at named
  next inside =>
    split at named'
    next inside' =>
      rw [← List.dropLast_append_getLast? _ named, ← List.dropLast_append_getLast? _ named', inside,
        inside']
    next => cases named'
  next => cases named

theorem mem_directoriesBelow (tree : disk.IsTree) (names : List String) :
    names ∈ disk.directoriesBelow base ↔
      names ≠ [] ∧ disk.entry? (base ++ names) = some .directory := by
  simp only [directoriesBelow, List.mem_filterMap, entry?_eq_some_iff tree]
  constructor
  · rintro ⟨⟨others, entry⟩, member, below⟩
    cases entry with
    | file content time => cases below
    | directory =>
        simp only [Bool.and_eq_true, List.isPrefixOf_iff_prefix, bne_iff_ne] at below
        split at below
        next inside =>
          cases below
          obtain ⟨⟨names, rfl⟩, apart⟩ := inside
          rw [List.drop_left]
          refine ⟨?_, .inr member⟩
          rintro rfl
          exact apart (List.append_nil base).symm
        next => cases below
  · rintro ⟨some, ⟨empty, _⟩ | member⟩
    · exact absurd (List.append_eq_nil_iff.mp empty).2 some
    · refine ⟨_, member, ?_⟩
      have apart : base ≠ base ++ names := by simpa using some
      simp [apart]

theorem nodup_directoriesBelow (tree : disk.IsTree) (base : List String) :
    (disk.directoriesBelow base).Nodup := by
  apply (List.Nodup.of_map _ tree.unique).filterMap
  rintro ⟨names, entry⟩ ⟨others, entry'⟩ below named named'
  cases entry with
  | file content time => cases named
  | directory =>
      cases entry' with
      | file content time => cases named'
      | directory =>
          simp only [Option.mem_def] at named named'
          split at named
          next inside =>
            split at named'
            next inside' =>
              cases named
              simp only [Bool.and_eq_true, List.isPrefixOf_iff_prefix] at inside inside'
              obtain ⟨⟨back, rfl⟩, _⟩ := inside
              obtain ⟨⟨back', rfl⟩, _⟩ := inside'
              simpa [eq_comm] using named'
            next => cases named'
          next => cases named

end Directories

end Disk

end StyleInline

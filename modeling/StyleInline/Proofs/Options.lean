import StyleInline.FileSystem.Memory
import StyleInline.Processor.Options
import StyleInline.Proofs.Location

/-!
# Where options come from

Without a file of options the closest `package.json` decides, going up from the working directory:
an inner one hides those further up even when the key is absent from it.  With a file of options
nothing but that file decides.
-/

namespace StyleInline

namespace FileSystem

/-- The place of `package.json` in a directory, which is given by its names from the root. -/
def packageIn (names : List String) : Path := (Location.path ⟨true, names⟩).join ⟨"package.json"⟩

/-- The closest directory, going up from one to the root, in which `package.json` is a file. -/
structure IsClosest (files : FileSystem) (names closest : List String) : Prop where
  above : closest <+: names
  isFile : files.isFile (packageIn closest) = true
  passed : ∀ closer, closer <+: names → closest.length < closer.length →
    files.isFile (packageIn closer) = false

section Walking

/-- The whole list is taken when nothing stops in front of its last element. -/
theorem upTo_snoc {α : Type} {stop : α → Bool} {front : List α}
    (onward : ∀ element ∈ front, stop element = false) (last : α) :
    upTo stop (front ++ [last]) = front ++ [last] := by
  induction front with
  | nil => simp [upTo]
  | cons first front ih =>
      obtain ⟨here, later⟩ := List.forall_mem_cons.mp onward
      rw [List.cons_append, upTo, here, if_neg Bool.false_ne_true, ih later]

/-- The longest beginning that passes a test is found first. -/
theorem find?_inits {α : Type} (test : List α → Bool) (whole found : List α) :
    whole.inits.reverse.find? test = some found ↔
      found <+: whole ∧ test found = true ∧
        ∀ longer, longer <+: whole → found.length < longer.length → test longer = false := by
  induction whole using List.reverseRecOn with
  | nil =>
      rw [List.inits, List.reverse_singleton, List.find?_singleton, List.prefix_nil]
      constructor
      · intro here
        split at here
        next passes =>
          cases here
          exact ⟨rfl, passes, fun longer start more => by simp [List.prefix_nil.mp start] at more⟩
        next => cases here
      · rintro ⟨rfl, passes, _⟩
        rw [if_pos passes]
  | append_singleton front last ih =>
      have inits : (front ++ [last]).inits.reverse = (front ++ [last]) :: front.inits.reverse := by
        simp [List.inits_append]
      have shorter : ∀ {part}, part <+: front → part.length < (front ++ [last]).length := by
        intro part start
        rw [List.length_append, List.length_singleton]
        exact Nat.lt_succ_of_le start.length_le
      rw [inits, List.find?_cons]
      split
      next passes =>
        rw [Option.some.injEq]
        constructor
        · rintro rfl
          exact ⟨List.prefix_refl _, passes, fun longer start more =>
            absurd start.length_le (Nat.not_le_of_lt more)⟩
        · rintro ⟨start, _, longest⟩
          rcases List.prefix_concat_iff.mp start with whole | inner
          · exact whole.symm
          · have fails := longest _ (List.prefix_refl _) (shorter inner)
            exact absurd (passes.symm.trans fails) (Bool.noConfusion)
      next fails =>
        rw [ih]
        constructor
        · rintro ⟨start, passes, longest⟩
          refine ⟨start.trans (List.prefix_append _ _), passes, fun longer start' more => ?_⟩
          rcases List.prefix_concat_iff.mp start' with rfl | inner
          · exact fails
          · exact longest longer inner more
        · rintro ⟨start, passes, longest⟩
          rcases List.prefix_concat_iff.mp start with rfl | inner
          · exact absurd (passes.symm.trans fails) (Bool.noConfusion)
          · exact ⟨inner, passes, fun longer start' more =>
              longest longer (start'.trans (List.prefix_append _ _)) more⟩

variable {files : FileSystem} {names closest : List String}

theorem isClosest_iff :
    files.IsClosest names closest ↔
      names.inits.reverse.find? (fun above => files.isFile (packageIn above)) = some closest := by
  rw [find?_inits]
  exact ⟨fun ⟨above, here, passed⟩ => ⟨above, here, passed⟩,
    fun ⟨above, here, passed⟩ => ⟨above, here, passed⟩⟩

/-- The walk upwards goes through all directories and takes the closest. -/
theorem findAncestor_package (valid : Location.IsValid ⟨true, names⟩) :
    let cwd := Location.path ⟨true, names⟩
    files.findAncestor ["package.json"] cwd (cwd.ancestors.getLast?.getD cwd) =
      (names.inits.reverse.find? fun above => files.isFile (packageIn above)).map packageIn := by
  intro cwd
  obtain ⟨longer, inits, below⟩ : ∃ longer, names.inits = [] :: longer ∧ [] ∉ longer := by
    cases names with
    | nil => exact ⟨[], rfl, List.not_mem_nil⟩
    | cons first rest => exact ⟨_, List.inits_cons first rest, by simp⟩
  have ancestors : cwd.ancestors =
      (longer.reverse.map fun above => Location.path ⟨true, above⟩) ++
        [Location.path ⟨true, []⟩] := by
    rw [Location.ancestors_path valid, inits, List.reverse_cons, List.map_append,
      List.map_singleton]
  have onward : ∀ directory ∈ longer.reverse.map fun above => Location.path ⟨true, above⟩,
      directory.same (Location.path ⟨true, []⟩) = false := by
    intro directory member
    obtain ⟨above, inside, rfl⟩ := List.mem_map.mp member
    have start : above <+: names := by
      rw [← List.mem_inits, inits]
      exact List.mem_cons_of_mem _ (List.mem_reverse.mp inside)
    have some : above ≠ [] := by
      rintro rfl
      exact below (List.mem_reverse.mp inside)
    have valid' : Location.IsValid ⟨true, above⟩ :=
      fun name member => valid name (start.subset member)
    have top : (Location.path ⟨true, []⟩).components = [.root] :=
      Location.components_path Location.isValid_root
    rw [Path.same, Location.components_path valid', top]
    simpa [Location.components] using some
  have candidates : ((longer.reverse ++ [[]]).map fun above => Location.path ⟨true, above⟩).flatMap
      (fun directory : Path => ["package.json"].map fun name => directory.join ⟨name⟩) =
        names.inits.reverse.map packageIn := by
    rw [inits, List.reverse_cons, List.flatMap_map]
    exact List.map_eq_flatMap.symm
  rw [findAncestor, ancestors, List.getLast?_concat, Option.getD_some, upTo_snoc onward]
  rw [List.map_append, List.map_singleton] at candidates
  rw [candidates, List.find?_map]
  rfl

end Walking

end FileSystem

namespace ProcessorConfig

open FileSystem (packageIn IsClosest)

/-- The place of a file of options. -/
def place (cwd path : Path) : Path := if path.isAbsolute then path else cwd.join path

section Loading

variable {files : FileSystem} {names : List String} {cwd : Path}

/-- The absolute normal paths are the plain spellings of locations from the root. -/
theorem exists_names (absolute : cwd.isAbsolute = true) (normal : cwd.normalize = cwd) :
    ∃ names, Location.IsValid ⟨true, names⟩ ∧ cwd = Location.path ⟨true, names⟩ := by
  have valid := Location.isValid_nowhere.follow_path cwd
  have spelled : cwd = (Location.nowhere.follow cwd.components).path := by
    rw [← Location.normalize_eq, normal]
  have rooted : (Location.nowhere.follow cwd.components).isRooted = true := by
    rw [← Location.isAbsolute_path valid, ← spelled, absolute]
  generalize Location.nowhere.follow cwd.components = location at valid spelled rooted
  obtain ⟨_, names⟩ := location
  cases rooted
  exact ⟨names, valid, spelled⟩

theorem load_package (valid : Location.IsValid ⟨true, names⟩)
    (here : files.cwd = .ok (Location.path ⟨true, names⟩)) :
    load files none =
      match names.inits.reverse.find? fun above => files.isFile (packageIn above) with
      | none => .ok {}
      | some closest =>
        (ofFileError (files.read (packageIn closest))).bind (ofPackage (packageIn closest)) := by
  have walked := @FileSystem.findAncestor_package files names valid
  rw [load, ofClosestPackage, here]
  simp only [ofFileError, Except.mapError, bind, Except.bind] at walked ⊢
  rw [walked]
  cases names.inits.reverse.find? _ <;> rfl

theorem load_of_none (valid : Location.IsValid ⟨true, names⟩)
    (here : files.cwd = .ok (Location.path ⟨true, names⟩))
    (passed : ∀ above, above <+: names → files.isFile (packageIn above) = false) :
    load files none = .ok {} := by
  have unmet : (names.inits.reverse.find? fun above => files.isFile (packageIn above)) = none := by
    rw [List.find?_eq_none]
    intro above member
    rw [passed above (List.mem_inits _ _ |>.mp (List.mem_reverse.mp member))]
    exact Bool.false_ne_true
  rw [load_package valid here, unmet]

theorem load_of_closest {closest : List String} (valid : Location.IsValid ⟨true, names⟩)
    (here : files.cwd = .ok (Location.path ⟨true, names⟩))
    (found : files.IsClosest names closest) :
    load files none =
      (ofFileError (files.read (packageIn closest))).bind (ofPackage (packageIn closest)) := by
  rw [load_package valid here, FileSystem.isClosest_iff.mp found]

theorem load_file {path : Path} (here : files.cwd = .ok cwd ∨ path.isAbsolute = true) :
    load files (some path) =
      match files.read (place cwd path) with
      | .error error =>
        .error ⟨"Failed to read stylesheet processor config " ++ (place cwd path).text,
          [error.message]⟩
      | .ok text => decoded ("Invalid stylesheet processor config " ++ (place cwd path).text)
          (decoder.decodeText text) := by
  have anchored : load files (some path) =
      ((ofFileError (files.read (place cwd path))).mapError
        (.within ("Failed to read stylesheet processor config " ++ (place cwd path).text))).bind
          fun text => decoded ("Invalid stylesheet processor config " ++ (place cwd path).text)
            (decoder.decodeText text) := by
    rw [load, ofFile, place]
    rcases here with here | absolute
    · rw [here]
      split <;> rfl
    · rw [if_pos absolute, if_pos absolute]
      rfl
  rw [anchored]
  cases files.read (place cwd path) <;> rfl

theorem ofPackage_of_fault {path : Path} {text : String} {fault : Json.Fault}
    (broken : Json.Value.parse text = .error fault) :
    ofPackage path text = .error ⟨"Invalid " ++ path.text, [fault.message]⟩ := by
  rw [ofPackage, broken]
  rfl

theorem ofPackage_of_ok {path : Path} {text : String} {package : Json.Value}
    (parsed : Json.Value.parse text = .ok package) :
    ofPackage path text =
      match package.member? packageKey with
      | none => .ok {}
      | some value => decoded ("Invalid \"" ++ packageKey ++ "\" key in " ++ path.text)
          (decoder.decodeValue value) := by
  rw [ofPackage, parsed]
  rfl

/-- What is read from a text passes a test. -/
theorem exists_parsed {text : String} {passes : Json.Value → Bool}
    (tested : (Json.Value.parse text).toOption.any passes = true) :
    ∃ package, Json.Value.parse text = .ok package ∧ passes package = true := by
  cases parsed : Json.Value.parse text with
  | error fault =>
      rw [parsed] at tested
      exact absurd tested Bool.false_ne_true
  | ok package =>
      rw [parsed] at tested
      exact ⟨package, rfl, tested⟩

end Loading

/-- The text of a `package.json` decides which options are taken. -/
structure IsDecidedBy (files : FileSystem) (package : Path) : Prop where
  unread : ∀ error, files.read package = .error error →
    load files none = .error ⟨error.message, []⟩
  unparsed : ∀ text fault, files.read package = .ok text →
    Json.Value.parse text = .error fault →
      load files none = .error ⟨"Invalid " ++ package.text, [fault.message]⟩
  absent : ∀ text value, files.read package = .ok text → Json.Value.parse text = .ok value →
    value.member? packageKey = none → load files none = .ok {}
  present : ∀ text value options config, files.read package = .ok text →
    Json.Value.parse text = .ok value → value.member? packageKey = some options →
      decoder.decodeValue options = .ok config → load files none = .ok config
  unfit : ∀ text value options fault, files.read package = .ok text →
    Json.Value.parse text = .ok value → value.member? packageKey = some options →
      decoder.decodeValue options = .error fault →
        load files none = .error
          ⟨"Invalid \"" ++ packageKey ++ "\" key in " ++ package.text, [fault.message]⟩

/-- The text of a file of options, and nothing else, decides which options are taken. -/
structure IsDecidedByFile (files : FileSystem) (cwd path : Path) : Prop where
  unread : ∀ error, files.read (place cwd path) = .error error →
    load files (some path) =
      .error ⟨"Failed to read stylesheet processor config " ++ (place cwd path).text,
        [error.message]⟩
  present : ∀ text config, files.read (place cwd path) = .ok text →
    decoder.decodeText text = .ok config → load files (some path) = .ok config
  unfit : ∀ text fault, files.read (place cwd path) = .ok text →
    decoder.decodeText text = .error fault →
      load files (some path) =
        .error ⟨"Invalid stylesheet processor config " ++ (place cwd path).text, [fault.message]⟩
  alone : ∀ other : FileSystem, other.cwd = .ok cwd ∨ path.isAbsolute = true →
    other.read (place cwd path) = files.read (place cwd path) →
      load other (some path) = load files (some path)

/-- What decides which options are taken in the working directory at `names`. -/
structure IsDecided (files : FileSystem) (names : List String) : Prop where
  missing : (∀ above, above <+: names → files.isFile (packageIn above) = false) →
    load files none = .ok {}
  closest : ∀ closest, files.IsClosest names closest → IsDecidedBy files (packageIn closest)
  alone : ∀ other : FileSystem, other.cwd = files.cwd →
    (∀ closest, other.IsClosest names closest ↔ files.IsClosest names closest) →
    (∀ closest, files.IsClosest names closest →
      other.read (packageIn closest) = files.read (packageIn closest)) →
      load other none = load files none
  file : ∀ path, IsDecidedByFile files (Location.path ⟨true, names⟩) path

theorem isDecidedBy_closest {files : FileSystem} {names closest : List String}
    (valid : Location.IsValid ⟨true, names⟩)
    (here : files.cwd = .ok (Location.path ⟨true, names⟩))
    (found : files.IsClosest names closest) : IsDecidedBy files (packageIn closest) := by
  have loaded {text : String} (read : files.read (packageIn closest) = .ok text) :
      load files none = ofPackage (packageIn closest) text := by
    rw [load_of_closest valid here found, read]
    rfl
  constructor
  case unread =>
    intro error unread
    rw [load_of_closest valid here found, unread]
    rfl
  case unparsed =>
    intro text fault read broken
    rw [loaded read, ofPackage_of_fault broken]
  case absent =>
    intro text value read parsed absent
    rw [loaded read, ofPackage_of_ok parsed, absent]
  case present =>
    intro text value options config read parsed present decodes
    rw [loaded read, ofPackage_of_ok parsed, present]
    dsimp only
    rw [decodes]
    rfl
  case unfit =>
    intro text value options fault read parsed present fails
    rw [loaded read, ofPackage_of_ok parsed, present]
    dsimp only
    rw [fails]
    rfl

theorem isDecidedByFile {files : FileSystem} {cwd : Path} (here : files.cwd = .ok cwd)
    (path : Path) : IsDecidedByFile files cwd path := by
  constructor
  case unread =>
    intro error unread
    rw [load_file (.inl here), unread]
  case present =>
    intro text config read decodes
    rw [load_file (.inl here), read]
    dsimp only
    rw [decodes]
    rfl
  case unfit =>
    intro text fault read fails
    rw [load_file (.inl here), read]
    dsimp only
    rw [fails]
    rfl
  case alone =>
    intro other here' read
    rw [load_file here', load_file (.inl here), read]

/-- Without a file of options the closest `package.json` decides: its key if that is there, the
defaults if not, and a failure if the text or the value under the key cannot be read; where there is
no such file, the defaults.  File systems with one working directory that agree on the closest
`package.json` and its text give the same options, and so do those that agree on the text of a file
of options. -/
theorem load_decided {files : FileSystem} {cwd : Path} (absolute : cwd.isAbsolute = true)
    (normal : cwd.normalize = cwd) (here : files.cwd = .ok cwd) :
    ∃ names, Location.IsValid ⟨true, names⟩ ∧ cwd = Location.path ⟨true, names⟩ ∧
      IsDecided files names := by
  obtain ⟨names, valid, rfl⟩ := exists_names absolute normal
  refine ⟨names, valid, rfl, ?_⟩
  constructor
  case missing => exact load_of_none valid here
  case closest => exact fun closest => isDecidedBy_closest valid here
  case alone =>
    intro other same closest read
    have found : (names.inits.reverse.find? fun above => other.isFile (packageIn above)) =
        names.inits.reverse.find? fun above => files.isFile (packageIn above) := by
      refine Option.ext fun above => ?_
      rw [← FileSystem.isClosest_iff, ← FileSystem.isClosest_iff]
      exact closest above
    rw [load_package valid (same.trans here), load_package valid here, found]
    cases closest? : names.inits.reverse.find? fun above => files.isFile (packageIn above) with
    | none => rfl
    | some closest =>
        dsimp only
        rw [read closest (FileSystem.isClosest_iff.mpr closest?)]
  case file => exact isDecidedByFile here

/-- A directory of the name is passed over, and the file without the key hides the outer one. -/
def nested : Memory where
  cwd := ⟨"/project/app/src"⟩
  entries :=
    [(⟨"/project/package.json"⟩,
        .file "\x7b\"@atlaspack/inline-css-imports\": \x7b\"minify\": true\x7d\x7d" 0),
      (⟨"/project/app/package.json"⟩, .file "\x7b\x7d" 0),
      (⟨"/project/app/src/package.json"⟩, .directory)]

def unnested : Memory :=
  { nested with entries := nested.entries.filter (·.1 ≠ ⟨"/project/app/package.json"⟩) }

theorem load_nested :
    load nested.fileSystem none = .ok {} ∧
      load unnested.fileSystem none = .ok { minify := true } := by
  have names_eq : ∀ {names}, Location.IsValid ⟨true, names⟩ →
      ⟨"/project/app/src"⟩ = Location.path ⟨true, names⟩ → names = ["project", "app", "src"] := by
    intro names valid spelled
    have valid' : Location.IsValid ⟨true, ["project", "app", "src"]⟩ := by
      simp only [Location.IsValid, IsName]
      decide +kernel
    have same : Location.path ⟨true, ["project", "app", "src"]⟩ = Location.path ⟨true, names⟩ := by
      rw [← spelled]
      decide +kernel
    exact congrArg Location.names ((Location.path_inj valid valid').mp same.symm)
  constructor
  · obtain ⟨names, valid, spelled, decided⟩ :=
      @load_decided nested.fileSystem ⟨"/project/app/src"⟩ (by decide +kernel)
        (by decide +kernel) rfl
    obtain rfl := names_eq valid spelled
    have found : nested.fileSystem.IsClosest ["project", "app", "src"] ["project", "app"] :=
      FileSystem.isClosest_iff.mpr (by decide +kernel)
    obtain ⟨package, parsed, absent⟩ := @exists_parsed "\x7b\x7d"
      (fun package => (package.member? packageKey).isNone) (by decide +kernel)
    exact (decided.closest _ found).absent "\x7b\x7d" package (by decide +kernel) parsed
      (Option.isNone_iff_eq_none.mp absent)
  · obtain ⟨names, valid, spelled, decided⟩ :=
      @load_decided unnested.fileSystem ⟨"/project/app/src"⟩ (by decide +kernel)
        (by decide +kernel) rfl
    obtain rfl := names_eq valid spelled
    have found : unnested.fileSystem.IsClosest ["project", "app", "src"] ["project"] :=
      FileSystem.isClosest_iff.mpr (by decide +kernel)
    let text := "\x7b\"@atlaspack/inline-css-imports\": \x7b\"minify\": true\x7d\x7d"
    obtain ⟨package, parsed, keyed⟩ := @exists_parsed text
      (fun package => (package.member? packageKey).any fun value =>
        decoder.decodeValue value = .ok { minify := true }) (by decide +kernel)
    obtain ⟨value, present, decoded⟩ := (Option.any_eq_true _ _).mp keyed
    exact (decided.closest _ found).present text package value _ (by decide +kernel) parsed present
      (of_decide_eq_true decoded)

end ProcessorConfig

end StyleInline

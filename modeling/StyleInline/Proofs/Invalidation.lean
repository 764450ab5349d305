import StyleInline.Proofs.Memory
import StyleInline.Proofs.Registration
import StyleInline.Session

/-!
# Invalidation

A tracker asks the keys again whenever it is asked whether something is stale, and it asks them of
files that went on changing.  What it answers depends only on the registered paths and on the times
they had when they were registered, however registrations and changes follow one another.
-/

namespace StyleInline

namespace Dependency

variable {files : FileSystem}

theorem addMissing_subset {known added : List Path} :
    ∀ path ∈ addMissing known added, path ∈ known ∨ path ∈ added := by
  induction added generalizing known with
  | nil =>
      intro path member
      exact .inl member
  | cons first rest ih =>
      intro path member
      rw [addMissing, List.foldl_cons] at member
      rcases ih path member with inside | later
      · split at inside
        · exact .inl inside
        · rcases List.mem_append.mp inside with old | new
          · exact .inl old
          · exact .inr (by simp [List.mem_singleton.mp new])
      · exact .inr (by simp [later])

/-- What an expansion has matched was matched before or comes from some pattern. -/
theorem matched_expandAll {property : Path → Prop}
    (globbed : ∀ pattern paths, files.glob pattern = .ok paths → ∀ path ∈ paths, property path)
    (patterns : List String) (expansion : Expansion)
    (matched : ∀ path ∈ expansion.matched, property path) :
    ∀ path ∈ (expandAll files patterns expansion).expansion.matched, property path := by
  induction patterns generalizing expansion with
  | nil => exact matched
  | cons pattern rest ih =>
      cases answer : files.glob (bare pattern) with
      | error source =>
          rw [expandAll_cons_error answer]
          exact matched
      | ok paths =>
          rw [expandAll_cons_ok answer]
          apply ih
          unfold Expansion.grow
          split
          · exact matched
          · intro path member
            rcases addMissing_subset path member with old | new
            · exact matched path old
            · exact globbed _ _ answer path new

theorem registerPaths_subset {τ : Type} (tracker : Tracker τ) (excluded paths : List Path)
    (state : τ) :
    ∀ path ∈ (registerPaths tracker files excluded paths state).1, path ∈ paths := by
  induction paths generalizing state with
  | nil =>
      intro path member
      exact member
  | cons first rest ih =>
      intro path member
      rw [registerPaths] at member
      split at member
      · exact List.mem_cons_of_mem _ (ih _ path member)
      · rcases List.mem_cons.mp member with rfl | later
        · exact List.mem_cons_self
        · exact List.mem_cons_of_mem _ (ih _ path later)

/-- Registered paths come from some pattern. -/
theorem register_globbed {τ : Type} {tracker : Tracker τ} {property : Path → Prop}
    (globbed : ∀ pattern paths, files.glob pattern = .ok paths → ∀ path ∈ paths, property path)
    {patterns : List String} {state : τ} {paths : List Path}
    (registered : (register tracker files patterns state).paths = .ok paths) :
    ∀ path ∈ paths, property path := by
  unfold register at registered
  dsimp only at registered
  split at registered
  · cases registered
  · cases registered
    intro path member
    exact matched_expandAll globbed patterns {} (by simp) path
      (registerPaths_subset _ _ _ _ path member)

/-- A tracker that remembers gets the paths in order, each with a key and its value. -/
theorem foldl_registerPath (paths : List Path) (registrations : Registrations) :
    paths.foldl (fun state path => (registerPath Registrations.tracker files path state).1)
        registrations =
      { paths := registrations.paths ++ paths
        keys := registrations.keys ++
          paths.map fun path => (⟨path⟩, (files.modified path).toOption) } := by
  induction paths generalizing registrations with
  | nil => simp
  | cons path rest ih =>
      rw [List.foldl_cons, ih]
      simp [registerPath, Registrations.tracker, InvalidationKey.value]

end Dependency

namespace Memory

variable {memory : Memory}

/-- The modification time that is stored under a path; that of a directory is the epoch. -/
def time? (memory : Memory) (path : Path) : Option Time :=
  match memory.entry? path with
  | none => none
  | some (.file _ time) => some time
  | some .directory => some 0

theorem modified_eq (memory : Memory) (path : Path) :
    (memory.modified path).toOption = memory.time? (memory.plain path) := by
  unfold modified time?
  cases memory.entry? (memory.plain path) with
  | none => rfl
  | some entry => cases entry <;> rfl

theorem mem_glob {pattern : String} {path : Path} (member : path ∈ memory.glob pattern) :
    ∃ entry, (path, entry) ∈ memory.entries := by
  have matching := (List.mem_filter.mp (List.mem_mergeSort.mp member)).1
  obtain ⟨⟨key, entry⟩, stored, file⟩ := List.mem_filterMap.mp matching
  cases entry with
  | file content time =>
      cases file
      exact ⟨_, stored⟩
  | directory => cases file

theorem mem_ancestors_self (path : Path) : path ∈ path.ancestors := by
  unfold Path.ancestors
  cases path.text.length with
  | zero => simp [Path.ancestorsWithin]
  | succ fuel =>
      rw [Path.ancestorsWithin]
      split <;> simp

theorem time?_write {path other : Path} (content : String) (time : Time)
    (apart : other ∉ (memory.plain path).ancestors) :
    (memory.write path content time).time? other = memory.time? other := by
  have above : other ∉ (memory.plain path).ancestors.drop 1 := fun member =>
    apart (List.mem_of_mem_drop member)
  have differs : other ≠ memory.plain path := by
    rintro rfl
    exact apart (mem_ancestors_self _)
  simp only [time?, entry?_write, above, differs, if_false]

theorem time?_setModified {next : Memory} {path : Path} {time : Time}
    (changed : memory.setModified path time = .ok next) (other : Path) :
    next.time? other = if other = memory.plain path then some time else memory.time? other := by
  rcases setModified_eq memory path time with ⟨content, old, _, next', set, _, entries⟩ | ⟨_, failed⟩
  · rw [set] at changed
    cases changed
    simp only [time?, entry?, entries, lookup_put]
    by_cases same : other = memory.plain path <;> simp [same]
  · rw [failed] at changed
    cases changed

end Memory

namespace Session

/-- A step changes the files, by a path that does not climb above the root, or registers with the
tracker that remembers. -/
def Watches (session : Session) : Step → Prop
  | .write path _ _ => ¬ session.memory.Climbs path
  | .setCwd path => ¬ session.memory.Climbs path
  | .setModified path _ => ¬ session.memory.Climbs path
  | .register _ .recording => True
  | _ => False

/-- The states before the steps that are performed one after another. -/
def course : Session → List Step → List (Session × Step)
  | _, [] => []
  | session, step :: rest => (session, step) :: (session.perform step).session.course rest

def after (session : Session) (steps : List Step) : Session :=
  steps.foldl (fun session step => (session.perform step).session) session

def registeredBy (session : Session) (step : Step) : List Path :=
  match (session.perform step).answer with
  | .registered paths => paths
  | _ => []

/-- What steps register, each path with the files as they were at that moment. -/
def notes (session : Session) (steps : List Step) : List (Memory × Path) :=
  (session.course steps).flatMap fun (moment, step) =>
    (moment.registeredBy step).map fun path => (moment.memory, path)

/-- Something that was registered is stale. -/
def isStale (session : Session) : Bool := session.registrations.isInvalidated session.files

/-- The tracker remembers certain notes, and only those. -/
structure Tallies (session : Session) (notes : List (Memory × Path)) : Prop where
  reached : Memory.Reached (fun memory path => ¬ memory.Climbs path) session.memory
  faultless : session.faults = []
  paths : session.registrations.paths = notes.map Prod.snd
  keys : session.registrations.keys =
    notes.map fun (moment, path) => (⟨path⟩, moment.time? path)
  settled : ∀ path ∈ session.registrations.paths, path.IsPlain ∧ path.isAbsolute = true

section Performing

variable {session : Session} {path : Path} {time : Time}

theorem perform_write (session : Session) (path : Path) (content : String) (time : Time) :
    session.perform (.write path content time) =
      ⟨.done, [], { session with memory := session.memory.write path content time }⟩ := rfl

theorem perform_setCwd (session : Session) (path : Path) :
    session.perform (.setCwd path) =
      ⟨.done, [], { session with memory := session.memory.setCwd path }⟩ := rfl

theorem perform_setModified {next : Memory}
    (changed : session.memory.setModified path time = .ok next) :
    session.perform (.setModified path time) = ⟨.done, [], { session with memory := next }⟩ := by
  simp only [perform, changed]

theorem perform_setModified_error {error : FileError}
    (failed : session.memory.setModified path time = .error error) :
    session.perform (.setModified path time) = session.tell (.fileError error) := by
  simp only [perform, failed]

theorem perform_register (session : Session) (patterns : List String) :
    session.perform (.register patterns .recording) = session.register patterns .recording := rfl

/-- A change of the files answers nothing that is registered. -/
@[simp]
theorem registeredBy_change (session : Session) :
    (∀ path content time, session.registeredBy (.write path content time) = []) ∧
    (∀ path, session.registeredBy (.setCwd path) = []) ∧
    ∀ path time, session.registeredBy (.setModified path time) = [] := by
  refine ⟨fun _ _ _ => rfl, fun _ => rfl, ?_⟩
  intro path time
  cases changed : session.memory.setModified path time with
  | ok next => rw [registeredBy, perform_setModified changed]
  | error error =>
      rw [registeredBy, perform_setModified_error changed]
      rfl

end Performing

section Tallying

variable {session : Session} {notes : List (Memory × Path)}

theorem files_eq (faultless : session.faults = []) :
    session.files = session.memory.fileSystem := by
  rw [files, faultless]
  rfl

/-- A registration in memory does not fail; it notes the paths that it answers. -/
theorem register_recording (faultless : session.faults = []) (patterns : List String) :
    ∃ paths, (session.register patterns .recording).answer = .registered paths ∧
      (∀ path ∈ paths, ∃ entry, (path, entry) ∈ session.memory.entries) ∧
      (session.register patterns .recording).session =
        { session with
          registrations :=
            { paths := session.registrations.paths ++ paths
              keys := session.registrations.keys ++
                paths.map fun path => (⟨path⟩, (session.memory.modified path).toOption) } } := by
  have expands : ∀ pattern ∈ patterns,
      Dependency.Expands session.memory.fileSystem pattern := fun pattern _ => ⟨_, rfl⟩
  obtain ⟨paths, registered, state⟩ :=
    Dependency.register_expands Registrations.tracker expands session.registrations
  have globbed : ∀ path ∈ paths, ∃ entry, (path, entry) ∈ session.memory.entries := by
    refine Dependency.register_globbed ?_ registered
    intro pattern found answer path member
    cases answer
    exact Memory.mem_glob member
  refine ⟨paths, ?_, globbed, ?_⟩
  · simp only [register, files_eq faultless, registered, register.answerOf]
  · simp only [register, files_eq faultless, state, Dependency.foldl_registerPath]
    rfl

theorem Tallies.plain (tallies : session.Tallies notes) {path : Path}
    (member : path ∈ session.registrations.paths) : session.memory.plain path = path := by
  obtain ⟨plain, absolute⟩ := tallies.settled path member
  exact Memory.plain_of_plain tallies.reached.plain.1 plain absolute

theorem Tallies.register (tallies : session.Tallies notes) (patterns : List String) :
    (session.perform (.register patterns .recording)).session.Tallies
      (notes ++ (session.registeredBy (.register patterns .recording)).map fun path =>
        (session.memory, path)) := by
  obtain ⟨paths, answer, globbed, next⟩ := register_recording tallies.faultless patterns
  have answered : session.registeredBy (.register patterns .recording) = paths := by
    simp only [registeredBy, perform, answer]
  have settled : ∀ path ∈ paths, path.IsPlain ∧ path.isAbsolute = true := by
    intro path member
    obtain ⟨entry, stored⟩ := globbed path member
    exact tallies.reached.absolute.2 _ stored
  have keyed : (paths.map fun path =>
        ((⟨path⟩ : InvalidationKey), (session.memory.modified path).toOption)) =
      paths.map fun path => (⟨path⟩, session.memory.time? path) := by
    apply List.map_congr_left
    intro path member
    obtain ⟨plain, absolute⟩ := settled path member
    rw [Memory.modified_eq, Memory.plain_of_plain tallies.reached.plain.1 plain absolute]
  rw [answered, perform, next]
  constructor
  · exact tallies.reached
  · exact tallies.faultless
  · simp [tallies.paths, Function.comp_def]
  · simp [tallies.keys, keyed, Function.comp_def]
  · intro path member
    rcases List.mem_append.mp member with old | new
    · exact tallies.settled path old
    · exact settled path new

/-- Another memory is no matter of the tracker. -/
theorem Tallies.move (tallies : session.Tallies notes) {memory : Memory}
    (reached : Memory.Reached (fun memory path => ¬ memory.Climbs path) memory) :
    ({ session with memory } : Session).Tallies notes :=
  ⟨reached, tallies.faultless, tallies.paths, tallies.keys, tallies.settled⟩

/-- Every step adds to the notes what it registers. -/
theorem Tallies.perform (tallies : session.Tallies notes) {step : Step}
    (watches : session.Watches step) :
    (session.perform step).session.Tallies
      (notes ++ (session.registeredBy step).map fun path => (session.memory, path)) := by
  cases step with
  | write path content time =>
      have next := tallies.move (tallies.reached.write watches content time)
      simpa [perform_write] using next
  | setCwd path =>
      have next := tallies.move (tallies.reached.setCwd watches)
      simpa [perform_setCwd] using next
  | setModified path time =>
      cases changed : session.memory.setModified path time with
      | ok memory =>
          have next := tallies.move (tallies.reached.setModified watches changed)
          simpa [perform_setModified changed] using next
      | error error => simpa [perform_setModified_error changed, tell] using tallies
  | register patterns tracker =>
      cases tracker with
      | recording => exact tallies.register patterns
      | tracing => cases watches
  | _ => cases watches

/-- The notes of a run are those of its steps. -/
theorem Tallies.after {steps : List Step} (tallies : session.Tallies notes)
    (watches : ∀ moment ∈ session.course steps, moment.1.Watches moment.2) :
    (session.after steps).Tallies (notes ++ session.notes steps) := by
  induction steps generalizing session notes with
  | nil => simpa [Session.notes, course, Session.after] using tallies
  | cons step rest ih =>
      have first := tallies.perform (watches (session, step) (by simp [course]))
      have later := ih first fun moment member => watches moment (by simp [course, member])
      rw [List.append_assoc] at later
      exact later

theorem Tallies.start : Tallies {} [] := ⟨.start, rfl, rfl, rfl, by simp⟩

end Tallying

section Staleness

variable {session : Session} {notes : List (Memory × Path)}

/-- Something is stale exactly if some path that was noted has another time than it had. -/
theorem Tallies.stale_iff (tallies : session.Tallies notes) :
    session.isStale = true ↔
      ∃ note ∈ notes, session.memory.time? note.2 ≠ note.1.time? note.2 := by
  have value : ∀ note ∈ notes,
      (⟨note.2⟩ : InvalidationKey).value session.files = session.memory.time? note.2 := by
    intro note member
    have registered : note.2 ∈ session.registrations.paths := by
      rw [tallies.paths]
      exact List.mem_map_of_mem member
    rw [InvalidationKey.value, files_eq tallies.faultless]
    exact (Memory.modified_eq _ _).trans (by rw [tallies.plain registered])
  simp only [isStale, Registrations.isInvalidated, tallies.keys, List.any_map, List.any_eq_true,
    Function.comp_apply, bne_iff_ne]
  constructor
  · rintro ⟨note, member, differs⟩
    exact ⟨note, member, value note member ▸ differs⟩
  · rintro ⟨note, member, differs⟩
    exact ⟨note, member, (value note member).symm ▸ differs⟩

/-- What leaves the times of the registered paths as they are makes nothing stale or fresh. -/
theorem Tallies.isStale_congr {other : Session} {more : List (Memory × Path)}
    (tallies : session.Tallies notes) (next : other.Tallies (notes ++ more))
    (same : ∀ path ∈ session.registrations.paths,
      other.memory.time? path = session.memory.time? path)
    (current : ∀ note ∈ more, other.memory.time? note.2 = note.1.time? note.2) :
    other.isStale = session.isStale := by
  rw [Bool.eq_iff_iff, tallies.stale_iff, next.stale_iff]
  have registered : ∀ note ∈ notes, note.2 ∈ session.registrations.paths := by
    intro note member
    rw [tallies.paths]
    exact List.mem_map_of_mem member
  constructor
  · rintro ⟨note, member, differs⟩
    rcases List.mem_append.mp member with old | new
    · exact ⟨note, old, same _ (registered note old) ▸ differs⟩
    · exact absurd (current note new) differs
  · rintro ⟨note, member, differs⟩
    exact ⟨note, by simp [member], (same _ (registered note member)).symm ▸ differs⟩

end Staleness

/-- A file whose time is set has that time, and all else is as it was. -/
theorem time?_perform_setModified {session : Session} {path : Path} {content : String} {old : Time}
    (file : session.memory.entry? (session.memory.plain path) = some (.file content old))
    (time : Time) :
    let next := (session.perform (.setModified path time)).session
    next.memory.cwd = session.memory.cwd ∧
    next.memory.entry? (session.memory.plain path) = some (.file content time) ∧
    ∀ other, next.memory.time? other =
      if other = session.memory.plain path then some time else session.memory.time? other := by
  rcases Memory.setModified_eq session.memory path time with
    ⟨content', _, found, next, changed, cwd, entries⟩ | ⟨none, _⟩
  · obtain ⟨rfl, rfl⟩ : content = content' ∧ old = _ := by simpa [file] using found
    rw [perform_setModified changed]
    refine ⟨cwd, ?_, Memory.time?_setModified changed⟩
    simp [entries, Memory.lookup_put, Memory.entry?]
  · exact absurd file (none content old)

/-- Setting the time of a registered file makes stale what was not, unless it is the time that the
file has; putting the time back makes it fresh. -/
theorem Tallies.putBack {session : Session} {notes : List (Memory × Path)}
    (tallies : session.Tallies notes) {path : Path} {content : String} {old : Time}
    (stays : ¬ session.memory.Climbs path)
    (file : session.memory.entry? (session.memory.plain path) = some (.file content old))
    (fresh : session.isStale = false) (time : Time) :
    let changed := (session.perform (.setModified path time)).session
    (changed.isStale = true ↔
      session.memory.plain path ∈ session.registrations.paths ∧ time ≠ old) ∧
      (changed.perform (.setModified path old)).session.isStale = false := by
  intro changed
  obtain ⟨cwd, stored, times⟩ := time?_perform_setModified file time
  have plain : changed.memory.plain path = session.memory.plain path := by
    rw [Memory.plain, cwd, Memory.plain]
  have stays' : ¬ changed.memory.Climbs path := by
    rw [Memory.Climbs, Memory.home, cwd]
    exact stays
  rw [← plain] at stored
  obtain ⟨_, _, again⟩ := time?_perform_setModified stored old
  have held : session.memory.time? (session.memory.plain path) = some old := by
    rw [Memory.time?, file]
  have next : changed.Tallies notes := by
    simpa using tallies.perform (show session.Watches (.setModified path time) from stays)
  have back : (changed.perform (.setModified path old)).session.Tallies (notes ++ []) := by
    simpa using next.perform (show changed.Watches (.setModified path old) from stays')
  have noted : ∀ note ∈ notes, session.memory.time? note.2 = note.1.time? note.2 := by
    intro note member
    by_contra differs
    rw [tallies.stale_iff.mpr ⟨note, member, differs⟩] at fresh
    cases fresh
  constructor
  · rw [next.stale_iff, tallies.paths]
    constructor
    · rintro ⟨note, member, differs⟩
      rw [times, ← noted note member] at differs
      split at differs
      · rename_i same
        rw [same, held] at differs
        exact ⟨same ▸ List.mem_map_of_mem member, fun same => differs (congrArg some same)⟩
      · exact absurd rfl differs
    · rintro ⟨registered, differs⟩
      obtain ⟨note, member, same⟩ := List.mem_map.mp registered
      refine ⟨note, member, ?_⟩
      rw [times, if_pos same, ← noted note member, same, held]
      exact fun same => differs (Option.some.inj same)
  · rw [tallies.isStale_congr back _ (by simp), fresh]
    intro other member
    rw [again, times, plain]
    split
    · rename_i same
      rw [same, held]
    · rfl

/-- What a session tells of staleness that has registered these paths at the moments in `notes`. -/
structure IsWatching (session : Session) (registered : List Path) (notes : List (Memory × Path)) :
    Prop where
  paths : session.registrations.paths = registered
  keys : session.registrations.keys.length = registered.length
  /-- Some registered path has another time than at the moment of its registration. -/
  stale : session.isStale = true ↔
    ∃ note ∈ notes, session.memory.time? note.2 ≠ note.1.time? note.2
  setCwd : ∀ path, ¬ session.memory.Climbs path →
    (session.perform (.setCwd path)).session.isStale = session.isStale
  /-- A file above no registered path is written. -/
  write : ∀ path content time, ¬ session.memory.Climbs path →
    (∀ other ∈ registered, other ∉ (session.memory.plain path).ancestors) →
      (session.perform (.write path content time)).session.isStale = session.isStale
  setModified : ∀ path time, ¬ session.memory.Climbs path →
    session.memory.plain path ∉ registered →
      (session.perform (.setModified path time)).session.isStale = session.isStale
  register : ∀ patterns,
    (session.perform (.register patterns .recording)).session.isStale = session.isStale
  /-- The time of a file is changed, and put back. -/
  putBack : ∀ path content old time, ¬ session.memory.Climbs path →
    session.memory.entry? (session.memory.plain path) = some (.file content old) →
      session.isStale = false →
        let changed := (session.perform (.setModified path time)).session
        (changed.isStale = true ↔ session.memory.plain path ∈ registered ∧ time ≠ old) ∧
          (changed.perform (.setModified path old)).session.isStale = false

/-- Whatever is registered while files are written, their times are set and the working directory
changes, the tracker remembers what was registered in that order, and it is stale exactly if some
registered path has another time than at the moment of that registration.  So it is left as it is
by a change of the working directory, by changes of other files and by further registrations, and
a time that is put back makes fresh what the change had made stale. -/
theorem isStale_iff (steps : List Step)
    (watches : ∀ moment ∈ course {} steps, moment.1.Watches moment.2) :
    (after {} steps).IsWatching
      ((course {} steps).flatMap fun moment => moment.1.registeredBy moment.2)
      (notes {} steps) := by
  let session := after {} steps
  have tallies : session.Tallies (notes {} steps) := Tallies.start.after watches
  have registered : session.registrations.paths =
      (course {} steps).flatMap fun moment => moment.1.registeredBy moment.2 := by
    rw [tallies.paths, notes, List.map_flatMap]
    simp [Function.comp_def]
  rw [← registered]
  constructor
  case paths => rfl
  case keys =>
    change session.registrations.keys.length = _
    simp [tallies.paths, tallies.keys]
  case stale => exact tallies.stale_iff
  case setCwd =>
    intro path stays
    have next := tallies.perform (show session.Watches (.setCwd path) from stays)
    exact tallies.isStale_congr next (fun _ _ => rfl) (by simp)
  case write =>
    intro path content time stays apart
    have next := tallies.perform (show session.Watches (.write path content time) from stays)
    refine tallies.isStale_congr next ?_ (by simp)
    intro other member
    exact Memory.time?_write content time (apart other member)
  case setModified =>
    intro path time stays apart
    have next := tallies.perform (show session.Watches (.setModified path time) from stays)
    refine tallies.isStale_congr next ?_ (by simp)
    intro other member
    cases changed : session.memory.setModified path time with
    | ok memory =>
        rw [perform_setModified changed, Memory.time?_setModified changed, if_neg]
        rintro rfl
        exact apart member
    | error error => rw [perform_setModified_error changed, tell]
  case register =>
    intro patterns
    have next := tallies.register patterns
    obtain ⟨_, _, _, same⟩ := register_recording tallies.faultless patterns
    refine tallies.isStale_congr next ?_ ?_
    · intro path member
      rw [perform_register, same]
    · intro note member
      obtain ⟨path, _, rfl⟩ := List.mem_map.mp member
      rw [perform_register, same]
  case putBack =>
    intro path content old time stays file fresh
    exact tallies.putBack stays file fresh time

/-- A file that is registered again after a change does not hide that it was registered before. -/
theorem isStale_iff_again :
    let steps : List Step :=
      [.write ⟨"/project/a.css"⟩ "" 1, .setCwd ⟨"project"⟩, .register ["*.css"] .recording,
        .setModified ⟨"./a.css"⟩ 2, .register ["/**/*.css"] .recording]
    (∀ moment ∈ course {} steps, moment.1.Watches moment.2) ∧
      (after {} steps).registrations.paths = [⟨"/project/a.css"⟩, ⟨"/project/a.css"⟩] ∧
      (after {} steps).isStale = true := by
  intro steps
  have watches : ∀ moment ∈ course {} steps, moment.1.Watches moment.2 := by
    simp only [steps, course, List.forall_mem_cons]
    refine ⟨?_, ?_, trivial, ?_, trivial, by simp⟩
    all_goals exact Memory.not_climbs (by decide)
  have watching := isStale_iff steps watches
  refine ⟨watches, ?_, ?_⟩
  · rw [watching.paths]
    decide +kernel
  · rw [watching.stale]
    decide +kernel

end Session

end StyleInline

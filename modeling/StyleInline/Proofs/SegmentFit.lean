import Mathlib.Data.List.Forall2

/-!
# What fits a pattern

A name fits a segment of a pattern symbol by symbol, where a star stands for any symbols; the names
of a path fit a pattern segment by segment, where a wide segment stands for any names.  Symbols are
characters for one matcher and octets for the other one.
-/

namespace StyleInline.Glob

/-- Names fit segments one after another. -/
inductive Spans {σ ν : Type} (wide : σ → Prop) (fits : σ → ν → Prop) : List σ → List ν → Prop where
  | nil : Spans wide fits [] []
  | name {segment : σ} {name : ν} {segments : List σ} {names : List ν} (narrow : ¬ wide segment)
      (fit : fits segment name) (rest : Spans wide fits segments names) :
      Spans wide fits (segment :: segments) (name :: names)
  | stop {segment : σ} {segments : List σ} {names : List ν} (isWide : wide segment)
      (rest : Spans wide fits segments names) : Spans wide fits (segment :: segments) names
  | skip {segment : σ} {name : ν} {segments : List σ} {names : List ν} (isWide : wide segment)
      (rest : Spans wide fits (segment :: segments) names) :
      Spans wide fits (segment :: segments) (name :: names)

namespace Spans

variable {σ ν : Type} {wide : σ → Prop} {fits : σ → ν → Prop}
variable {segment : σ} {segments before behind : List σ} {names : List ν}

theorem nil_iff : Spans wide fits [] names ↔ names = [] := by
  constructor
  · rintro ⟨⟩
    rfl
  · rintro rfl
    exact .nil

theorem narrow_iff (narrow : ¬ wide segment) :
    Spans wide fits (segment :: segments) names ↔
      ∃ name rest, names = name :: rest ∧ fits segment name ∧ Spans wide fits segments rest := by
  constructor
  · intro spans
    cases spans with
    | name _ fit rest => exact ⟨_, _, rfl, fit, rest⟩
    | stop isWide _ => exact absurd isWide narrow
    | skip isWide _ => exact absurd isWide narrow
  · rintro ⟨name, rest, rfl, fit, spans⟩
    exact .name narrow fit spans

theorem wide_iff (isWide : wide segment) :
    Spans wide fits (segment :: segments) names ↔
      ∃ front back, names = front ++ back ∧ Spans wide fits segments back := by
  constructor
  · intro spans
    induction names with
    | nil =>
        cases spans with
        | stop _ rest => exact ⟨[], [], rfl, rest⟩
    | cons name names ih =>
        cases spans with
        | name narrow _ _ => exact absurd isWide narrow
        | stop _ rest => exact ⟨[], _, rfl, rest⟩
        | skip _ rest =>
            obtain ⟨front, back, rfl, spans⟩ := ih rest
            exact ⟨name :: front, back, rfl, spans⟩
  · rintro ⟨front, back, rfl, spans⟩
    induction front with
    | nil => exact .stop isWide spans
    | cons name front ih => exact .skip isWide ih

/-- Narrow segments in front stand for as many names. -/
theorem append_iff (narrow : ∀ segment ∈ before, ¬ wide segment) :
    Spans wide fits (before ++ behind) names ↔
      ∃ front back, names = front ++ back ∧ List.Forall₂ fits before front ∧
        Spans wide fits behind back := by
  induction before generalizing names with
  | nil => simp
  | cons segment before ih =>
      rw [List.cons_append, narrow_iff (narrow segment (by simp))]
      simp only [ih fun other member => narrow other (by simp [member])]
      constructor
      · rintro ⟨name, rest, rfl, fit, front, back, rfl, fits, spans⟩
        exact ⟨name :: front, back, rfl, .cons fit fits, spans⟩
      · rintro ⟨front, back, rfl, fits, spans⟩
        cases fits with
        | cons fit fits => exact ⟨_, _, rfl, fit, _, back, rfl, fits, spans⟩

theorem all_narrow_iff (narrow : ∀ segment ∈ segments, ¬ wide segment) :
    Spans wide fits segments names ↔ List.Forall₂ fits segments names := by
  have split := @append_iff _ _ wide fits segments [] names narrow
  rw [List.append_nil] at split
  simp [split, nil_iff]

/-- Wide segments in a row stand for as many names as one of them. -/
theorem run_iff {run : List σ} (some : run ≠ []) (isWide : ∀ segment ∈ run, wide segment) :
    Spans wide fits (run ++ behind) names ↔
      ∃ front back, names = front ++ back ∧ Spans wide fits behind back := by
  induction run generalizing names with
  | nil => exact absurd rfl some
  | cons segment run ih =>
      rw [List.cons_append, wide_iff (isWide segment (by simp))]
      by_cases last : run = []
      · simp [last]
      simp only [ih last fun other member => isWide other (by simp [member])]
      constructor
      · rintro ⟨front, _, rfl, middle, back, rfl, spans⟩
        exact ⟨front ++ middle, back, by simp, spans⟩
      · rintro ⟨front, back, rfl, spans⟩
        exact ⟨front, back, rfl, [], back, rfl, spans⟩

theorem congr {fits' : σ → ν → Prop}
    (same : ∀ segment ∈ segments, ∀ name ∈ names, fits segment name ↔ fits' segment name) :
    Spans wide fits segments names ↔ Spans wide fits' segments names := by
  induction segments generalizing names with
  | nil => simp [nil_iff]
  | cons segment segments ih =>
      by_cases isWide : wide segment
      · simp only [wide_iff isWide]
        constructor
        all_goals
          rintro ⟨front, back, rfl, spans⟩
          have rest := @ih back fun other member name inside =>
            same other (by simp [member]) name (by simp [inside])
          exact ⟨front, back, rfl, by simpa [rest] using spans⟩
      · simp only [narrow_iff isWide]
        constructor
        all_goals
          rintro ⟨name, back, rfl, fit, spans⟩
          have first := same segment (by simp) name (by simp)
          have rest := @ih back fun other member name inside =>
            same other (by simp [member]) name (by simp [inside])
          exact ⟨name, back, rfl, by simpa [first] using fit, by simpa [rest] using spans⟩

theorem map_iff {τ : Type} {wide' : τ → Prop} {fits' : τ → ν → Prop} (spell : τ → σ)
    (sameWide : ∀ segment, wide (spell segment) ↔ wide' segment)
    (same : ∀ segment, ¬ wide' segment → ∀ name, fits (spell segment) name ↔ fits' segment name)
    (segments : List τ) :
    Spans wide fits (segments.map spell) names ↔ Spans wide' fits' segments names := by
  induction segments generalizing names with
  | nil => simp [nil_iff]
  | cons segment segments ih =>
      rw [List.map_cons]
      by_cases isWide : wide' segment
      · rw [wide_iff isWide, wide_iff ((sameWide segment).mpr isWide)]
        simp only [ih]
      · rw [narrow_iff isWide, narrow_iff (mt (sameWide segment).mp isWide)]
        simp only [ih, same segment isWide]

theorem map_names_iff {τ : Type} (spell : τ → ν) (names : List τ) :
    Spans wide fits segments (names.map spell) ↔
      Spans wide (fun segment name => fits segment (spell name)) segments names := by
  induction segments generalizing names with
  | nil => simp [nil_iff]
  | cons segment segments ih =>
      by_cases isWide : wide segment
      · simp only [wide_iff isWide, List.map_eq_append_iff]
        constructor
        · rintro ⟨_, _, ⟨front, back, rfl, rfl, rfl⟩, spans⟩
          exact ⟨front, back, rfl, (ih back).mp spans⟩
        · rintro ⟨front, back, rfl, spans⟩
          exact ⟨_, _, ⟨front, back, rfl, rfl, rfl⟩, (ih back).mpr spans⟩
      · simp only [narrow_iff isWide, List.map_eq_cons_iff]
        constructor
        · rintro ⟨_, _, ⟨name, rest, rfl, rfl, rfl⟩, fit, spans⟩
          exact ⟨name, rest, rfl, fit, (ih rest).mp spans⟩
        · rintro ⟨name, rest, rfl, fit, spans⟩
          exact ⟨_, _, ⟨name, rest, rfl, rfl, rfl⟩, fit, (ih rest).mpr spans⟩

end Spans

/-- A name fits the symbols of a segment, in which a star stands for any symbols and a mark for any
one of them. -/
inductive Matches {α : Type} (star any : α) : List α → List α → Prop where
  | done : Matches star any [] []
  | literal {c : α} {symbols name : List α} (solid : c ≠ star ∧ c ≠ any)
      (rest : Matches star any symbols name) : Matches star any (c :: symbols) (c :: name)
  | any {c : α} {symbols name : List α} (rest : Matches star any symbols name) :
      Matches star any (any :: symbols) (c :: name)
  | stop {symbols name : List α} (rest : Matches star any symbols name) :
      Matches star any (star :: symbols) name
  | eat {c : α} {symbols name : List α} (rest : Matches star any (star :: symbols) name) :
      Matches star any (star :: symbols) (c :: name)

namespace Matches

variable {α : Type} {star any c : α} {symbols name : List α}

theorem nil_iff : Matches star any [] name ↔ name = [] := by
  constructor
  · rintro ⟨⟩
    rfl
  · rintro rfl
    exact .done

theorem literal_iff (solid : c ≠ star ∧ c ≠ any) :
    Matches star any (c :: symbols) name ↔
      ∃ rest, name = c :: rest ∧ Matches star any symbols rest := by
  constructor
  · intro fits
    cases fits with
    | literal _ rest => exact ⟨_, rfl, rest⟩
    | any rest => exact absurd rfl solid.2
    | stop rest => exact absurd rfl solid.1
    | eat rest => exact absurd rfl solid.1
  · rintro ⟨rest, rfl, fits⟩
    exact .literal solid fits

theorem any_iff (apart : any ≠ star) :
    Matches star any (any :: symbols) name ↔
      ∃ c rest, name = c :: rest ∧ Matches star any symbols rest := by
  constructor
  · intro fits
    cases fits with
    | literal solid _ => exact absurd rfl solid.2
    | any rest => exact ⟨_, _, rfl, rest⟩
    | stop rest => exact absurd rfl apart
    | eat rest => exact absurd rfl apart
  · rintro ⟨c, rest, rfl, fits⟩
    exact .any fits

theorem star_iff :
    Matches star any (star :: symbols) name ↔
      ∃ front back, name = front ++ back ∧ Matches star any symbols back := by
  constructor
  · intro fits
    generalize spelled : star :: symbols = whole at fits
    induction fits with
    | done => cases spelled
    | literal solid _ _ =>
        cases spelled
        exact absurd rfl solid.1
    | any rest _ =>
        cases spelled
        exact ⟨[_], _, rfl, rest⟩
    | stop rest _ =>
        cases spelled
        exact ⟨[], _, rfl, rest⟩
    | eat rest ih =>
        obtain ⟨front, back, rfl, fits⟩ := ih spelled
        exact ⟨_ :: front, back, rfl, fits⟩
  · rintro ⟨front, back, rfl, fits⟩
    induction front with
    | nil => exact .stop fits
    | cons c front ih => exact .eat ih

/-- A name holds the literals of the symbols that it fits. -/
theorem literal_mem (fits : Matches star any symbols name) (solid : c ≠ star ∧ c ≠ any)
    (member : c ∈ symbols) : c ∈ name := by
  induction fits with
  | done => exact member
  | literal _ _ ih =>
      rcases List.mem_cons.mp member with rfl | later
      · exact List.mem_cons_self
      · exact List.mem_cons_of_mem _ (ih later)
  | any _ ih =>
      rcases List.mem_cons.mp member with rfl | later
      · exact absurd rfl solid.2
      · exact List.mem_cons_of_mem _ (ih later)
  | stop _ ih =>
      rcases List.mem_cons.mp member with rfl | later
      · exact absurd rfl solid.1
      · exact ih later
  | eat _ ih => exact List.mem_cons_of_mem _ (ih member)

end Matches

end StyleInline.Glob

import Mathlib.Data.List.Forall2
import StyleInline.Config

/-!
# Decoders that follow one another

A decoder follows another one if it reads all that the other one reads, equally far, and makes
something of it that is related.  Records whose fields follow one another do so as a whole.  So what
is written in one field of a record can be told beside what the record is read as.
-/

namespace StyleInline.Json

namespace Read

variable {α β γ δ : Type}

theorem bind_eq_ok {first : Read α} {rest : α → Read β} {cursor after : Cursor} {found : β} :
    (first >>= rest) cursor = .ok found after ↔
      ∃ value middle, first cursor = .ok value middle ∧ rest value middle = .ok found after := by
  change EStateM.bind first rest cursor = _ ↔ _
  rw [EStateM.bind]
  cases first cursor with
  | ok value middle =>
      constructor
      · exact fun read => ⟨value, middle, rfl, read⟩
      · rintro ⟨_, _, same, read⟩
        cases same
        exact read
  | error fault middle =>
      constructor
      · intro impossible
        cases impossible
      · rintro ⟨_, _, impossible, _⟩
        cases impossible

theorem failAhead_ne_ok {reason : Reason} (cursor : Cursor) (found : α) (after : Cursor) :
    failAhead reason cursor ≠ .ok found after := by
  obtain ⟨chars, place⟩ := cursor
  intro impossible
  cases chars <;> cases impossible

/-- Reads what a reader reads, behind which the text has to end. -/
def toEnd (reader : Read α) : Read α := do
  let found ← reader
  match ← peekBehindGap with
  | none => return found
  | some _ => failAhead .trailingCharacters

def finish : EStateM.Result Fault Cursor α → Except Fault α
  | .ok found _ => .ok found
  | .error fault _ => .error fault

theorem whole_eq (reader : Read α) (content : String) :
    whole reader content = finish (reader.toEnd ⟨content.toList, ⟨1, 0⟩⟩) := rfl

theorem whole_eq_ok {reader : Read α} {content : String} {found : α} :
    whole reader content = .ok found ↔
      ∃ after, reader.toEnd ⟨content.toList, ⟨1, 0⟩⟩ = .ok found after := by
  rw [whole_eq]
  cases reader.toEnd ⟨content.toList, ⟨1, 0⟩⟩ with
  | ok value after =>
      constructor
      · intro same
        cases same
        exact ⟨after, rfl⟩
      · rintro ⟨_, same⟩
        cases same
        rfl
  | error fault after =>
      constructor
      · intro impossible
        cases impossible
      · rintro ⟨_, impossible⟩
        cases impossible

/-- What the second reader finds is related to what the first one finds, and is found equally far
in the text. -/
def Follows (relates : α → β → Prop) (first : Read α) (second : Read β) : Prop :=
  ∀ cursor found after, first cursor = .ok found after →
    ∃ found', second cursor = .ok found' after ∧ relates found found'

namespace Follows

theorem refl (reader : Read α) : Follows Eq reader reader :=
  fun _ found _ read => ⟨found, read, rfl⟩

theorem pure {relates : α → β → Prop} {value : α} {value' : β} (related : relates value value') :
    Follows relates (Pure.pure value) (Pure.pure value') := by
  intro cursor found after read
  cases read
  exact ⟨value', rfl, related⟩

/-- Readers that go on with what has been found. -/
theorem bind {relates : α → β → Prop} {relates' : γ → δ → Prop} {first : Read α} {second : Read β}
    {rest : α → Read γ} {rest' : β → Read δ} (follows : Follows relates first second)
    (goesOn : ∀ value value', relates value value' →
      Follows relates' (rest value) (rest' value')) :
    Follows relates' (first >>= rest) (second >>= rest') := by
  intro cursor found after read
  obtain ⟨value, middle, begun, ended⟩ := bind_eq_ok.mp read
  obtain ⟨value', begun', related⟩ := follows cursor value middle begun
  obtain ⟨found', ended', related'⟩ := goesOn value value' related middle found after ended
  exact ⟨found', bind_eq_ok.mpr ⟨value', middle, begun', ended'⟩, related'⟩

/-- Readers that begin alike. -/
theorem behind {relates : β → γ → Prop} (first : Read α) {rest : α → Read β} {rest' : α → Read γ}
    (goesOn : ∀ value, Follows relates (rest value) (rest' value)) :
    Follows relates (first >>= rest) (first >>= rest') := by
  refine (refl first).bind ?_
  rintro value _ rfl
  exact goesOn value

/-- A reader that always fails is followed by every other one. -/
theorem ofFailing {relates : α → β → Prop} {first : Read α} {second : Read β}
    (fails : ∀ cursor found after, first cursor ≠ .ok found after) :
    Follows relates first second :=
  fun cursor found after read => absurd read (fails cursor found after)

theorem placed {relates : α → β → Prop} {first : Read α} {second : Read β}
    (follows : Follows relates first second) (closing : Read Unit) :
    Follows relates (Read.placed closing first) (Read.placed closing second) := by
  intro cursor found after read
  simp only [Read.placed] at read ⊢
  split at read
  next value middle inside =>
    obtain ⟨value', inside', related⟩ := follows cursor value middle inside
    split at read
    next _ behind closed =>
      cases read
      refine ⟨value', ?_, related⟩
      simp only [inside', closed]
    next => cases read
  next fault middle inside =>
    split at read
    next => cases read
    next => split at read <;> cases read

theorem nested {relates : α → β → Prop} {body : Nat → Read α} {body' : Nat → Read β}
    (follows : ∀ depth, Follows relates (body depth) (body' depth)) (depth : Nat)
    (closing : Read Unit) :
    Follows relates (Read.nested depth closing body) (Read.nested depth closing body') :=
  by
  rw [Read.nested, Read.nested]
  split
  · exact behind _ fun _ => behind _ fun _ => (follows (depth - 1)).placed closing
  · exact behind _ fun _ => (follows (depth - 1)).placed closing

/-- A whole text is read by both. -/
theorem whole {relates : α → β → Prop} {first : Read α} {second : Read β}
    (follows : Follows relates first second) {content : String} {found : α}
    (read : Read.whole first content = .ok found) :
    ∃ found', Read.whole second content = .ok found' ∧ relates found found' := by
  obtain ⟨after, inside⟩ := whole_eq_ok.mp read
  have toEnd : Follows relates first.toEnd second.toEnd := by
    refine follows.bind fun value value' related => behind _ fun next => ?_
    cases next with
    | none => exact pure related
    | some c => exact ofFailing failAhead_ne_ok
  obtain ⟨found', inside', related⟩ := toEnd _ found after inside
  exact ⟨found', whole_eq_ok.mpr ⟨after, inside'⟩, related⟩

end Follows

end Read

namespace Decoder

variable {σ τ α : Type} {relates : σ → τ → Prop}

theorem mismatch_ne_ok {depth : Nat} {expected : String} (cursor : Cursor) (found : α)
    (after : Cursor) : mismatch depth expected cursor ≠ .ok found after := by
  intro read
  obtain ⟨next, middle, _, read⟩ := Read.bind_eq_ok.mp read
  split at read
  · cases read
  · cases read
  · exact Read.failAhead_ne_ok _ _ _ read
  · obtain ⟨_, _, _, read⟩ := Read.bind_eq_ok.mp read
    cases read

structure Field.Follows (relates : σ → τ → Prop) (field : Field σ) (field' : Field τ) : Prop where
  key : field'.key = field.key
  change : ∀ depth, Read.Follows
    (fun change change' =>
      ∀ record record', relates record record' → relates (change record) (change' record'))
    (field.change.ofText depth) (field'.change.ofText depth)

variable {fields : List (Field σ)} {fields' : List (Field τ)}

theorem find?_follows (follows : List.Forall₂ (Field.Follows relates) fields fields')
    (key : String) :
    Option.Rel (Field.Follows relates) (fields.find? (·.key == key))
      (fields'.find? (·.key == key)) := by
  induction follows with
  | nil => exact .none
  | @cons field field' rest rest' first _ ih =>
      rw [List.find?_cons, List.find?_cons, first.key]
      cases field.key == key with
      | true => exact .some first
      | false => exact ih

theorem membersWithin_follows (follows : List.Forall₂ (Field.Follows relates) fields fields')
    (depth fuel : Nat) (seen : List String) {record : σ} {record' : τ}
    (related : relates record record') :
    Read.Follows relates (membersWithin fields depth fuel seen record)
      (membersWithin fields' depth fuel seen record') := by
  induction fuel generalizing seen record record' with
  | zero => exact .pure related
  | succ fuel ih =>
      refine .behind _ fun key => ?_
      cases key with
      | none => exact .pure related
      | some key =>
          have both := find?_follows follows key
          dsimp only
          generalize fields.find? (·.key == key) = found at both ⊢
          generalize fields'.find? (·.key == key) = found' at both ⊢
          cases both with
          | none => exact .behind _ fun _ => .behind _ fun _ => ih _ related
          | some both =>
              have goesOn : Read.Follows relates
                  (do
                    Read.colon
                    let change ← Field.change _ |>.ofText depth
                    membersWithin fields depth fuel (key :: seen) (change record))
                  (do
                    Read.colon
                    let change ← Field.change _ |>.ofText depth
                    membersWithin fields' depth fuel (key :: seen) (change record')) :=
                .behind _ fun _ => (both.change depth).bind fun _ _ changes =>
                  ih _ (changes record record' related)
              dsimp only
              split
              · exact .behind _ fun _ => goesOn
              · exact goesOn

theorem positions_follows (follows : List.Forall₂ (Field.Follows relates) fields fields')
    (depth : Nat) (isFirst : Bool) {record : σ} {record' : τ}
    (related : relates record record') :
    Read.Follows relates (positions depth fields isFirst record)
      (positions depth fields' isFirst record') := by
  induction follows generalizing isFirst record record' with
  | nil => exact .pure related
  | cons first _ ih =>
      refine .behind _ fun more => ?_
      cases more with
      | false => exact .pure related
      | true =>
          exact (first.change depth).bind fun _ _ changes =>
            ih false (changes record record' related)

/-- Records whose fields follow one another follow one another. -/
theorem record_follows (follows : List.Forall₂ (Field.Follows relates) fields fields')
    (name : String) {start : σ} {start' : τ} (related : relates start start') (depth : Nat) :
    Read.Follows relates ((record name fields start).ofText depth)
      ((record name fields' start').ofText depth) := by
  refine .behind _ fun next => ?_
  split
  · exact .nested (fun depth => positions_follows follows depth true related) depth Read.endList
  · exact .nested (fun depth => .behind _ fun left =>
      membersWithin_follows follows depth (left + 1) [] related) depth Read.endObject
  · exact .ofFailing mismatch_ne_ok

def raw : Decoder Value := ⟨Read.value, .ok⟩

/-- A field of a record of which only the value of the field with this key is kept, as it is
written. -/
def Field.only (key : String) (field : Field σ) : Field (Option Value) :=
  if field.key = key then Decoder.field key raw fun value _ => some value
  else ⟨field.key, field.change.map fun _ => id⟩

theorem Field.only_of_eq {key : String} (decoder : Decoder α) (set : α → σ → σ) :
    (field key decoder set).only key = field key raw fun value _ => some value :=
  if_pos rfl

theorem Field.only_of_ne {key other : String} (apart : other ≠ key) (decoder : Decoder α)
    (set : α → σ → σ) :
    (field other decoder set).only key = ⟨other, (decoder.map set).map fun _ => id⟩ :=
  if_neg apart

/-- What is written in a field tells what the field is read as. -/
theorem Field.follows_only {key : String} {name : String} {form? : Value → Option α}
    {set : α → σ → σ} {relates : σ → Option Value → Prop}
    (sets : ∀ value found record, form? value = some found →
      relates (set found record) (some value)) :
    Field.Follows relates (field key (oneOf name form?) set)
      ((field key (oneOf name form?) set).only key) := by
  rw [Field.only_of_eq]
  refine ⟨rfl, fun depth cursor change after read => ?_⟩
  obtain ⟨found, middle, read, changed⟩ := Read.bind_eq_ok.mp read
  obtain ⟨value, behind, read, formed⟩ := Read.bind_eq_ok.mp read
  cases form : form? value with
  | none =>
      rw [form] at formed
      cases formed
  | some other =>
      rw [form] at formed
      cases formed
      cases changed
      refine ⟨fun _ => some value, Read.bind_eq_ok.mpr ⟨value, _, read, rfl⟩, ?_⟩
      exact fun record _ _ => sets value _ record form

/-- A field with another key changes nothing that is told. -/
theorem Field.follows_only_of_ne {key other : String} (apart : other ≠ key) (decoder : Decoder α)
    {set : α → σ → σ} {relates : σ → Option Value → Prop}
    (keeps : ∀ found record value, relates record value → relates (set found record) value) :
    Field.Follows relates (field other decoder set) ((field other decoder set).only key) := by
  rw [Field.only_of_ne apart]
  refine ⟨rfl, fun depth cursor change after read => ?_⟩
  refine ⟨id, Read.bind_eq_ok.mpr ⟨change, after, read, rfl⟩, ?_⟩
  obtain ⟨found, middle, _, changed⟩ := Read.bind_eq_ok.mp read
  cases changed
  exact fun record value related => keeps found record value related

end Decoder

end StyleInline.Json

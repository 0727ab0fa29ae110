import RowDrop.Proofs.Settings.Overlay

/-!
# What a text of settings gives

A reader of a record does the same on every record: it fails, or it changes the record in one way
(`Uniform`). So a text of settings that is accepted on top of some defaults is accepted on top of
all, and gives some fields their values whatever the others are (`Settings.exists_given`).
-/

namespace RowDrop

namespace Json

variable {σ : Type} {lays : (σ → σ) → Prop}

/-- The reader fails on every record, or changes every record in one of the ways of `lays` and
leaves the same rest. -/
def Uniform (lays : (σ → σ) → Prop) (read : σ → Except Fault (σ × List Char)) : Prop :=
  (∃ fault, ∀ record, read record = .error fault) ∨
    ∃ change rest, lays change ∧ ∀ record, read record = .ok (change record, rest)

/-- The ways of changing a record that can be made one after the other. -/
structure Composes (lays : (σ → σ) → Prop) : Prop where
  id : lays id
  comp {first second : σ → σ} : lays first → lays second → lays fun record => second (first record)

theorem Uniform.error (fault : Fault) : Uniform lays fun _ => .error fault :=
  .inl ⟨fault, fun _ => rfl⟩

theorem Uniform.done (composes : Composes lays) (rest : List Char) :
    Uniform lays fun record => .ok (record, rest) :=
  .inr ⟨_, rest, composes.id, fun _ => rfl⟩

/-- What is read first does not look at the record. -/
theorem Uniform.bind {α : Type} (first : Except Fault α)
    {next : α → σ → Except Fault (σ × List Char)} (h : ∀ a, Uniform lays (next a)) :
    Uniform lays fun record => first >>= fun a => next a record := by
  cases first with
  | error fault => exact .error fault
  | ok a => exact h a

/-- A reader goes on from the record that another one leaves. -/
theorem Uniform.bind_record (composes : Composes lays) {read : σ → Except Fault (σ × List Char)}
    {next : List Char → σ → Except Fault (σ × List Char)} (h : Uniform lays read)
    (hnext : ∀ rest, Uniform lays (next rest)) :
    Uniform lays fun record => read record >>= fun found => next found.2 found.1 := by
  rcases h with ⟨fault, h⟩ | ⟨change, rest, hchange, h⟩
  · refine .inl ⟨fault, fun record => ?_⟩
    simp only [h]
    rfl
  · rcases hnext rest with ⟨fault, hrest⟩ | ⟨change', rest', hchange', hrest⟩
    · refine .inl ⟨fault, fun record => ?_⟩
      simp only [h]
      exact hrest (change record)
    · refine .inr ⟨_, rest', composes.comp hchange hchange', fun record => ?_⟩
      simp only [h]
      exact hrest (change record)

/-- A field that sets what its reader finds does so on every record. -/
theorem Uniform.field_of {α : Type} (name : String)
    (read : List Char → Except Fault (α × List Char)) {set : σ → α → σ}
    (h : ∀ a, lays fun record => set record a) (cs : List Char) :
    Uniform lays fun record => (Field.of name read set).read record cs := by
  refine .bind (read cs) fun found => ?_
  exact .inr ⟨_, found.2, h found.1, fun _ => rfl⟩

section Records

variable {fields : List (Field σ)} (composes : Composes lays)
  (hfields : ∀ field ∈ fields, ∀ cs, Uniform lays fun record => field.read record cs)

include composes hfields

theorem uniform_readMembers (fuel : Nat) (first : Bool) (seen : List String) (cs : List Char) :
    Uniform lays fun record => readMembers fields fuel first seen record cs := by
  induction fuel generalizing first seen cs with
  | zero => exact .error _
  | succ fuel ih =>
    refine .bind (nextKey first cs) fun found => ?_
    obtain ⟨more, rest⟩ := found
    cases more with
    | false => exact .done composes rest
    | true =>
      refine .bind (readText rest) fun found => ?_
      obtain ⟨key, rest⟩ := found
      simp only [readMember]
      cases hfind : fields.find? (·.name = String.ofList key) with
      | none =>
        simp only [bind_assoc, pure_bind]
        exact .bind (passColon rest) fun rest => .bind (passValue rest) fun rest => ih _ _ _
      | some field =>
        split_ifs
        · exact .error _
        · simp only [bind_assoc, pure_bind]
          exact .bind (passColon rest) fun rest =>
            .bind_record composes (hfields field (List.mem_of_find?_eq_some hfind) rest)
              fun rest => ih false (String.ofList key :: seen) rest

theorem uniform_readValues (first : Bool) (cs : List Char) :
    Uniform lays fun record => readValues fields first record cs := by
  induction fields generalizing first cs with
  | nil => exact .bind (endList cs) fun rest => .done composes rest
  | cons field fields ih =>
    obtain ⟨hfield, hfields⟩ := List.forall_mem_cons.mp hfields
    simp only [readValues]
    split
    · exact .error _
    · split_ifs
      · exact .done composes _
      · exact .bind_record composes (hfield _) fun rest => ih hfields false rest
      · split
        · exact .error _
        · exact .error _
        · exact .bind_record composes (hfield _) fun rest => ih hfields false rest
      · exact .error _

theorem uniform_readRecord (expected : String) (cs : List Char) :
    Uniform lays fun record => readRecord expected fields record cs := by
  simp only [readRecord]
  split
  · exact uniform_readMembers composes hfields _ _ _ _
  · exact uniform_readValues composes hfields _ _
  · have hrefuse := toOption_refuse (α := σ) expected (skipBlanks cs)
    generalize refuse expected (skipBlanks cs) = outcome at hrefuse ⊢
    cases outcome with
    | error fault => exact .error fault
    | ok found => cases hrefuse

end Records

end Json

namespace Settings

/-- What a text of settings gives: values of fields, each of which may be missing. -/
structure Given where
  stagingPath : Option Path
  compression : Option (Option Codec)
  store : Option StoreSettings

namespace Given

/-- Nothing is given. -/
def nothing : Given := ⟨none, none, none⟩

/-- The given values on top of some defaults. -/
def onto (given : Given) (defaults : Settings) : Settings where
  stagingPath := given.stagingPath.getD defaults.stagingPath
  compression := given.compression.getD defaults.compression
  store := given.store.getD defaults.store

/-- Later values on top of earlier ones. -/
def andThen (first second : Given) : Given where
  stagingPath := second.stagingPath.or first.stagingPath
  compression := second.compression.or first.compression
  store := second.store.or first.store

theorem onto_andThen (first second : Given) (defaults : Settings) :
    (first.andThen second).onto defaults = second.onto (first.onto defaults) := by
  simp only [onto, andThen, Option.getD_or]

/-- The settings change as some given values say. -/
def Lays (change : Settings → Settings) : Prop := ∃ given : Given, change = given.onto

theorem composes_lays : Json.Composes Lays where
  id := ⟨nothing, rfl⟩
  comp := by
    rintro _ _ ⟨first, rfl⟩ ⟨second, rfl⟩
    exact ⟨first.andThen second, funext fun defaults => (onto_andThen first second defaults).symm⟩

end Given

/-- What a text gives does not depend on the defaults. -/
theorem exists_given {defaults settings : Settings} {text : String}
    (h : parse defaults text = .ok settings) :
    ∃ given : Given, ∀ defaults, parse defaults text = .ok (given.onto defaults) := by
  have hfields : ∀ field ∈ fields, ∀ cs,
      Json.Uniform Given.Lays fun record => field.read record cs := by
    simp only [fields, List.forall_mem_cons, List.not_mem_nil, false_imp_iff, implies_true,
      and_true]
    refine ⟨fun cs => ?_, fun cs => ?_, fun cs => ?_⟩
    · exact .field_of _ _ (fun value => ⟨⟨some (.ofString value), none, none⟩, rfl⟩) cs
    · exact .field_of _ _ (fun value => ⟨⟨none, some value, none⟩, rfl⟩) cs
    · exact .field_of _ _ (fun value => ⟨⟨none, none, some value⟩, rfl⟩) cs
  have huniform := Json.uniform_readRecord Given.composes_lays hfields "struct MutatorConfig"
    text.toList
  simp only [parse, Json.readDocument] at h ⊢
  rcases huniform with ⟨fault, hread⟩ | ⟨_, rest, ⟨given, rfl⟩, hread⟩
  · dsimp only at hread
    rw [hread] at h
    cases h
  · dsimp only at hread
    simp only [hread] at h ⊢
    refine ⟨given, fun defaults => ?_⟩
    split at h
    · rfl
    · cases h

end Settings

end RowDrop

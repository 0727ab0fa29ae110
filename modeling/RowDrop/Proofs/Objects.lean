import RowDrop.Proofs.Associations
import RowDrop.Store.Objects

/-!
# Stores that answer

A get and a put of a target leave all other objects. A store serves a target if no status is set for
gets or puts and requests for the target come in (`Store.Serves`). Then a get tells what is there
and a put replaces it; apart from that, only the requests that have arrived change.
-/

namespace RowDrop.Store

/-- Gets and puts of a target are answered. -/
structure Serves (store : Store) (target : Target) : Prop where
  gets : store.getFailure = none
  puts : store.putFailure = none
  comes : ∀ client name url, target = .remote client name url →
    client.allows url ∧ store.reachable

/-- Neither a request nor a change of an object decides whether a store answers. -/
structure Alike (store after : Store) : Prop where
  gets : after.getFailure = store.getFailure
  puts : after.putFailure = store.putFailure
  reachable : after.reachable = store.reachable

variable {store : Store} {target other : Target} {content : Content} {name : String}

theorem object?_set (store : Store) (name : String) (content : Content) (wanted : String) :
    (store.set name content).object? wanted =
      if wanted = name then some content else store.object? wanted := by
  have parts : (store.set name content).object? wanted =
      (store.objects.filter (·.1 ≠ name) ++ [(name, content)]).lookup wanted := rfl
  rw [parts, List.lookup_append, Associations.lookup_without]
  by_cases same : wanted = name
  · simp [same]
  · simp [same, beq_false_of_ne same, object?, List.lookup_cons]

/-! ## Other objects -/

theorem objects_of_accept {method : Method} {after : Store}
    (h : store.accept method target = .ok after) : after.objects = store.objects := by
  cases target with
  | direct name =>
    obtain rfl := Except.ok.inj h
    rfl
  | remote client name url =>
    simp only [accept] at h
    split_ifs at h
    obtain rfl := Except.ok.inj h
    rfl

/-- A get changes no object, whether or not it is answered. -/
theorem object?_get (store : Store) (target : Target) (name : String) :
    (store.get target).2.object? name = store.object? name := by
  unfold get
  split
  case h_1 => rfl
  case h_2 after accepted =>
    have same : after.object? name = store.object? name := by
      rw [object?, objects_of_accept accepted, object?]
    split
    case h_1 => exact same
    case h_2 =>
      split
      case h_1 => exact same
      case h_2 => exact same

/-- What a get gives is there. -/
theorem object?_of_get_ok (h : (store.get target).1 = .ok content) :
    store.object? target.storedName = some content := by
  unfold get at h
  split at h
  case h_1 => cases h
  case h_2 after accepted =>
    split at h
    case h_1 => cases h
    case h_2 =>
      split at h
      case h_1 content' found =>
        obtain rfl := Except.ok.inj h
        rwa [object?, objects_of_accept accepted] at found
      case h_2 => cases h

/-- A put that is answered changes its object alone. -/
theorem object?_of_put_ok (h : (store.put target content).1 = .ok ()) (name : String) :
    (store.put target content).2.object? name =
      if name = target.storedName then some content else store.object? name := by
  unfold put at h ⊢
  split at h
  case h_1 => cases h
  case h_2 after accepted =>
    split at h
    case h_1 => cases h
    case h_2 => rw [object?_set, object?, objects_of_accept accepted, object?]

/-- A put that fails changes no object. -/
theorem object?_of_put_error {error : StoreError} (h : (store.put target content).1 = .error error)
    (name : String) : (store.put target content).2.object? name = store.object? name := by
  unfold put at h ⊢
  split at h
  case h_1 => rfl
  case h_2 after accepted =>
    split at h
    case h_1 => rw [object?, objects_of_accept accepted, object?]
    case h_2 => cases h

/-- A put changes no other object, whether or not it is answered. -/
theorem object?_put_of_ne (store : Store) (content : Content) (ne : name ≠ target.storedName) :
    (store.put target content).2.object? name = store.object? name := by
  cases sent : (store.put target content).1 with
  | ok => rw [object?_of_put_ok sent, if_neg ne]
  | error error => exact object?_of_put_error sent name

/-! ## Stores that serve -/

namespace Serves

/-- A store that is reached as before answers as before. -/
theorem of_alike {after : Store} (h : store.Serves target) (alike : store.Alike after) :
    after.Serves target where
  gets := alike.gets.trans h.gets
  puts := alike.puts.trans h.puts
  comes client name url same := by
    rw [alike.reachable]
    exact h.comes client name url same

theorem accept (h : store.Serves target) (method : Method) :
    ∃ requests, store.accept method target = .ok { store with requests } := by
  cases target with
  | direct name => exact ⟨store.requests, rfl⟩
  | remote client name url =>
    obtain ⟨allowed, reachable⟩ := h.comes client name url rfl
    simp only [Store.accept, allowed, reachable, Bool.not_true, if_false, Bool.false_eq_true]
    exact ⟨_, rfl⟩

/-- A get tells what is there. -/
theorem get (h : store.Serves target) :
    ∃ requests, store.get target =
      ((store.object? target.storedName).elim (.error (absence target)) .ok,
        { store with requests }) := by
  obtain ⟨requests, accepted⟩ := h.accept .get
  refine ⟨requests, ?_⟩
  simp only [Store.get, accepted, h.gets, object?]
  cases store.objects.lookup target.storedName with
  | none => rfl
  | some content => rfl

/-- A put replaces what is there. -/
theorem put (h : store.Serves target) (content : Content) :
    ∃ requests, store.put target content =
      (.ok (), { store with requests }.set target.storedName content) := by
  obtain ⟨requests, accepted⟩ := h.accept .put
  refine ⟨requests, ?_⟩
  simp only [Store.put, accepted, h.puts]

end Serves

/-! ## Stores that are reached alike -/

section Alike

variable {other : Store}

theorem Alike.refl (store : Store) : store.Alike store := ⟨rfl, rfl, rfl⟩

theorem Alike.trans {middle after : Store} (first : store.Alike middle)
    (second : middle.Alike after) : store.Alike after :=
  ⟨second.gets.trans first.gets, second.puts.trans first.puts,
    second.reachable.trans first.reachable⟩

theorem Alike.symm (h : store.Alike other) : other.Alike store :=
  ⟨h.gets.symm, h.puts.symm, h.reachable.symm⟩

/-- Two stores that are reached alike let the same requests come in. -/
theorem Alike.accept (h : store.Alike other) (method : Method) (target : Target) :
    (∃ error, store.accept method target = .error error ∧
        other.accept method target = .error error) ∨
      ∃ requests requests', store.accept method target = .ok { store with requests } ∧
        other.accept method target = .ok { other with requests := requests' } := by
  cases target with
  | direct name => exact .inr ⟨store.requests, other.requests, rfl, rfl⟩
  | remote client name url =>
    simp only [Store.accept, h.reachable]
    split_ifs
    · exact .inl ⟨_, rfl, rfl⟩
    · exact .inl ⟨_, rfl, rfl⟩
    · exact .inr ⟨_, _, rfl, rfl⟩

theorem alike_accept {method : Method} {after : Store}
    (h : store.accept method target = .ok after) : store.Alike after := by
  cases target with
  | direct name =>
    obtain rfl := Except.ok.inj h
    exact .refl store
  | remote client name url =>
    simp only [Store.accept] at h
    split_ifs at h
    obtain rfl := Except.ok.inj h
    exact ⟨rfl, rfl, rfl⟩

theorem alike_get (store : Store) (target : Target) : store.Alike (store.get target).2 := by
  unfold get
  split
  case h_1 => exact .refl store
  case h_2 after accepted =>
    have alike := alike_accept accepted
    split
    case h_1 => exact alike
    case h_2 => split <;> exact alike

theorem alike_put (store : Store) (target : Target) (content : Content) :
    store.Alike (store.put target content).2 := by
  unfold put
  split
  case h_1 => exact .refl store
  case h_2 after accepted =>
    have alike := alike_accept accepted
    split
    case h_1 => exact alike
    case h_2 => exact ⟨alike.gets, alike.puts, alike.reachable⟩

/-- Gets of one object have the same reply. -/
theorem Alike.get (h : store.Alike other)
    (same : other.object? target.storedName = store.object? target.storedName) :
    (store.get target).1 = (other.get target).1 := by
  rcases h.accept .get target with ⟨error, accepted, accepted'⟩ | ⟨_, _, accepted, accepted'⟩
  · simp only [Store.get, accepted, accepted']
  · simp only [object?] at same
    simp only [Store.get, accepted, accepted', h.gets, object?, same]
    cases store.getFailure with
    | some status => rfl
    | none => cases store.objects.lookup target.storedName <;> rfl

/-- Puts of one object have the same reply. -/
theorem Alike.put (h : store.Alike other) (target : Target) (content : Content) :
    (store.put target content).1 = (other.put target content).1 := by
  rcases h.accept .put target with ⟨error, accepted, accepted'⟩ | ⟨_, _, accepted, accepted'⟩
  · simp only [Store.put, accepted, accepted']
  · simp only [Store.put, accepted, accepted', h.puts]
    cases store.putFailure <;> rfl

end Alike

/-- An object that is not there is missing, whoever says so. -/
theorem isMissing_absence (target : Target) : (absence target).isMissing = true := by
  cases target with
  | direct name => rfl
  | remote client name url => rfl

end RowDrop.Store

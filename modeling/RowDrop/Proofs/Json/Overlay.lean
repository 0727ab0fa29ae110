import Mathlib.Data.List.Nodup
import Mathlib.Data.List.Perm.Basic
import RowDrop.Proofs.Json.Grammar

/-!
# Laying members on a record

What a record of known fields becomes under the members of a JSON record, without any order of
reading. A rule says which values a known name admits and how the record changes under them. The
members are refused if a known name stands twice or has a value that is not admitted; otherwise each
known name that stands there changes the record, and all others leave it as it was.

Reading goes through the members one after the other (`readThrough`). For rules whose changes
commute this is the same (`readThrough_eq_overlay?`).
-/

namespace RowDrop.Json

/-- What a known name of a record of type `σ` makes of its value: how the record changes, or nothing
where the value is not admitted. -/
structure Rule (σ : Type) where
  name : String
  lay : Value → Option (σ → σ)

/-- The rule that sets what its meaning finds in a value. -/
def Rule.of {σ α : Type} (name : String) (meaning : Value → Option α) (set : σ → α → σ) :
    Rule σ where
  name := name
  lay value := (meaning value).map fun found record => set record found

/-- The values that stand under a name. -/
def Members.values (members : Members) (name : String) : List Value :=
  (members.filter fun member => member.1 = name.toList).map (·.2)

/-- The members with known names. -/
def Members.known (members : Members) (names : List String) : Members :=
  members.filter fun member => String.ofList member.1 ∈ names

variable {σ : Type}

/-- No known name stands twice. -/
def Once (rules : List (Rule σ)) (members : Members) : Prop :=
  ∀ rule ∈ rules, (members.values rule.name).length ≤ 1

/-- Every known name has admitted values only. -/
def Admitted (rules : List (Rule σ)) (members : Members) : Prop :=
  ∀ rule ∈ rules, ∀ value ∈ members.values rule.name, (rule.lay value).isSome

instance (rules : List (Rule σ)) (members : Members) : Decidable (Once rules members) :=
  inferInstanceAs (Decidable (∀ rule ∈ rules, (members.values rule.name).length ≤ 1))

instance (rules : List (Rule σ)) (members : Members) : Decidable (Admitted rules members) :=
  inferInstanceAs
    (Decidable (∀ rule ∈ rules, ∀ value ∈ members.values rule.name, (rule.lay value).isSome))

/-- How a record changes under the value of a name, which may be missing. -/
def Rule.change (rule : Rule σ) (value : Option Value) : σ → σ :=
  (value.bind rule.lay).getD id

/-- Lays the members on a record. -/
def overlay (rules : List (Rule σ)) (members : Members) (record : σ) : σ :=
  rules.foldl (fun record rule => rule.change (members.values rule.name).head? record) record

/-- The record under the members, if they are not refused. -/
def overlay? (rules : List (Rule σ)) (members : Members) (record : σ) : Option σ :=
  if Once rules members ∧ Admitted rules members then some (overlay rules members record) else none

/-- The members that the first names of the rules and some values make. -/
def named (rules : List (Rule σ)) (items : List Value) : Members :=
  List.zipWith (fun rule item => (rule.name.toList, item)) rules items

/-- What a record becomes under a value: under the members of a record, or under a list with the
values of its first names. -/
def Rule.meaning (rules : List (Rule σ)) (record : σ) : Value → Option σ
  | .record members => overlay? rules members record
  | .list items =>
    if items.length ≤ rules.length then overlay? rules (named rules items) record else none
  | _ => none

/-- The rules have different names and change different parts of the record. -/
structure Rule.Apart (rule other : Rule σ) : Prop where
  name : rule.name ≠ other.name
  change (value value' : Option Value) (record : σ) :
    rule.change value (other.change value' record) = other.change value' (rule.change value record)

/-- The rules are apart from each other. -/
def Independent (rules : List (Rule σ)) : Prop := rules.Pairwise Rule.Apart

@[simp] theorem Rule.name_of {α : Type} (name : String) (meaning : Value → Option α)
    (set : σ → α → σ) : (Rule.of name meaning set).name = name := rfl

theorem Rule.change_of {α : Type} (name : String) (meaning : Value → Option α) (set : σ → α → σ)
    (value : Option Value) (record : σ) :
    (Rule.of name meaning set).change value record
      = ((value.bind meaning).map (set record)).getD record := by
  cases value with
  | none => rfl
  | some value =>
    simp only [Rule.change, Rule.of, Option.bind_some]
    cases meaning value <;> rfl

/-- Rules with different names that set different parts of a record are apart. -/
theorem Rule.apart_of {α β : Type} {name name' : String} {meaning : Value → Option α}
    {meaning' : Value → Option β} {set : σ → α → σ} {set' : σ → β → σ} (hname : name ≠ name')
    (hset : ∀ record a b, set (set' record b) a = set' (set record a) b) :
    (Rule.of name meaning set).Apart (Rule.of name' meaning' set') where
  name := hname
  change value value' record := by
    simp only [Rule.change_of]
    cases value.bind meaning <;> cases value'.bind meaning' <;> simp [hset]

section Values

variable {members members' : Members} {name : String}

@[simp] theorem Members.values_nil : Members.values [] name = [] := rfl

theorem Members.values_cons_self {key : List Char} (h : key = name.toList) (value : Value)
    (members : Members) :
    Members.values ((key, value) :: members) name = value :: members.values name := by
  simp [Members.values, h]

theorem Members.values_cons_of_ne {key : List Char} {value : Value} (h : key ≠ name.toList) :
    Members.values ((key, value) :: members) name = members.values name := by
  simp [Members.values, h]

/-- A member behind another one stands under the same names as without it. -/
theorem Members.mem_values_cons {member : List Char × Value} {value : Value}
    (h : value ∈ members.values name) : value ∈ Members.values (member :: members) name := by
  obtain ⟨key, first⟩ := member
  by_cases hk : key = name.toList
  · rw [Members.values_cons_self hk]
    exact List.mem_cons_of_mem first h
  · rwa [Members.values_cons_of_ne hk]

theorem Members.length_values_le_cons {member : List Char × Value} :
    (members.values name).length ≤ (Members.values (member :: members) name).length := by
  obtain ⟨key, first⟩ := member
  by_cases hk : key = name.toList
  · simp [Members.values_cons_self hk]
  · simp [Members.values_cons_of_ne hk]

theorem Members.values_append :
    Members.values (members ++ members') name = members.values name ++ members'.values name := by
  simp [Members.values]

theorem Members.values_known {names : List String} (h : name ∈ names) (members : Members) :
    (members.known names).values name = members.values name := by
  rw [Members.values, Members.values, Members.known, List.filter_filter]
  congr 1
  apply List.filter_congr
  intro member _
  by_cases hm : member.1 = name.toList
  · simp [hm, h]
  · simp [hm]

theorem Members.values_perm (h : members.Perm members') :
    (members.values name).Perm (members'.values name) :=
  (h.filter _).map _

/-- What is laid on depends only on what each rule makes of the values under its name, in any
order. -/
theorem overlay?_congr {rules : List (Rule σ)} (record : σ)
    (h : ∀ rule ∈ rules, ((members.values rule.name).map rule.lay).Perm
      ((members'.values rule.name).map rule.lay)) :
    overlay? rules members record = overlay? rules members' record := by
  have honce : Once rules members ↔ Once rules members' := by
    refine forall₂_congr fun rule hr => ?_
    have hlength := (h rule hr).length_eq
    rw [List.length_map, List.length_map] at hlength
    rw [hlength]
  have hadmitted : Admitted rules members ↔ Admitted rules members' := by
    refine forall₂_congr fun rule hr => ?_
    have hmem (change : Option (σ → σ)) := (h rule hr).mem_iff (a := change)
    simp only [List.mem_map] at hmem
    constructor
    · intro hm value hv
      obtain ⟨value', hv', heq⟩ := (hmem _).mpr ⟨value, hv, rfl⟩
      exact heq ▸ hm value' hv'
    · intro hm value hv
      obtain ⟨value', hv', heq⟩ := (hmem _).mp ⟨value, hv, rfl⟩
      exact heq ▸ hm value' hv'
  simp only [overlay?, honce, hadmitted]
  split_ifs with hm
  · rw [overlay, overlay]
    congr 1
    apply List.foldl_ext
    intro record rule hr
    -- at most one value stands under the name, so the rule makes the same of both lists
    have hlength := hm.1 rule hr
    have hperm := h rule hr
    match hv : members.values rule.name, hv' : members'.values rule.name with
    | [], [] => rfl
    | [value], [value'] =>
      rw [hv, hv'] at hperm
      have hlay : rule.lay value = rule.lay value' := by simpa using hperm
      simp [Rule.change, hlay]
    | [], _ :: _ => simp [hv, hv'] at hperm
    | _ :: _, [] => simp [hv, hv'] at hperm
    | _, _ :: _ :: _ => simp [hv'] at hlength
    | _ :: _ :: _, [_] =>
      rw [hv, hv'] at hperm
      simpa using hperm.length_eq
  · rfl

/-- Reordering members, and leaving unknown ones out, changes nothing. -/
theorem overlay?_of_known_perm {rules : List (Rule σ)} (record : σ)
    (h : (members.known (rules.map Rule.name)).Perm (members'.known (rules.map Rule.name))) :
    overlay? rules members record = overlay? rules members' record := by
  apply overlay?_congr
  intro rule hr
  have hname : rule.name ∈ rules.map Rule.name := List.mem_map_of_mem hr
  rw [← Members.values_known hname members,
    ← Members.values_known hname members']
  exact (Members.values_perm h).map rule.lay

end Values

section Reading

variable {rules : List (Rule σ)} {record : σ} {key : List Char} {value : Value} {members : Members}

/-- Lays the members on a record one after the other, where the names in `seen` have been laid. -/
def readThrough (rules : List (Rule σ)) : (seen : List String) → σ → Members → Option σ
  | _, record, [] => some record
  | seen, record, (key, value) :: members =>
    match rules.find? (·.name = String.ofList key) with
    | none => readThrough rules seen record members
    | some rule =>
      if String.ofList key ∈ seen then none
      else (rule.lay value).bind fun change =>
        readThrough rules (String.ofList key :: seen) (change record) members

theorem ofList_eq_iff {name : String} : name = String.ofList key ↔ key = name.toList := by
  constructor
  · rintro rfl
    exact String.toList_ofList.symm
  · rintro rfl
    exact String.ofList_toList.symm

/-- A member with an unknown name has no part in what is laid on. -/
theorem values_cons_of_unknown (h : rules.find? (·.name = String.ofList key) = none)
    {rule : Rule σ} (hr : rule ∈ rules) (value : Value) (members : Members) :
    Members.values ((key, value) :: members) rule.name = members.values rule.name := by
  have hne := List.find?_eq_none.mp h rule hr
  rw [decide_eq_true_eq, ofList_eq_iff] at hne
  exact Members.values_cons_of_ne hne

/-- The values under a name do not depend on members with other names. -/
theorem overlay_cons_of_ne (h : ∀ rule ∈ rules, key ≠ rule.name.toList) :
    overlay rules ((key, value) :: members) record = overlay rules members record := by
  rw [overlay, overlay]
  apply List.foldl_ext
  intro record rule hr
  rw [Members.values_cons_of_ne (h rule hr)]

theorem toList_ne {rule other : Rule σ} (h : rule.name ≠ other.name) :
    rule.name.toList ≠ other.name.toList :=
  fun heq => h (String.toList_inj.mp heq)

/-- The change of a rule whose name does not stand again can be made first. -/
theorem overlay_cons (independent : Independent rules) {rule : Rule σ} (hr : rule ∈ rules)
    {change : σ → σ} (hlay : rule.lay value = some change)
    (hbehind : members.values rule.name = []) :
    overlay rules ((rule.name.toList, value) :: members) record
      = overlay rules members (change record) := by
  induction rules generalizing record with
  | nil => cases hr
  | cons first rules ih =>
    obtain ⟨hfirst, independent⟩ := List.pairwise_cons.mp independent
    have hcons (record : σ) (members : Members) : overlay (first :: rules) members record
        = overlay rules members (first.change (members.values first.name).head? record) := rfl
    rw [hcons, hcons]
    rcases List.mem_cons.mp hr with rfl | hr
    · rw [Members.values_cons_self rfl, hbehind,
        overlay_cons_of_ne fun other ho => toList_ne (hfirst other ho).name]
      simp [Rule.change, hlay]
    · have hne := toList_ne (hfirst rule hr).name
      have hchange : rule.change (some value) = change := by simp [Rule.change, hlay]
      rw [Members.values_cons_of_ne hne.symm, ih independent hr, ← hchange,
        (hfirst rule hr).change]

theorem Independent.nodup (independent : Independent rules) : (rules.map Rule.name).Nodup :=
  List.pairwise_map.mpr (independent.imp Rule.Apart.name)

theorem Independent.eq_of_name (independent : Independent rules) {rule other : Rule σ}
    (hr : rule ∈ rules) (ho : other ∈ rules) (h : rule.name = other.name) : rule = other :=
  List.inj_on_of_nodup_map independent.nodup hr ho h

/-- The first member, with a name that does not stand again, asks only that its own value is
admitted. -/
theorem accepted_cons_iff (independent : Independent rules) {rule : Rule σ} (hr : rule ∈ rules)
    (hbehind : members.values rule.name = []) :
    Once rules ((rule.name.toList, value) :: members)
        ∧ Admitted rules ((rule.name.toList, value) :: members)
      ↔ (rule.lay value).isSome ∧ Once rules members ∧ Admitted rules members := by
  have hself : Members.values ((rule.name.toList, value) :: members) rule.name
      = value :: members.values rule.name := Members.values_cons_self rfl value members
  rw [hbehind] at hself
  constructor
  · rintro ⟨honce, hadmitted⟩
    refine ⟨?_, ?_, ?_⟩
    · exact hadmitted rule hr value (by simp [hself])
    · intro other ho
      exact Nat.le_trans Members.length_values_le_cons (honce other ho)
    · intro other ho item hi
      exact hadmitted other ho item (Members.mem_values_cons hi)
  · rintro ⟨hlay, honce, hadmitted⟩
    -- the name of another rule is another name
    have hother {other : Rule σ} (ho : other ∈ rules) (hne : other ≠ rule) :
        Members.values ((rule.name.toList, value) :: members) other.name
          = members.values other.name :=
      Members.values_cons_of_ne (toList_ne fun h => hne (independent.eq_of_name ho hr h.symm))
    constructor
    · intro other ho
      by_cases hne : other = rule
      · subst hne
        simp [hself]
      · rw [hother ho hne]
        exact honce other ho
    · intro other ho item hi
      by_cases hne : other = rule
      · subst hne
        rw [hself, List.mem_singleton] at hi
        rwa [hi]
      · rw [hother ho hne] at hi
        exact hadmitted other ho item hi

theorem overlay?_nil : overlay? rules [] record = some record := by
  rw [overlay?, if_pos]
  · simp [overlay, Rule.change]
  · constructor
    · intro rule _
      simp
    · intro rule _ value hv
      cases hv

/-- A name that stands once changes the record first. -/
theorem overlay?_cons (independent : Independent rules) {rule : Rule σ} (hr : rule ∈ rules)
    (hbehind : members.values rule.name = []) :
    overlay? rules ((rule.name.toList, value) :: members) record
      = (rule.lay value).bind fun change => overlay? rules members (change record) := by
  simp only [overlay?, accepted_cons_iff independent hr hbehind]
  cases hlay : rule.lay value with
  | none => simp
  | some change => simp [overlay_cons independent hr hlay hbehind]

/-- A name that stands again refuses the members. -/
theorem overlay?_cons_again {rule : Rule σ} (hr : rule ∈ rules)
    (hbehind : members.values rule.name ≠ []) :
    overlay? rules ((rule.name.toList, value) :: members) record = none := by
  rw [overlay?, if_neg]
  rintro ⟨honce, -⟩
  have hlength := honce rule hr
  rw [Members.values_cons_self rfl, List.length_cons] at hlength
  exact hbehind (List.length_eq_zero_iff.mp (by omega))

/-- No known name that has been seen stands again. -/
def Unseen (rules : List (Rule σ)) (seen : List String) (members : Members) : Prop :=
  ∀ rule ∈ rules, rule.name ∈ seen → members.values rule.name = []

instance (seen : List String) : Decidable (Unseen rules seen members) :=
  inferInstanceAs
    (Decidable (∀ rule ∈ rules, rule.name ∈ seen → members.values rule.name = []))

theorem unseen_cons_iff {rule : Rule σ} (hr : rule ∈ rules) {seen : List String}
    (hseen : rule.name ∉ seen) (value : Value) (members : Members) :
    Unseen rules (rule.name :: seen) members ↔
      members.values rule.name = []
        ∧ Unseen rules seen ((rule.name.toList, value) :: members) := by
  have hother {other : Rule σ} (ho : other.name ∈ seen) :
      Members.values ((rule.name.toList, value) :: members) other.name
        = members.values other.name :=
    Members.values_cons_of_ne (toList_ne fun h => hseen (h ▸ ho))
  constructor
  · intro h
    refine ⟨h rule hr List.mem_cons_self, ?_⟩
    intro other ho hs
    rw [hother hs]
    exact h other ho (List.mem_cons_of_mem _ hs)
  · rintro ⟨hself, h⟩ other ho hs
    rcases List.mem_cons.mp hs with hname | hs
    · rw [hname]
      exact hself
    · rw [← hother hs]
      exact h other ho hs

/-- Reading through members lays them on, where names that have been seen must not stand again. -/
theorem readThrough_eq (independent : Independent rules) {seen : List String} :
    readThrough rules seen record members
      = if Unseen rules seen members then overlay? rules members record else none := by
  induction members generalizing seen record with
  | nil => simp [readThrough, overlay?_nil, Unseen]
  | cons member members ih =>
    obtain ⟨key, value⟩ := member
    rw [readThrough]
    cases hfind : rules.find? (·.name = String.ofList key) with
    | none =>
      have hsame {rule : Rule σ} (hr : rule ∈ rules) :=
        values_cons_of_unknown hfind hr value members
      rw [overlay?_congr record fun rule hr => .of_eq (congrArg _ (hsame hr))]
      have hunseen : Unseen rules seen ((key, value) :: members) ↔ Unseen rules seen members :=
        forall₂_congr fun rule hr => by rw [hsame hr]
      simp only [ih, hunseen]
    | some rule =>
      have hr := List.mem_of_find?_eq_some hfind
      obtain rfl : key = rule.name.toList := by
        have := List.find?_some hfind
        rwa [decide_eq_true_eq, ofList_eq_iff] at this
      simp only [String.ofList_toList, ih]
      by_cases hseen : rule.name ∈ seen
      · rw [if_pos hseen, if_neg]
        intro h
        simpa [Members.values_cons_self] using h rule hr hseen
      rw [if_neg hseen]
      have hunseen := unseen_cons_iff hr hseen value members
      by_cases hbehind : Members.values members rule.name = []
      · rw [overlay?_cons independent hr hbehind]
        simp only [hunseen, hbehind, true_and]
        split_ifs
        · rfl
        · simp
      · rw [overlay?_cons_again hr hbehind]
        simp [hunseen, hbehind]

/-- Reading through all members lays them on. -/
theorem readThrough_eq_overlay? (independent : Independent rules) :
    readThrough rules [] record members = overlay? rules members record := by
  rw [readThrough_eq independent, if_pos]
  intro rule _ hs
  cases hs

/-- Lays values on a record, each by the rule at its place. -/
def readInTurn : (rules : List (Rule σ)) → σ → List Value → Option σ
  | _, record, [] => some record
  | [], _, _ :: _ => none
  | rule :: rules, record, item :: items =>
    (rule.lay item).bind fun change => readInTurn rules (change record) items

theorem readInTurn_of_length_lt {items : List Value} (h : rules.length < items.length) :
    readInTurn rules record items = none := by
  induction rules generalizing record items with
  | nil =>
    cases items with
    | nil => cases h
    | cons item items => rfl
  | cons rule rules ih =>
    cases items with
    | nil => cases h
    | cons item items =>
      rw [readInTurn]
      cases rule.lay item with
      | none => rfl
      | some change => exact ih (Nat.lt_of_succ_lt_succ h)

/-- Values by their places are the same as members with the names of these places. -/
theorem readInTurn_eq_readThrough {all : List (Rule σ)} {seen : List String} {items : List Value}
    (hfind : ∀ rule ∈ rules, all.find? (·.name = rule.name) = some rule)
    (hseen : ∀ rule ∈ rules, rule.name ∉ seen) (hnames : (rules.map Rule.name).Nodup)
    (hlength : items.length ≤ rules.length) :
    readInTurn rules record items = readThrough all seen record (named rules items) := by
  induction rules generalizing record items seen with
  | nil =>
    obtain rfl := List.length_eq_zero_iff.mp (Nat.le_zero.mp hlength)
    rfl
  | cons rule rules ih =>
    cases items with
    | nil => rfl
    | cons item items =>
      obtain ⟨hrule, hfind⟩ := List.forall_mem_cons.mp hfind
      obtain ⟨hfirst, hseen⟩ := List.forall_mem_cons.mp hseen
      obtain ⟨hname, hnames⟩ := List.nodup_cons.mp hnames
      have hnext (other : Rule σ) (ho : other ∈ rules) : other.name ∉ rule.name :: seen := by
        intro h
        rcases List.mem_cons.mp h with h | h
        · exact hname (List.mem_map.mpr ⟨other, ho, h⟩)
        · exact hseen other ho h
      simp only [readInTurn, named, List.zipWith_cons_cons, readThrough, String.ofList_toList,
        hrule, if_neg hfirst]
      cases rule.lay item with
      | none => rfl
      | some change => exact ih hfind hnext hnames (Nat.le_of_succ_le_succ hlength)

theorem Independent.find?_eq (independent : Independent rules) {rule : Rule σ} (hr : rule ∈ rules) :
    rules.find? (·.name = rule.name) = some rule := by
  cases hfind : rules.find? (·.name = rule.name) with
  | none => exact absurd (List.find?_eq_none.mp hfind rule hr) (by simp)
  | some other =>
    have hname := List.find?_some hfind
    rw [decide_eq_true_eq] at hname
    rw [independent.eq_of_name hr (List.mem_of_find?_eq_some hfind) hname.symm]

/-- Laying on values in turn is laying on the members that they make. -/
theorem readInTurn_eq (independent : Independent rules) (items : List Value) :
    readInTurn rules record items = Rule.meaning rules record (.list items) := by
  rw [Rule.meaning]
  split_ifs with h
  · rw [← readThrough_eq_overlay? independent]
    exact readInTurn_eq_readThrough (fun _ hr => independent.find?_eq hr)
      (fun _ _ => List.not_mem_nil) independent.nodup h
  · exact readInTurn_of_length_lt (Nat.lt_of_not_le h)

end Reading

end RowDrop.Json

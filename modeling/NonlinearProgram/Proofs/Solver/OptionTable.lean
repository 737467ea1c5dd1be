import Mathlib
import NonlinearProgram.Solver.Option

/-!
# Tables of options

A table is an ordered map. `OptionTable.Reflects` says what a table owes to the operations that led
to it: each key that was set and not removed since has one entry with its latest value, and the
entries stand in the order in which their keys came in. Each operation keeps this, so it holds after
any history, `after_reflects`. A key that is set again stays where it is, while one that was removed
comes in anew.
-/

namespace NonlinearProgram

namespace OptionTable

variable {R : Type}

/-! ## Entries -/

/-- Keys in the order of their entries. -/
def keys (table : OptionTable R) : List String := table.entries.map Prod.fst

theorem lookup_cons (first other : String) (value : OptionValue R)
    (rest : List (String × OptionValue R)) :
    ((first, value) :: rest).lookup other =
      if other = first then some value else rest.lookup other := by
  by_cases same : other = first
  · rw [if_pos same, same, List.lookup_cons_self]
  · rw [if_neg same, List.lookup_cons, beq_false_of_ne same]

theorem get?_eq_none_iff {table : OptionTable R} {key : String} :
    table.get? key = none ↔ key ∉ table.keys := by
  simp only [get?, keys, List.lookup_eq_none_iff, List.mem_map, not_exists, not_and, bne_iff_ne]
  exact forall₂_congr fun entry _ => ne_comm

theorem get?_eq_some_iff_mem {table : OptionTable R} (distinct : table.keys.Nodup) {key : String}
    {value : OptionValue R} : table.get? key = some value ↔ (key, value) ∈ table.entries := by
  rcases table with ⟨entries⟩
  induction entries with
  | nil => exact iff_of_false nofun List.not_mem_nil
  | cons entry rest ih =>
      rcases entry with ⟨first, other⟩
      obtain ⟨absent, distinct⟩ := List.nodup_cons.1 distinct
      simp only [get?, keys] at ih
      rw [get?, lookup_cons, List.mem_cons, Prod.mk.injEq]
      by_cases here : key = first
      · have notLater : (key, value) ∉ rest := fun later =>
          absent (List.mem_map.2 ⟨_, later, here⟩)
        rw [if_pos here, or_iff_left notLater, Option.some.injEq, and_iff_right here, eq_comm]
      · rw [if_neg here, ih distinct, or_iff_right fun same => here same.1]

theorem map_fst_setEntry (key : String) (value : OptionValue R)
    (entries : List (String × OptionValue R)) :
    (setEntry key value entries).map Prod.fst =
      if key ∈ entries.map Prod.fst then entries.map Prod.fst
      else entries.map Prod.fst ++ [key] := by
  induction entries with
  | nil => rfl
  | cons entry rest ih =>
      rw [setEntry]
      by_cases here : entry.1 = key
      · simp [here]
      · rw [if_neg here, List.map_cons, ih, List.map_cons]
        have elsewhere : key ∈ entry.1 :: rest.map Prod.fst ↔ key ∈ rest.map Prod.fst := by
          simp [Ne.symm here]
        simp only [elsewhere]
        split
        case isTrue => rfl
        case isFalse => rfl

theorem lookup_setEntry (key other : String) (value : OptionValue R)
    (entries : List (String × OptionValue R)) :
    (setEntry key value entries).lookup other =
      if other = key then some value else entries.lookup other := by
  induction entries with
  | nil => exact lookup_cons key other value []
  | cons entry rest ih =>
      rcases entry with ⟨first, old⟩
      rw [setEntry]
      by_cases here : first = key
      · rw [if_pos here, lookup_cons, lookup_cons, here]
        split
        case isTrue => rfl
        case isFalse => rfl
      · rw [if_neg here, lookup_cons, lookup_cons, ih]
        by_cases found : other = first
        · rw [if_pos found, if_pos found, if_neg (found ▸ here)]
        · rw [if_neg found, if_neg found]

@[simp] theorem keys_set (table : OptionTable R) (key : String) (value : OptionValue R) :
    (table.set key value).keys =
      if key ∈ table.keys then table.keys else table.keys ++ [key] :=
  map_fst_setEntry key value table.entries

@[simp] theorem get?_set (table : OptionTable R) (key other : String) (value : OptionValue R) :
    (table.set key value).get? other = if other = key then some value else table.get? other :=
  lookup_setEntry key other value table.entries

@[simp] theorem keys_erase (table : OptionTable R) (key : String) :
    (table.erase key).keys = table.keys.erase key := by
  rw [keys, erase, keys, List.erase_eq_eraseP, List.eraseP_map]
  congr 1
  exact congrArg (List.eraseP · table.entries) (funext fun entry => Bool.beq_comm)

theorem lookup_eraseP_of_ne {key other : String} (different : other ≠ key)
    (entries : List (String × OptionValue R)) :
    (entries.eraseP fun entry => entry.1 == key).lookup other = entries.lookup other := by
  induction entries with
  | nil => rfl
  | cons entry rest ih =>
      rcases entry with ⟨first, value⟩
      by_cases here : first = key
      · rw [List.eraseP_cons_of_pos (by simpa using here), lookup_cons, here, if_neg different]
      · rw [List.eraseP_cons_of_neg (by simpa using here), lookup_cons, lookup_cons, ih]

theorem get?_erase {table : OptionTable R} (distinct : table.keys.Nodup) (key other : String) :
    (table.erase key).get? other = if other = key then none else table.get? other := by
  split
  case isTrue same =>
    rw [same, get?_eq_none_iff, keys_erase, distinct.mem_erase_iff]
    exact fun kept => kept.1 rfl
  case isFalse different => exact lookup_eraseP_of_ne different table.entries

/-- What is removed is the value that can be got. -/
theorem remove_eq (table : OptionTable R) (key : String) :
    table.remove key = (table.get? key, table.erase key) := by
  rw [remove, erase, List.eraseP_eq_eraseIdx, get?]
  rcases found : table.entries.findIdx? fun entry => entry.1 == key with _ | index
  · have absent : table.entries.lookup key = none := by
      rw [List.findIdx?_eq_none_iff] at found
      simpa [List.lookup_eq_none_iff, bne_iff_ne, ne_comm] using found
    simp only [found, absent]
  · obtain ⟨inside, here, before⟩ := List.findIdx?_eq_some_iff_getElem.1 found
    have present : table.entries.lookup key = some table.entries[index].2 := by
      rw [List.lookup_eq_some_iff]
      refine ⟨table.entries.take index, table.entries.drop (index + 1), ?_, ?_⟩
      · rw [← eq_of_beq here, Prod.mk.eta, List.getElem_cons_drop, List.take_append_drop]
      · intro entry member
        obtain ⟨k, earlier, rfl⟩ := List.mem_take_iff_getElem.1 member
        simpa [bne_iff_ne, ne_comm] using before k (by omega)
    simp only [found, present, List.getElem?_eq_getElem inside, Option.map_some]

/-! ## Histories -/

/-- What can be done with a table. -/
inductive Operation (R : Type) where
  | set (key : String) (value : OptionValue R)
  | remove (key : String)
  | get (key : String)

namespace Operation

/-- What an operation answers, and the table it leaves. -/
def run (table : OptionTable R) : Operation R → Option (OptionValue R) × OptionTable R
  | set key value => (none, table.set key value)
  | remove key => table.remove key
  | get key => (table.get? key, table)

/-- The key that an operation sets or removes. -/
def edited? : Operation R → Option String
  | set key _ | remove key => some key
  | get _ => none

/-- The operation sets a key. -/
def Sets (key : String) (operation : Operation R) : Prop := ∃ value, operation = set key value

end Operation

open Operation (Sets)

/-- A new table after some operations. -/
def after (history : List (Operation R)) : OptionTable R :=
  history.foldl (fun table operation => (operation.run table).2) {}

theorem after_concat (history : List (Operation R)) (operation : Operation R) :
    after (history ++ [operation]) = (operation.run (after history)).2 :=
  List.foldl_concat _ _ _ _

/-- The last operation that sets a key, if the key is not removed after it. -/
structure IsLastSet (history : List (Operation R)) (key : String) (value : OptionValue R)
    (time : Nat) : Prop where
  sets : history[time]? = some (.set key value)
  last : ∀ later operation, time < later → history[later]? = some operation →
    operation.edited? ≠ some key

/-- The first operation that sets a key after the last one that removes it. -/
structure IsEntry (history : List (Operation R)) (key : String) (time : Nat) : Prop where
  sets : ∃ operation, history[time]? = some operation ∧ operation.Sets key
  stays : ∀ later, time < later → history[later]? ≠ some (.remove key)
  first : ∀ earlier operation, earlier < time → history[earlier]? = some operation →
    operation.Sets key → ∃ between, earlier < between ∧ between < time ∧
      history[between]? = some (.remove key)

/-- A table that is the ordered map of a history. -/
structure Reflects (table : OptionTable R) (history : List (Operation R)) : Prop where
  /-- No key has two entries. -/
  distinct : table.keys.Nodup
  /-- The value of a key is the one it was last set to. -/
  value : ∀ key value, table.get? key = some value ↔ ∃ time, IsLastSet history key value time
  /-- A key has an entry if it was set and not removed since. -/
  present : ∀ key, key ∈ table.keys ↔ ∃ time, IsEntry history key time
  /-- The entries stand in the order in which their keys came in. -/
  order : table.keys.Pairwise fun first second =>
    ∃ time time', IsEntry history first time ∧ IsEntry history second time' ∧ time < time'

/-! ## One more operation -/

variable {history : List (Operation R)} {operation : Operation R} {key : String}
variable {value : OptionValue R} {time : Nat}

theorem getElem?_concat_eq_some {other : Operation R} :
    (history ++ [operation])[time]? = some other ↔
      history[time]? = some other ∨ time = history.length ∧ operation = other := by
  rcases Nat.lt_trichotomy time history.length with inside | rfl | outside
  · rw [List.getElem?_append_left inside]
    exact (or_iff_left fun last => inside.ne last.1).symm
  · simp
  · simp [List.getElem?_eq_none, outside.le, outside.ne', Nat.succ_le_iff.2 outside]

theorem lt_length_of_eq_some {other : Operation R} (found : history[time]? = some other) :
    time < history.length :=
  (List.getElem?_eq_some_iff.1 found).1

theorem Operation.edited?_of_sets (sets : operation.Sets key) : operation.edited? = some key := by
  obtain ⟨value, rfl⟩ := sets
  rfl

/-- An operation on another key changes nothing. -/
theorem isLastSet_concat_of_ne (other : operation.edited? ≠ some key) :
    IsLastSet (history ++ [operation]) key value time ↔ IsLastSet history key value time := by
  constructor
  · rintro ⟨sets, last⟩
    refine ⟨(getElem?_concat_eq_some.1 sets).resolve_right ?_, ?_⟩
    · rintro ⟨-, rfl⟩
      exact other rfl
    · intro later following after found
      exact last later following after (getElem?_concat_eq_some.2 (.inl found))
  · rintro ⟨sets, last⟩
    refine ⟨getElem?_concat_eq_some.2 (.inl sets), ?_⟩
    intro later following after found
    rcases getElem?_concat_eq_some.1 found with earlier | ⟨-, rfl⟩
    · exact last later following after earlier
    · exact other

/-- An operation on a key makes up for those before it. -/
theorem isLastSet_concat_of_eq (same : operation.edited? = some key) :
    IsLastSet (history ++ [operation]) key value time ↔
      operation = .set key value ∧ time = history.length := by
  constructor
  · rintro ⟨sets, last⟩
    rcases getElem?_concat_eq_some.1 sets with earlier | ⟨rfl, rfl⟩
    · exact absurd same (last history.length operation (lt_length_of_eq_some earlier) (by simp))
    · exact ⟨rfl, rfl⟩
  · rintro ⟨rfl, rfl⟩
    refine ⟨by simp, fun later following after found => ?_⟩
    have inside := lt_length_of_eq_some found
    rw [List.length_append, List.length_singleton] at inside
    omega

theorem not_isEntry_concat_remove :
    ¬IsEntry (history ++ [.remove key]) key time := by
  rintro ⟨⟨found, sets, isSet⟩, stays, -⟩
  rcases getElem?_concat_eq_some.1 sets with earlier | ⟨-, rfl⟩
  · exact stays history.length (lt_length_of_eq_some earlier) (by simp)
  · obtain ⟨value, same⟩ := isSet
    cases same

/-- A key that was set and not removed since has an entry. -/
theorem exists_isEntry (sets : history[time]? = some operation) (isSet : operation.Sets key)
    (stays : ∀ later, time < later → history[later]? ≠ some (.remove key)) :
    ∃ time', IsEntry history key time' := by
  induction time using Nat.strong_induction_on generalizing operation with
  | _ time ih =>
    by_cases first : ∀ earlier before, earlier < time → history[earlier]? = some before →
        before.Sets key → ∃ between, earlier < between ∧ between < time ∧
          history[between]? = some (.remove key)
    · exact ⟨time, ⟨operation, sets, isSet⟩, stays, first⟩
    · push Not at first
      obtain ⟨earlier, before, precedes, found, isSet', kept⟩ := first
      refine ih earlier precedes found isSet' fun later following removal => ?_
      rcases Nat.lt_trichotomy later time with inside | rfl | beyond
      · exact kept later following inside removal
      · obtain ⟨value, rfl⟩ := isSet
        cases sets.symm.trans removal
      · exact stays later beyond removal

theorem IsEntry.unique {time' : Nat} (entry : IsEntry history key time)
    (entry' : IsEntry history key time') : time = time' := by
  have notBefore {time time' : Nat} (entry : IsEntry history key time)
      (entry' : IsEntry history key time') : ¬time < time' := by
    intro precedes
    obtain ⟨operation, sets, isSet⟩ := entry.sets
    obtain ⟨between, after, -, removal⟩ := entry'.first time operation precedes sets isSet
    exact entry.stays between after removal
  exact Nat.le_antisymm (Nat.le_of_not_lt (notBefore entry' entry))
    (Nat.le_of_not_lt (notBefore entry entry'))

/-- Unless it removes a key, an operation keeps the entry of the key, or gives it one. -/
theorem isEntry_concat (kept : operation ≠ .remove key) :
    IsEntry (history ++ [operation]) key time ↔ IsEntry history key time ∨
      time = history.length ∧ operation.Sets key ∧ ∀ time', ¬IsEntry history key time' := by
  have removed {index : Nat} : (history ++ [operation])[index]? = some (.remove key) ↔
      history[index]? = some (.remove key) := by
    rw [getElem?_concat_eq_some]
    exact or_iff_left fun last => kept last.2
  constructor
  · rintro ⟨⟨found, sets, isSet⟩, stays, first⟩
    rcases getElem?_concat_eq_some.1 sets with earlier | ⟨rfl, rfl⟩
    · left
      refine ⟨⟨found, earlier, isSet⟩, fun later following => mt removed.2 (stays later following),
        fun before operation precedes sets isSet => ?_⟩
      obtain ⟨between, above, below, removal⟩ :=
        first before operation precedes (getElem?_concat_eq_some.2 (.inl sets)) isSet
      exact ⟨between, above, below, removed.1 removal⟩
    · right
      refine ⟨rfl, isSet, fun time' entry => ?_⟩
      obtain ⟨before, sets, isSet⟩ := entry.sets
      obtain ⟨between, above, -, removal⟩ := first time' before (lt_length_of_eq_some sets)
        (getElem?_concat_eq_some.2 (.inl sets)) isSet
      exact entry.stays between above (removed.1 removal)
  · rintro (⟨⟨found, sets, isSet⟩, stays, first⟩ | ⟨rfl, isSet, absent⟩)
    · refine ⟨⟨found, getElem?_concat_eq_some.2 (.inl sets), isSet⟩,
        fun later following => mt removed.1 (stays later following),
        fun before operation precedes known isSet => ?_⟩
      have inside : before < history.length := precedes.trans (lt_length_of_eq_some sets)
      have known := (getElem?_concat_eq_some.1 known).resolve_right fun last => inside.ne last.1
      obtain ⟨between, above, below, removal⟩ := first before operation precedes known isSet
      exact ⟨between, above, below, removed.2 removal⟩
    · refine ⟨⟨operation, by simp, isSet⟩, fun later following => ?_,
        fun before operation precedes known isSet => ?_⟩
      · rw [ne_eq, removed]
        intro removal
        exact following.asymm (lt_length_of_eq_some removal)
      · have known := (getElem?_concat_eq_some.1 known).resolve_right fun last =>
          precedes.ne last.1
        by_contra everLater
        obtain ⟨time', entry⟩ := exists_isEntry known isSet fun later following removal =>
          everLater ⟨later, following, lt_length_of_eq_some removal, removed.2 removal⟩
        exact absent time' entry

theorem isEntry_concat_of_ne (other : operation.edited? ≠ some key) :
    IsEntry (history ++ [operation]) key time ↔ IsEntry history key time := by
  rw [isEntry_concat]
  · exact or_iff_left fun new => other (Operation.edited?_of_sets new.2.1)
  · rintro rfl
    exact other rfl

/-! ## What each operation keeps -/

namespace Reflects

variable {table : OptionTable R}

theorem isEntry_of_mem (reflects : table.Reflects history) (member : key ∈ table.keys) :
    ∃ time < history.length, IsEntry history key time := by
  obtain ⟨time, entry⟩ := (reflects.present key).1 member
  obtain ⟨_, sets, -⟩ := entry.sets
  exact ⟨time, lt_length_of_eq_some sets, entry⟩

theorem get (reflects : table.Reflects history) (key : String) :
    table.Reflects (history ++ [.get key]) := by
  have other (key' : String) : (Operation.get key : Operation R).edited? ≠ some key' := nofun
  constructor
  case distinct => exact reflects.distinct
  case value => simpa only [isLastSet_concat_of_ne (other _)] using reflects.value
  case present => simpa only [isEntry_concat_of_ne (other _)] using reflects.present
  case order => simpa only [isEntry_concat_of_ne (other _)] using reflects.order

theorem set (reflects : table.Reflects history) (key : String) (value : OptionValue R) :
    (table.set key value).Reflects (history ++ [.set key value]) := by
  have notRemove (key' : String) : Operation.set key value ≠ .remove key' := nofun
  have kept {key' : String} {time : Nat} (entry : IsEntry history key' time) :
      IsEntry (history ++ [.set key value]) key' time :=
    (isEntry_concat (notRemove key')).2 (.inl entry)
  have stand : table.keys.Pairwise fun first second => ∃ time time',
      IsEntry (history ++ [.set key value]) first time ∧
        IsEntry (history ++ [.set key value]) second time' ∧ time < time' :=
    reflects.order.imp fun ⟨time, time', entry, entry', precedes⟩ =>
      ⟨time, time', kept entry, kept entry', precedes⟩
  -- A key without an entry gets one at the end.
  have new (absent : key ∉ table.keys) :
      IsEntry (history ++ [.set key value]) key history.length := by
    refine (isEntry_concat (notRemove key)).2 (.inr ⟨rfl, ⟨value, rfl⟩, fun time entry => ?_⟩)
    exact absent ((reflects.present key).2 ⟨time, entry⟩)
  constructor
  case distinct =>
    rw [keys_set]
    split
    case isTrue => exact reflects.distinct
    case isFalse absent => exact List.concat_eq_append ▸ reflects.distinct.concat absent
  case value =>
    intro key' value'
    rw [get?_set]
    split
    case isTrue same =>
      subst same
      simp only [isLastSet_concat_of_eq (show (Operation.set key' value).edited? = _ from rfl),
        Operation.set.injEq, true_and, exists_and_left, exists_eq, and_true, Option.some.injEq]
    case isFalse different =>
      simp only [isLastSet_concat_of_ne (show (Operation.set key value).edited? ≠ some key' from
        fun same => different (Option.some.inj same).symm)]
      exact reflects.value key' value'
  case present =>
    intro key'
    have known : key' ∈ (table.set key value).keys ↔ key' ∈ table.keys ∨ key' = key := by
      rw [keys_set]
      split
      case isTrue member =>
        refine (or_iff_left_of_imp ?_).symm
        rintro rfl
        exact member
      case isFalse => rw [List.mem_append, List.mem_singleton]
    rw [known]
    constructor
    · rintro (member | rfl)
      · obtain ⟨time, -, entry⟩ := reflects.isEntry_of_mem member
        exact ⟨time, kept entry⟩
      · by_cases member : key' ∈ table.keys
        · obtain ⟨time, -, entry⟩ := reflects.isEntry_of_mem member
          exact ⟨time, kept entry⟩
        · exact ⟨_, new member⟩
    · rintro ⟨time, entry⟩
      rcases (isEntry_concat (notRemove key')).1 entry with entry | ⟨-, ⟨_, same⟩, -⟩
      · exact .inl ((reflects.present key').2 ⟨time, entry⟩)
      · exact .inr (Operation.set.inj same).1.symm
  case order =>
    rw [keys_set]
    split
    case isTrue => exact stand
    case isFalse absent =>
      rw [List.pairwise_append]
      refine ⟨stand, List.pairwise_singleton _ _, fun first member second last => ?_⟩
      rw [List.mem_singleton] at last
      obtain ⟨time, inside, entry⟩ := reflects.isEntry_of_mem member
      exact ⟨time, history.length, kept entry, last ▸ new absent, inside⟩

theorem erase (reflects : table.Reflects history) (key : String) :
    (table.erase key).Reflects (history ++ [.remove key]) := by
  have other {key' : String} (different : key' ≠ key) :
      (Operation.remove key : Operation R).edited? ≠ some key' :=
    fun same => different (Option.some.inj same).symm
  constructor
  case distinct =>
    rw [keys_erase]
    exact reflects.distinct.erase key
  case value =>
    intro key' value
    rw [get?_erase reflects.distinct]
    split
    case isTrue same =>
      subst same
      simp [isLastSet_concat_of_eq (show (Operation.remove key' : Operation R).edited? = _ from rfl)]
    case isFalse different =>
      simp only [isLastSet_concat_of_ne (other different)]
      exact reflects.value key' value
  case present =>
    intro key'
    rw [keys_erase, reflects.distinct.mem_erase_iff]
    by_cases same : key' = key
    · subst same
      simp [not_isEntry_concat_remove]
    · simp only [isEntry_concat_of_ne (other same), ne_eq, same, not_false_eq_true, true_and]
      exact reflects.present key'
  case order =>
    rw [keys_erase]
    refine (reflects.order.sublist List.erase_sublist).imp_of_mem ?_
    rintro first second member member' ⟨time, time', entry, entry', precedes⟩
    have different := ((reflects.distinct.mem_erase_iff).1 member).1
    have different' := ((reflects.distinct.mem_erase_iff).1 member').1
    exact ⟨time, time', (isEntry_concat_of_ne (other different)).2 entry,
      (isEntry_concat_of_ne (other different')).2 entry', precedes⟩

/-- An operation keeps a table the ordered map of its history. -/
theorem run (reflects : table.Reflects history) (operation : Operation R) :
    (operation.run table).2.Reflects (history ++ [operation]) := by
  cases operation with
  | set key value => exact reflects.set key value
  | remove key =>
      rw [Operation.run, remove_eq]
      exact reflects.erase key
  | get key => exact reflects.get key

end Reflects

/-- Every history on a new table leaves the ordered map of the history. -/
theorem after_reflects (history : List (Operation R)) : (after history).Reflects history := by
  induction history using List.reverseRecOn with
  | nil =>
      constructor
      case distinct => exact List.nodup_nil
      case value => exact fun key value => iff_of_false nofun fun ⟨_, last⟩ => nomatch last.sets
      case present =>
        exact fun key => iff_of_false List.not_mem_nil fun ⟨_, entry⟩ => by simpa using entry.sets
      case order => exact List.Pairwise.nil
  | append_singleton history operation ih =>
      rw [after_concat]
      exact ih.run operation

end OptionTable

end NonlinearProgram

import Mathlib.Data.Finset.Card
import TemplateCompiler.Stored
import TemplateCompiler.Token.Types

namespace TemplateCompiler

inductive TypeCall where
  | register (registry : RegistryKey) (name : String)
  | lookup (registry : RegistryKey) (name : String)
  | nameOf (registry : RegistryKey) (id : Nat)
  | size (registry : RegistryKey)

inductive TypeAnswer where
  | number (id : Nat)
  | found (id? : Option Nat)
  | name (name? : Option String)
  | count (size : Nat)
deriving DecidableEq

structure TypeEvent where
  call : TypeCall
  answer : TypeAnswer

namespace TypeTable

def reply (table : TypeTable) : TypeCall → TypeAnswer × TypeTable
  | .register registry name =>
    (.number (table.register registry name).1, (table.register registry name).2)
  | .lookup registry name => (.found (table.lookup registry name), table)
  | .nameOf registry id => (.name (table.nameOf registry id), table)
  | .size registry => (.count (table.size registry), table)

def events (table : TypeTable) : List TypeCall → List TypeEvent
  | [] => []
  | call :: calls => ⟨call, (table.reply call).1⟩ :: (table.reply call).2.events calls

end TypeTable

def TypeCall.registers? : TypeCall → Option (RegistryKey × String)
  | .register registry name => some (registry, name)
  | _ => none

namespace TypeEvent

def number? (registry : RegistryKey) (name : String) : TypeEvent → Option Nat
  | ⟨.register registry' name', .number id⟩ =>
    if registry' = registry ∧ name' = name then some id else none
  | _ => none

theorem number?_eq_some {event : TypeEvent} {registry : RegistryKey} {name : String} {id : Nat}
    (gives : event.number? registry name = some id) :
    event = ⟨.register registry name, .number id⟩ := by
  unfold number? at gives
  split at gives
  · split at gives
    · rename_i same
      obtain ⟨rfl, rfl⟩ := same
      cases gives
      rfl
    · cases gives
  · cases gives

-- The names registered so far, each once for a registry however often it was registered there.
def registered (past : List TypeEvent) : Finset (RegistryKey × String) :=
  (past.filterMap (·.call.registers?)).toFinset

def Gives (past : List TypeEvent) (registry : RegistryKey) (name : String) (id : Nat) : Prop :=
  ⟨.register registry name, .number id⟩ ∈ past

theorem registered_append (past : List TypeEvent) (registry : RegistryKey) (name : String)
    (answer : TypeAnswer) : registered (past ++ [⟨.register registry name, answer⟩]) =
      insert (registry, name) (registered past) := by
  ext entry
  simp [registered, TypeCall.registers?, eq_comm]

theorem gives_append {past : List TypeEvent} {registry registry' : RegistryKey}
    {name name' : String} {id id' : Nat} :
    Gives (past ++ [⟨.register registry name, .number id⟩]) registry' name' id' ↔
      Gives past registry' name' id' ∨ registry' = registry ∧ name' = name ∧ id' = id := by
  simp [Gives, and_assoc]

def firstNumber (past : List TypeEvent) (registry : RegistryKey) (name : String) : Option Nat :=
  past.findSome? (·.number? registry name)

-- The answer that the past calls for. A new name takes the next number after those of all the
-- names before it, in whatever registry.
def Answered (past : List TypeEvent) : TypeCall → TypeAnswer → Prop
  | .register registry name, answer => answer =
    .number ((firstNumber past registry name).getD (firstCustomId + (registered past).card))
  | .lookup registry name, answer => answer = .found (firstNumber past registry name)
  | .nameOf registry id, answer =>
    ∃ name?, answer = .name name? ∧ ∀ name, name? = some name ↔ Gives past registry name id
  | .size registry, answer => answer = .count ((registered past).filter (·.1 = registry)).card

-- The counter never ends here. `narrow` says for how long 32 bits hold what it counts.
structure Numbering (events : List TypeEvent) : Prop where
  distinct : ∀ {registry registry' name name' id id'}, Gives events registry name id →
    Gives events registry' name' id' → (id = id' ↔ registry = registry' ∧ name = name')
  custom : ∀ {registry name id}, Gives events registry name id →
    firstCustomId ≤ id ∧ ∀ kind : TokenKind, kind.id = id → kind = .custom id
  narrow : ∀ {registry name id}, Gives events registry name id →
    (registered events).card < countLimit - firstCustomId → id < countLimit
  answered : ∀ {past event later}, events = past ++ event :: later →
    Answered past event.call event.answer

end TypeEvent

namespace TypeEntry

def key (entry : TypeEntry) : RegistryKey × String := (entry.registry, entry.name)

theorem find?_eq_some_iff {entries : List TypeEntry} {entry : TypeEntry} {p : TypeEntry → Bool}
    (single : ∀ one ∈ entries, ∀ other ∈ entries, p one → p other → one = other) :
    entries.find? p = some entry ↔ entry ∈ entries ∧ p entry := by
  constructor
  · intro found
    exact ⟨List.mem_of_find?_eq_some found, List.find?_some found⟩
  · rintro ⟨present, holds⟩
    cases found : entries.find? p with
    | none => exact absurd holds (List.find?_eq_none.mp found entry present)
    | some other =>
      have same := single other (List.mem_of_find?_eq_some found) entry present
        (List.find?_some found) holds
      exact congrArg some same

end TypeEntry

open TypeEvent

structure TypeTable.Recalls (table : TypeTable) (past : List TypeEvent) : Prop where
  next : table.next = firstCustomId + table.entries.length
  numbers : table.entries.map (·.id) = List.range' firstCustomId table.entries.length
  names : (table.entries.map (·.key)).Nodup
  registered : registered past = (table.entries.map (·.key)).toFinset
  gives : ∀ registry name id, Gives past registry name id ↔ ⟨registry, name, id⟩ ∈ table.entries

namespace TypeTable.Recalls
variable {table : TypeTable} {past : List TypeEvent}

theorem empty : TypeTable.empty.Recalls [] := by
  refine ⟨rfl, rfl, List.nodup_nil, rfl, ?_⟩
  intro registry name id
  simp [Gives, TypeTable.empty]

theorem same_name (recalls : table.Recalls past) {entry other : TypeEntry}
    (one : entry ∈ table.entries) (two : other ∈ table.entries)
    (registry : entry.registry = other.registry) (name : entry.name = other.name) :
    entry = other := by
  apply List.inj_on_of_nodup_map recalls.names one two
  exact Prod.ext registry name

theorem same_number (recalls : table.Recalls past) {entry other : TypeEntry}
    (one : entry ∈ table.entries) (two : other ∈ table.entries) (same : entry.id = other.id) :
    entry = other := by
  have distinct : (table.entries.map (·.id)).Nodup := recalls.numbers ▸ List.nodup_range'
  exact List.inj_on_of_nodup_map distinct one two same

theorem id_bounds (recalls : table.Recalls past) {entry : TypeEntry}
    (present : entry ∈ table.entries) :
    firstCustomId ≤ entry.id ∧ entry.id < firstCustomId + table.entries.length := by
  have listed : entry.id ∈ table.entries.map (·.id) := List.mem_map_of_mem present
  rw [recalls.numbers] at listed
  simpa using List.mem_range'_1.mp listed

theorem card_registered (recalls : table.Recalls past) :
    (TypeEvent.registered past).card = table.entries.length := by
  rw [recalls.registered, List.toFinset_card_of_nodup recalls.names, List.length_map]

theorem lookup_eq_some (recalls : table.Recalls past) {registry : RegistryKey} {name : String}
    {id : Nat} : table.lookup registry name = some id ↔ Gives past registry name id := by
  have single : ∀ one ∈ table.entries, ∀ other ∈ table.entries,
      decide (one.registry = registry ∧ one.name = name) →
      decide (other.registry = registry ∧ other.name = name) → one = other := by
    simp only [decide_eq_true_eq]
    rintro one first other second ⟨rfl, rfl⟩ ⟨registry, name⟩
    exact recalls.same_name first second registry.symm name.symm
  rw [recalls.gives, lookup, Option.map_eq_some_iff]
  simp only [TypeEntry.find?_eq_some_iff single, decide_eq_true_eq]
  constructor
  · rintro ⟨entry, ⟨present, rfl, rfl⟩, rfl⟩
    exact present
  · intro present
    exact ⟨_, ⟨present, rfl, rfl⟩, rfl⟩

theorem nameOf_eq_some (recalls : table.Recalls past) {registry : RegistryKey} {name : String}
    {id : Nat} : table.nameOf registry id = some name ↔ Gives past registry name id := by
  have single : ∀ one ∈ table.entries, ∀ other ∈ table.entries,
      decide (one.registry = registry ∧ one.id = id) →
      decide (other.registry = registry ∧ other.id = id) → one = other := by
    simp only [decide_eq_true_eq]
    rintro one first other second ⟨-, rfl⟩ ⟨-, id⟩
    exact recalls.same_number first second id.symm
  rw [recalls.gives, nameOf, Option.map_eq_some_iff]
  simp only [TypeEntry.find?_eq_some_iff single, decide_eq_true_eq]
  constructor
  · rintro ⟨entry, ⟨present, rfl, rfl⟩, rfl⟩
    exact present
  · intro present
    exact ⟨_, ⟨present, rfl, rfl⟩, rfl⟩

theorem size_eq (recalls : table.Recalls past) (registry : RegistryKey) :
    table.size registry = ((TypeEvent.registered past).filter (·.1 = registry)).card := by
  let names := (table.entries.map (·.key)).filter (·.1 = registry)
  have here : (TypeEvent.registered past).filter (·.1 = registry) = names.toFinset := by
    ext entry
    simp [names, recalls.registered]
  rw [here, List.toFinset_card_of_nodup (recalls.names.filter _), List.filter_map, List.length_map]
  rfl

theorem firstNumber_eq (recalls : table.Recalls past) (registry : RegistryKey) (name : String) :
    firstNumber past registry name = table.lookup registry name := by
  cases found : firstNumber past registry name with
  | none =>
    cases known : table.lookup registry name with
    | none => rfl
    | some id =>
      have given := recalls.lookup_eq_some.mp known
      have missed := List.findSome?_eq_none_iff.mp found _ given
      simp [number?] at missed
  | some id =>
    obtain ⟨event, present, gives⟩ := List.exists_of_findSome?_eq_some found
    rw [number?_eq_some gives] at present
    exact (recalls.lookup_eq_some.mpr present).symm

theorem answered (recalls : table.Recalls past) (call : TypeCall) :
    Answered past call (table.reply call).1 := by
  cases call with
  | register registry name =>
    simp only [Answered, reply, register, recalls.firstNumber_eq, recalls.card_registered]
    cases table.lookup registry name with
    | none => simp [recalls.next]
    | some id => rfl
  | lookup registry name => simp only [Answered, reply, recalls.firstNumber_eq]
  | nameOf registry id => exact ⟨_, rfl, fun name => recalls.nameOf_eq_some⟩
  | size registry => simp only [Answered, reply, recalls.size_eq]

theorem silent (recalls : table.Recalls past) {call : TypeCall} (answer : TypeAnswer)
    (idle : call.registers? = none) : table.Recalls (past ++ [⟨call, answer⟩]) := by
  refine ⟨recalls.next, recalls.numbers, recalls.names, ?_, ?_⟩
  · rw [← recalls.registered]
    simp [TypeEvent.registered, idle]
  · intro registry name id
    rw [← recalls.gives]
    have other : (⟨.register registry name, .number id⟩ : TypeEvent) ≠ ⟨call, answer⟩ := by
      rintro ⟨⟩
      cases idle
    simp [Gives, other]

theorem again (recalls : table.Recalls past) {registry : RegistryKey} {name : String}
    {id : Nat} (known : table.lookup registry name = some id) :
    table.Recalls (past ++ [⟨.register registry name, .number id⟩]) := by
  have given : Gives past registry name id := recalls.lookup_eq_some.mp known
  have present := (recalls.gives _ _ _).mp given
  refine ⟨recalls.next, recalls.numbers, recalls.names, ?_, ?_⟩
  · have listed : (registry, name) ∈ TypeEvent.registered past := by
      rw [recalls.registered, List.mem_toFinset]
      exact List.mem_map_of_mem present
    rw [registered_append, Finset.insert_eq_of_mem listed, recalls.registered]
  · intro registry' name' id'
    rw [gives_append, recalls.gives, or_iff_left_of_imp]
    rintro ⟨rfl, rfl, rfl⟩
    exact present

theorem fresh (recalls : table.Recalls past) {registry : RegistryKey} {name : String}
    (unknown : table.lookup registry name = none) :
    (⟨table.next + 1, table.entries ++ [⟨registry, name, table.next⟩]⟩ : TypeTable).Recalls
      (past ++ [⟨.register registry name, .number table.next⟩]) := by
  have fresh : (registry, name) ∉ table.entries.map (·.key) := by
    intro listed
    obtain ⟨entry, present, rfl, rfl⟩ : ∃ entry ∈ table.entries,
        entry.registry = registry ∧ entry.name = name := by
      simpa [TypeEntry.key] using listed
    have known := recalls.lookup_eq_some.mpr ((recalls.gives _ _ _).mpr present)
    exact absurd (unknown.symm.trans known) nofun
  refine ⟨?_, ?_, ?_, ?_, ?_⟩
  · simp only [recalls.next, List.length_append, List.length_singleton, Nat.add_assoc]
  · rw [List.map_append, recalls.numbers, List.length_append, List.length_singleton,
      List.range'_concat, Nat.one_mul, ← recalls.next]
    rfl
  · rw [List.map_append]
    apply recalls.names.append (List.nodup_singleton _)
    simpa [TypeEntry.key] using fresh
  · rw [registered_append, recalls.registered]
    ext entry
    simp [TypeEntry.key]
  · intro registry' name' id'
    rw [gives_append, recalls.gives, List.mem_append, List.mem_singleton, TypeEntry.mk.injEq]

theorem reply (recalls : table.Recalls past) (call : TypeCall) :
    (table.reply call).2.Recalls (past ++ [⟨call, (table.reply call).1⟩]) := by
  cases call with
  | register registry name =>
    cases known : table.lookup registry name with
    | none => simpa [TypeTable.reply, register, known] using recalls.fresh known
    | some id => simpa [TypeTable.reply, register, known] using recalls.again known
  | lookup registry name => exact recalls.silent _ rfl
  | nameOf registry id => exact recalls.silent _ rfl
  | size registry => exact recalls.silent _ rfl

-- Along a run every answer is the one that the past before it calls for.
theorem run (recalls : table.Recalls past) (calls : List TypeCall) :
    (∃ final : TypeTable, final.Recalls (past ++ table.events calls)) ∧
      ∀ {before event later}, table.events calls = before ++ event :: later →
        Answered (past ++ before) event.call event.answer := by
  induction calls generalizing table past with
  | nil =>
    refine ⟨⟨table, by simpa [TypeTable.events] using recalls⟩, ?_⟩
    intro before event later split
    simp [TypeTable.events] at split
  | cons call calls ih =>
    obtain ⟨final, answers⟩ := ih (recalls.reply call)
    rw [List.append_assoc] at final
    refine ⟨final, ?_⟩
    intro before event later split
    cases before with
    | nil =>
      cases split
      rw [List.append_nil]
      exact recalls.answered call
    | cons first before =>
      obtain ⟨rfl, rest⟩ := List.cons.inj split
      simpa using answers rest

theorem distinct (recalls : table.Recalls past) {registry registry' : RegistryKey}
    {name name' : String} {id id' : Nat} (one : Gives past registry name id)
    (two : Gives past registry' name' id') : id = id' ↔ registry = registry' ∧ name = name' := by
  have first := (recalls.gives _ _ _).mp one
  have second := (recalls.gives _ _ _).mp two
  constructor
  · intro same
    cases recalls.same_number first second same
    exact ⟨rfl, rfl⟩
  · rintro ⟨registry, name⟩
    cases recalls.same_name first second registry name
    rfl

theorem custom (recalls : table.Recalls past) {registry : RegistryKey} {name : String} {id : Nat}
    (given : Gives past registry name id) :
    firstCustomId ≤ id ∧ ∀ kind : TokenKind, kind.id = id → kind = .custom id := by
  have lowest : firstCustomId ≤ id := (recalls.id_bounds ((recalls.gives _ _ _).mp given)).1
  refine ⟨lowest, ?_⟩
  rintro kind rfl
  cases kind with
  | custom id => rfl
  | _ => exact absurd lowest (by decide)

theorem narrow (recalls : table.Recalls past) {registry : RegistryKey} {name : String} {id : Nat}
    (given : Gives past registry name id)
    (few : (TypeEvent.registered past).card < countLimit - firstCustomId) : id < countLimit := by
  have highest : id < firstCustomId + table.entries.length :=
    (recalls.id_bounds ((recalls.gives _ _ _).mp given)).2
  rw [recalls.card_registered] at few
  omega

end TypeTable.Recalls

-- Across all registries a number stands for one name in one of them, and every answer is told by
-- the calls before it.
theorem TypeTable.events_numbering (calls : List TypeCall) :
    Numbering (TypeTable.empty.events calls) := by
  obtain ⟨⟨final, recalls⟩, answered⟩ := Recalls.empty.run calls
  exact ⟨recalls.distinct, recalls.custom, recalls.narrow, answered⟩

example : (TypeTable.empty.events [.register .shared "slot", .register (.own 0) "slot",
    .register .shared "slot", .nameOf (.own 0) 1000, .size .shared]).map (·.answer) =
      [.number 1000, .number 1001, .number 1000, .name none, .count 1] := by decide

end TemplateCompiler

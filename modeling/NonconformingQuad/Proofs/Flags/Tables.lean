import Mathlib.Data.List.Perm.Basic
import Mathlib.Data.Nat.Bitwise
import NonconformingQuad.Flags.Closure
import NonconformingQuad.Proofs.Literal
import NonconformingQuad.Proofs.Outcome

/-! Dependency tables, accepted and refused. A table is accepted exactly when it lists sound
dependencies of which none opens another, so an accepted table and its dependencies determine each
other. Keys of a table are distinct, because an equal key replaces the value that is there. -/
namespace NonconformingQuad

def Fault.isTableRefusal {K : Type} : Fault K → Bool
  | .tableKey _ | .tableDependencies _ _ | .tableKeyMissing _ _ | .tableNotClosed _ _ _ => true
  | _ => false

namespace UpdateFlags

/-- Two requests have a bit in common. -/
def meets (f g : UpdateFlags) : Bool := f.bits &&& g.bits != 0

theorem meets_only (f : UpdateFlags) (q : Quantity) : f.meets (only q) = f.has q := by
  rw [meets, only, Nat.shiftLeft_eq, Nat.one_mul, Nat.and_two_pow, has]
  cases f.bits.testBit q.index <;> simp

theorem only_inj {p q : Quantity} (same : only p = only q) : p = q := by
  have shown : (only q).has p := by
    rw [← same, only_has, beq_self_eq_true]
  rw [only_has, beq_iff_eq] at shown
  exact shown.symm

theorem single?_eq_some_iff {f : UpdateFlags} {q : Quantity} :
    f.single? = some q ↔ f = only q := by
  constructor
  · intro found
    exact eq_of_beq (List.find?_some (p := fun q => f == only q) found)
  · rintro rfl
    cases q <;> rfl

end UpdateFlags

namespace Entry

/-- The entry is the update flag of one quantity. -/
def IsSingle (e : Entry) : Prop := ∃ q, e = .flags (.only q)

/-- The entry is a set of update flags in which every bit names a quantity. -/
def IsKnown (e : Entry) : Prop := ∃ f : UpdateFlags, e = .flags f ∧ f.isKnown

theorem same_flags (f g : UpdateFlags) : (flags f).same (.flags g) = decide (f = g) := by
  rw [same, value, value, Literal.same_int, decide_eq_decide, Int.ofNat_inj]
  exact ⟨congrArg UpdateFlags.mk, congrArg UpdateFlags.bits⟩

end Entry

namespace Dependency

/-- Every needed bit names a quantity, and the quantity itself is needed. -/
structure IsSound (d : Dependency) : Prop where
  known : d.needs.isKnown
  own : d.needs.has d.key

def entry (d : Dependency) : Entry × Entry := (.flags (.only d.key), .flags d.needs)

theorem entry_injective : Function.Injective entry := by
  intro d other same
  obtain ⟨keys, needs⟩ := Prod.mk.inj same
  cases d
  cases other
  simp only [Entry.flags.injEq] at keys needs
  rw [UpdateFlags.only_inj keys, needs]

end Dependency

namespace FlagClosure
variable {K : Type}

theorem forall_put {P : Entry → Prop} {t : List (Entry × Entry)} {key : Entry} (value : Entry)
    (old : ∀ e ∈ t, P e.1) (new : P key) : ∀ e ∈ put t key value, P e.1 := by
  induction t with
  | nil => simpa [put] using new
  | cons first rest ih =>
    obtain ⟨head, others⟩ := List.forall_mem_cons.mp old
    rw [put]
    split
    · exact List.forall_mem_cons.mpr ⟨head, others⟩
    · exact List.forall_mem_cons.mpr ⟨head, ih others⟩

/-- No key of the table equals an earlier one. -/
def HasDistinctKeys (entries : List (Entry × Entry)) : Prop :=
  entries.Pairwise fun a b => a.1.same b.1 = false

theorem HasDistinctKeys.put {t : List (Entry × Entry)} (distinct : HasDistinctKeys t)
    (key value : Entry) : HasDistinctKeys (put t key value) := by
  induction t with
  | nil => exact List.pairwise_singleton _ _
  | cons first rest ih =>
    obtain ⟨apart, others⟩ := List.pairwise_cons.mp distinct
    rw [FlagClosure.put]
    split
    · exact List.pairwise_cons.mpr ⟨apart, others⟩
    · next differs =>
      refine List.pairwise_cons.mpr ⟨?_, ih others⟩
      exact forall_put (P := fun k => first.1.same k = false) value apart (by simpa using differs)

theorem hasDistinctKeys_table (pairs : List (Entry × Entry)) : HasDistinctKeys (table pairs) := by
  have empty : HasDistinctKeys [] := List.Pairwise.nil
  unfold table
  -- the induction is over the pairs, for every table that they are put into
  generalize ([] : List (Entry × Entry)) = t at empty ⊢
  induction pairs generalizing t with
  | nil => exact empty
  | cons first rest ih => exact ih _ (empty.put first.1 first.2)

theorem dependency?_eq_ok_iff {entry : Entry × Entry} {d : Dependency} :
    (dependency? entry.1 entry.2 : Except (Fault K) _) = .ok d ↔ d.IsSound ∧ entry = d.entry := by
  obtain ⟨key, value⟩ := entry
  constructor
  · intro accepted
    rw [dependency?] at accepted
    split at accepted
    · cases accepted
    · next q single =>
      split at accepted
      · cases accepted
      · next f given =>
        obtain ⟨g, isKey, single⟩ := Option.bind_eq_some_iff.mp single
        obtain ⟨isValue, known⟩ := Option.filter_eq_some_iff.mp given
        cases key <;> cases isKey
        cases value <;> cases isValue
        split at accepted
        · next own =>
          cases accepted
          exact ⟨⟨known, own⟩, by rw [UpdateFlags.single?_eq_some_iff.mp single]; rfl⟩
        · cases accepted
  · rintro ⟨sound, same⟩
    cases same
    have single : (UpdateFlags.only d.key).single? = some d.key :=
      UpdateFlags.single?_eq_some_iff.mpr rfl
    simp only [dependency?, Entry.flags?, Option.bind_some, single, Option.filter, sound.known,
      sound.own, if_true]

/-- What is wrong with an entry of a refused table, if not its relation to other entries. -/
theorem dependency?_eq_error {entry : Entry × Entry} {e : Fault K}
    (refused : dependency? entry.1 entry.2 = .error e) :
    e.isTableRefusal ∧ (¬entry.1.IsSingle ∨ ¬entry.2.IsKnown ∨
      ∃ key needs, entry = (.flags key, .flags needs) ∧ ¬needs.meets key) := by
  obtain ⟨key, value⟩ := entry
  rw [dependency?] at refused
  split at refused
  · next none =>
    cases refused
    refine ⟨rfl, .inl ?_⟩
    rintro ⟨q, rfl⟩
    rw [Entry.flags?, Option.bind_some, UpdateFlags.single?_eq_some_iff.mpr rfl] at none
    cases none
  · next q single =>
    obtain ⟨g, isKey, single⟩ := Option.bind_eq_some_iff.mp single
    cases key <;> cases isKey
    cases UpdateFlags.single?_eq_some_iff.mp single
    split at refused
    · next none =>
      cases refused
      refine ⟨rfl, .inr (.inl ?_)⟩
      rintro ⟨f, rfl, known⟩
      simp [Entry.flags?, Option.filter, known] at none
    · next f given =>
      obtain ⟨isValue, -⟩ := Option.filter_eq_some_iff.mp given
      cases value <;> cases isValue
      split at refused
      · cases refused
      · next missing =>
        cases refused
        refine ⟨rfl, .inr (.inr ⟨_, f, rfl, ?_⟩)⟩
        rwa [UpdateFlags.meets_only]

theorem gap?_eq_some {ds : List Dependency} {d other : Dependency}
    (found : gap? ds = some (d, other)) : d ∈ ds ∧ other ∈ ds ∧ opens d other := by
  obtain ⟨d', first, found⟩ := List.exists_of_findSome?_eq_some found
  obtain ⟨other', second, same⟩ := Option.map_eq_some_iff.mp found
  cases same
  exact ⟨first, List.mem_of_find?_eq_some second,
    List.find?_some (p := fun other => opens d other) second⟩

theorem gap?_eq_none_iff {ds : List Dependency} :
    gap? ds = none ↔ ∀ d ∈ ds, ∀ other ∈ ds, ¬opens d other := by
  simp only [gap?, List.findSome?_eq_none_iff, Option.map_eq_none_iff, List.find?_eq_none]

theorem ofTable_eq_ok_iff {entries : List (Entry × Entry)} {c : FlagClosure} :
    (ofTable entries : Except (Fault K) _) = .ok c ↔
      (∀ d ∈ c.dependencies, d.IsSound) ∧ entries = c.dependencies.map Dependency.entry ∧
        ∀ d ∈ c.dependencies, ∀ other ∈ c.dependencies, ¬opens d other := by
  have rows : ∀ ds, (entries.mapM fun e => (dependency? e.1 e.2 : Except (Fault K) _)) = .ok ds ↔
      (∀ d ∈ ds, d.IsSound) ∧ entries = ds.map Dependency.entry :=
    Outcome.mapM_eq_ok_iff (fun _ _ => dependency?_eq_ok_iff) entries
  simp only [ofTable, Outcome.bind_eq_ok_iff, rows]
  constructor
  · rintro ⟨ds, ⟨sound, same⟩, accepted⟩
    split at accepted
    · cases accepted
    · next closed =>
      cases accepted
      exact ⟨sound, same, gap?_eq_none_iff.mp closed⟩
  · rintro ⟨sound, same, closed⟩
    refine ⟨c.dependencies, ⟨sound, same⟩, ?_⟩
    rw [gap?_eq_none_iff.mpr closed]
    rfl

/-- A refused table has an entry that states no sound dependency, or a dependency that opens
another one. -/
theorem ofTable_eq_error {entries : List (Entry × Entry)} {e : Fault K}
    (refused : ofTable entries = .error e) :
    e.isTableRefusal ∧
      ((∃ entry ∈ entries, ∃ e' : Fault K, dependency? entry.1 entry.2 = .error e') ∨
        ∃ ds : List Dependency, (∀ d ∈ ds, d.IsSound) ∧ entries = ds.map Dependency.entry ∧
          ∃ d ∈ ds, ∃ other ∈ ds, opens d other) := by
  cases rows : entries.mapM fun e => (dependency? e.1 e.2 : Except (Fault K) _) with
  | error e' =>
    obtain ⟨entry, member, failed⟩ := Outcome.mapM_eq_error rows
    simp only [ofTable, rows, bind, Except.bind, Except.error.injEq] at refused
    subst e'
    exact ⟨(dependency?_eq_error failed).1, .inl ⟨entry, member, e, failed⟩⟩
  | ok ds =>
    simp only [ofTable, rows, bind, Except.bind] at refused
    split at refused
    · next d other found =>
      cases refused
      obtain ⟨first, second, opened⟩ := gap?_eq_some found
      obtain ⟨sound, same⟩ := (Outcome.mapM_eq_ok_iff
        (fun _ _ => dependency?_eq_ok_iff) entries ds).mp rows
      exact ⟨rfl, .inr ⟨ds, sound, same, d, first, other, second, opened⟩⟩
    · cases refused

/-- The dependencies of a reordered table are those of the table, reordered. -/
theorem exists_perm_dependencies {entries : List (Entry × Entry)} {ds : List Dependency}
    (sound : ∀ d ∈ ds, d.IsSound) (reordered : entries.Perm (ds.map Dependency.entry)) :
    ∃ others : List Dependency, others.Perm ds ∧ entries = others.map Dependency.entry := by
  cases rows : entries.mapM fun e => (dependency? e.1 e.2 : Except (Fault Unit) _) with
  | error e =>
    obtain ⟨entry, member, failed⟩ := Outcome.mapM_eq_error rows
    obtain ⟨d, inside, rfl⟩ := List.mem_map.mp (reordered.mem_iff.mp member)
    rw [dependency?_eq_ok_iff.mpr ⟨sound d inside, rfl⟩] at failed
    cases failed
  | ok others =>
    obtain ⟨-, same⟩ := (Outcome.mapM_eq_ok_iff
      (fun _ _ => dependency?_eq_ok_iff) entries others).mp rows
    refine ⟨others, ?_, same⟩
    rw [same] at reordered
    exact (List.map_perm_map_iff Dependency.entry_injective).mp reordered

end FlagClosure
end NonconformingQuad

import Mathlib.Data.List.Nodup
import Mathlib.Order.Lattice
import NonconformingQuad.Proofs.Flags.Closure
import NonconformingQuad.Proofs.Flags.Tables

/-! A single pass that asks the request and not the growing result is a closure exactly for the
tables that are accepted. On an accepted table the result has what every quantity in it needs: a
quantity that was not requested came in with one whose needs cover its own. -/
namespace NonconformingQuad

theorem Quantity.exists_index {n : Nat} (low : n < 6) : ∃ q : Quantity, n = q.index :=
  match n, low with
  | 0, _ => ⟨values, rfl⟩
  | 1, _ => ⟨gradients, rfl⟩
  | 2, _ => ⟨hessians, rfl⟩
  | 3, _ => ⟨points, rfl⟩
  | 4, _ => ⟨normals, rfl⟩
  | 5, _ => ⟨weights, rfl⟩

namespace UpdateFlags

theorem testBit_union (f g : UpdateFlags) (n : Nat) :
    (f.union g).bits.testBit n = (f.bits.testBit n || g.bits.testBit n) :=
  Nat.testBit_or _ _ n

theorem ext_testBit {f g : UpdateFlags} (same : ∀ n, f.bits.testBit n = g.bits.testBit n) :
    f = g :=
  congrArg UpdateFlags.mk (Nat.eq_of_testBit_eq same)

theorem within_iff {f g : UpdateFlags} :
    f.within g ↔ ∀ n, f.bits.testBit n → g.bits.testBit n := by
  rw [within, beq_iff_eq]
  constructor
  · intro absorbed n inside
    rw [← absorbed, Nat.testBit_or, inside, Bool.true_or]
  · intro inside
    apply Nat.eq_of_testBit_eq
    intro n
    rw [Nat.testBit_or]
    cases bit : f.bits.testBit n with
    | false => rfl
    | true => rw [inside n bit, Bool.true_or]

/-- Requests are ordered by inclusion, and the union of two is their supremum. -/
instance : SemilatticeSup UpdateFlags where
  le f g := f.within g
  le_refl f := within_iff.mpr fun _ inside => inside
  le_trans f g h first second :=
    within_iff.mpr fun n inside => within_iff.mp second n (within_iff.mp first n inside)
  le_antisymm f g first second :=
    ext_testBit fun n => Bool.eq_iff_iff.mpr ⟨within_iff.mp first n, within_iff.mp second n⟩
  sup := union
  le_sup_left f g := within_iff.mpr fun n inside => by rw [testBit_union, inside, Bool.true_or]
  le_sup_right f g := within_iff.mpr fun n inside => by rw [testBit_union, inside, Bool.or_true]
  sup_le f g h first second := within_iff.mpr fun n inside => by
    rw [testBit_union, Bool.or_eq_true] at inside
    exact inside.elim (within_iff.mp first n) (within_iff.mp second n)

theorem le_iff {f g : UpdateFlags} : f ≤ g ↔ ∀ n, f.bits.testBit n → g.bits.testBit n :=
  within_iff

theorem has_of_le {f g : UpdateFlags} (inside : f ≤ g) {q : Quantity} (asked : f.has q) :
    g.has q :=
  le_iff.mp inside q.index asked

theorem has_sup (f g : UpdateFlags) (q : Quantity) : (f ⊔ g).has q = (f.has q || g.has q) :=
  has_union f g q

theorem testBit_of_isKnown {f : UpdateFlags} (known : f.isKnown) {n : Nat}
    (unnamed : ∀ q : Quantity, n ≠ q.index) : f.bits.testBit n = false := by
  have high : 6 ≤ n := by
    by_contra low
    obtain ⟨q, named⟩ := Quantity.exists_index (not_le.mp low)
    exact unnamed q named
  apply Nat.testBit_lt_two_pow
  calc f.bits < 2 ^ 6 := by simpa [isKnown] using known
    _ ≤ 2 ^ n := Nat.pow_le_pow_right (by decide) high

end UpdateFlags

namespace FlagClosure

/-- What an entry adds to a request. -/
def adds (f : UpdateFlags) : Entry × Entry → UpdateFlags
  | (.flags key, .flags needs) => if f.meets key then needs else .empty
  | _ => .empty

/-- The request with what every entry adds to it. -/
def onePass (entries : List (Entry × Entry)) (f : UpdateFlags) : UpdateFlags :=
  entries.foldl (fun out e => out.union (adds f e)) f

/-- What a key in the request needs is in the request. -/
def IsClosed (entries : List (Entry × Entry)) (f : UpdateFlags) : Prop :=
  ∀ key needs, (.flags key, .flags needs) ∈ entries → f.meets key → needs ≤ f

/-- The map takes a request to the least request above it that is closed under the table. -/
structure IsClosureOf (entries : List (Entry × Entry)) (close : UpdateFlags → UpdateFlags) :
    Prop where
  extensive : ∀ f, f ≤ close f
  idempotent : ∀ f, close (close f) = close f
  monotone : Monotone close
  union : ∀ f g, close (f ⊔ g) = close f ⊔ close g
  closed : ∀ f, IsClosed entries (close f)
  least : ∀ f g, f ≤ g → IsClosed entries g → close f ≤ g
  unknown : ∀ f n, (∀ q : Quantity, n ≠ q.index) →
    (close f).bits.testBit n = f.bits.testBit n

variable {c : FlagClosure}

theorem onePass_entries (ds : List Dependency) (f : UpdateFlags) :
    onePass (ds.map Dependency.entry) f = apply ⟨ds⟩ f := by
  rw [onePass, apply, List.foldl_map]
  congr 1
  funext out d
  rw [Dependency.entry, adds, UpdateFlags.meets_only]
  split
  · rfl
  · exact congrArg UpdateFlags.mk (Nat.or_zero _)

theorem testBit_apply (c : FlagClosure) (f : UpdateFlags) (n : Nat) :
    (c.apply f).bits.testBit n =
      (f.bits.testBit n || c.dependencies.any fun d => f.has d.key && d.needs.bits.testBit n) :=
  testBit_foldl c.dependencies f f n

theorem le_apply (c : FlagClosure) (f : UpdateFlags) : f ≤ c.apply f := by
  apply UpdateFlags.le_iff.mpr
  intro n inside
  rw [testBit_apply, inside, Bool.true_or]

theorem needs_le_apply {f : UpdateFlags} {d : Dependency} (member : d ∈ c.dependencies)
    (asked : f.has d.key) : d.needs ≤ c.apply f := by
  apply UpdateFlags.le_iff.mpr
  intro n inside
  rw [testBit_apply, Bool.or_eq_true, List.any_eq_true]
  exact .inr ⟨d, member, (Bool.and_eq_true _ _).mpr ⟨asked, inside⟩⟩

theorem apply_le {f g : UpdateFlags} (base : f ≤ g)
    (needed : ∀ d ∈ c.dependencies, f.has d.key → d.needs ≤ g) : c.apply f ≤ g := by
  apply UpdateFlags.le_iff.mpr
  intro n inside
  rw [testBit_apply, Bool.or_eq_true, List.any_eq_true] at inside
  rcases inside with own | ⟨d, member, brought⟩
  · exact UpdateFlags.le_iff.mp base n own
  · obtain ⟨asked, bit⟩ := (Bool.and_eq_true _ _).mp brought
    exact UpdateFlags.le_iff.mp (needed d member asked) n bit

theorem apply_mono (c : FlagClosure) : Monotone c.apply := by
  intro f g inside
  apply apply_le (inside.trans (le_apply c g))
  intro d member asked
  exact needs_le_apply member (UpdateFlags.has_of_le inside asked)

theorem apply_sup (c : FlagClosure) (f g : UpdateFlags) :
    c.apply (f ⊔ g) = c.apply f ⊔ c.apply g := by
  apply le_antisymm
  · apply apply_le (sup_le_sup (le_apply c f) (le_apply c g))
    intro d member asked
    rw [UpdateFlags.has_sup, Bool.or_eq_true] at asked
    rcases asked with first | second
    · exact (needs_le_apply member first).trans le_sup_left
    · exact (needs_le_apply member second).trans le_sup_right
  · exact sup_le (apply_mono c le_sup_left) (apply_mono c le_sup_right)

theorem apply_perm {ds others : List Dependency} (reordered : others.Perm ds) (f : UpdateFlags) :
    apply ⟨others⟩ f = apply ⟨ds⟩ f := by
  apply UpdateFlags.ext_testBit
  intro n
  rw [testBit_apply, testBit_apply, reordered.any_eq]

theorem opens_iff {d other : Dependency} :
    opens d other ↔ d.key ≠ other.key ∧ d.needs.has other.key ∧ ¬other.needs ≤ d.needs := by
  change (_ && !other.needs.within d.needs) = true ↔ _ ∧ _ ∧ ¬other.needs.within d.needs
  simp [and_assoc]

/-- A quantity in the result has all its needs there. It may have come in with another quantity,
and then the needs of that one cover its own. -/
theorem needs_le_of_has_apply
    (closed : ∀ d ∈ c.dependencies, ∀ other ∈ c.dependencies, ¬opens d other)
    {f : UpdateFlags} {d : Dependency} (member : d ∈ c.dependencies)
    (present : (c.apply f).has d.key) : d.needs ≤ c.apply f := by
  rw [has_apply, Bool.or_eq_true, List.any_eq_true] at present
  rcases present with asked | ⟨source, inside, brought⟩
  · exact needs_le_apply member asked
  · obtain ⟨asked, brings⟩ := (Bool.and_eq_true _ _).mp brought
    by_cases same : source.key = d.key
    · exact needs_le_apply member (same ▸ asked)
    · have covered : d.needs ≤ source.needs := by
        by_contra uncovered
        exact closed source inside d member (opens_iff.mpr ⟨same, brings, uncovered⟩)
      exact covered.trans (needs_le_apply inside asked)

theorem isClosed_entries_iff {ds : List Dependency} {f : UpdateFlags} :
    IsClosed (ds.map Dependency.entry) f ↔ ∀ d ∈ ds, f.has d.key → d.needs ≤ f := by
  constructor
  · intro closed d member asked
    exact closed _ _ (List.mem_map_of_mem member) ((UpdateFlags.meets_only f d.key).trans asked)
  · rintro closed key needs member met
    obtain ⟨d, inside, same⟩ := List.mem_map.mp member
    cases same
    exact closed d inside ((UpdateFlags.meets_only f d.key).symm.trans met)

theorem isClosureOf_apply (sound : ∀ d ∈ c.dependencies, d.IsSound)
    (unopened : ∀ d ∈ c.dependencies, ∀ other ∈ c.dependencies, ¬opens d other) :
    IsClosureOf (c.dependencies.map Dependency.entry) c.apply := by
  have closed : ∀ f, ∀ d ∈ c.dependencies, (c.apply f).has d.key → d.needs ≤ c.apply f :=
    fun f d member present => needs_le_of_has_apply unopened member present
  constructor
  · exact le_apply c
  · intro f
    exact le_antisymm (apply_le le_rfl (closed f)) (le_apply c _)
  · exact apply_mono c
  · exact apply_sup c
  · exact fun f => isClosed_entries_iff.mpr (closed f)
  · intro f g inside closedAbove
    apply apply_le inside
    intro d member asked
    exact isClosed_entries_iff.mp closedAbove d member (UpdateFlags.has_of_le inside asked)
  · intro f n unnamed
    rw [testBit_apply]
    have silent : (c.dependencies.any fun d => f.has d.key && d.needs.bits.testBit n) = false := by
      rw [List.any_eq_false]
      intro d member
      rw [UpdateFlags.testBit_of_isKnown (sound d member).known unnamed, Bool.and_false]
      exact Bool.false_ne_true
    rw [silent, Bool.or_false]

/-- With one entry for each key, a request for the quantity alone gives its needs. -/
theorem apply_only {d : Dependency} (distinct : (c.dependencies.map Dependency.key).Nodup)
    (member : d ∈ c.dependencies) (own : d.needs.has d.key) :
    c.apply (.only d.key) = d.needs := by
  have asked : (UpdateFlags.only d.key).has d.key := by
    rw [UpdateFlags.only_has, beq_self_eq_true]
  apply le_antisymm
  · apply apply_le
    · refine UpdateFlags.le_iff.mpr fun n inside => ?_
      have place : n = d.key.index := by
        simpa [UpdateFlags.only, Nat.shiftLeft_eq, Nat.testBit_two_pow, eq_comm] using inside
      exact place ▸ own
    · intro other inside wanted
      rw [UpdateFlags.only_has, beq_iff_eq] at wanted
      rw [List.inj_on_of_nodup_map distinct inside member wanted.symm]
  · exact needs_le_apply member asked

/-- A dependency that opens another one makes a second pass add something. -/
theorem not_idempotent_of_opens (distinct : (c.dependencies.map Dependency.key).Nodup)
    {d other : Dependency} (first : d ∈ c.dependencies) (second : other ∈ c.dependencies)
    (own : d.needs.has d.key) (opened : opens d other) :
    c.apply (c.apply (.only d.key)) ≠ c.apply (.only d.key) := by
  intro same
  rw [apply_only distinct first own] at same
  obtain ⟨-, brings, uncovered⟩ := opens_iff.mp opened
  have added : other.needs ≤ c.apply d.needs := needs_le_apply second brings
  exact uncovered (same ▸ added)

theorem HasDistinctKeys.nodup {ds : List Dependency}
    (distinct : HasDistinctKeys (ds.map Dependency.entry)) : (ds.map Dependency.key).Nodup := by
  rw [HasDistinctKeys, List.pairwise_map] at distinct
  refine List.pairwise_map.mpr (distinct.imp fun {d other} apart same => ?_)
  rw [Dependency.entry, Dependency.entry, Entry.same_flags, same] at apart
  simp at apart

section Tables
variable {K : Type} {entries : List (Entry × Entry)}

theorem unsupported_of_error {e : Fault K} (distinct : HasDistinctKeys entries)
    (refused : ofTable entries = .error e) :
    (∃ entry ∈ entries, ¬entry.1.IsSingle) ∨ (∃ entry ∈ entries, ¬entry.2.IsKnown) ∨
      (∃ key needs, (.flags key, .flags needs) ∈ entries ∧ ¬needs.meets key) ∨
      ∃ f, onePass entries (onePass entries f) ≠ onePass entries f := by
  rcases (ofTable_eq_error refused).2 with ⟨entry, member, e', failed⟩ |
    ⟨ds, sound, rfl, d, first, other, second, opened⟩
  · rcases (dependency?_eq_error failed).2 with key | value | ⟨key, needs, rfl, missing⟩
    · exact .inl ⟨entry, member, key⟩
    · exact .inr (.inl ⟨entry, member, value⟩)
    · exact .inr (.inr (.inl ⟨key, needs, member, missing⟩))
  · -- the request for the key alone needs a second pass
    refine .inr (.inr (.inr ⟨.only d.key, ?_⟩))
    rw [onePass_entries, onePass_entries]
    exact not_idempotent_of_opens distinct.nodup first second (sound d first).own opened

theorem isClosureOf_of_ok (accepted : (ofTable entries : Except (Fault K) _) = .ok c) :
    IsClosureOf entries c.apply := by
  obtain ⟨sound, rfl, unopened⟩ := ofTable_eq_ok_iff.mp accepted
  exact isClosureOf_apply sound unopened

theorem supported_of_ok (accepted : (ofTable entries : Except (Fault K) _) = .ok c) :
    (∀ entry ∈ entries, entry.1.IsSingle ∧ entry.2.IsKnown) ∧
      (∀ key needs, (.flags key, .flags needs) ∈ entries → needs.meets key) ∧
      ∀ f, onePass entries (onePass entries f) = onePass entries f := by
  have closure := isClosureOf_of_ok accepted
  obtain ⟨sound, rfl, -⟩ := ofTable_eq_ok_iff.mp accepted
  refine ⟨?_, ?_, fun f => ?_⟩
  · intro entry member
    obtain ⟨d, inside, rfl⟩ := List.mem_map.mp member
    exact ⟨⟨d.key, rfl⟩, d.needs, rfl, (sound d inside).known⟩
  · intro key needs member
    obtain ⟨d, inside, same⟩ := List.mem_map.mp member
    cases same
    rw [UpdateFlags.meets_only]
    exact (sound d inside).own
  · rw [onePass_entries, onePass_entries]
    exact closure.idempotent f

theorem exists_ok_of_perm {others : List (Entry × Entry)}
    (accepted : (ofTable entries : Except (Fault K) _) = .ok c) (reordered : others.Perm entries) :
    ∃ d, (ofTable others : Except (Fault K) _) = .ok d ∧ ∀ f, d.apply f = c.apply f := by
  obtain ⟨sound, same, unopened⟩ := ofTable_eq_ok_iff.mp accepted
  obtain ⟨ds, perm, rfl⟩ := exists_perm_dependencies sound (same ▸ reordered)
  refine ⟨⟨ds⟩, ofTable_eq_ok_iff.mpr ⟨?_, rfl, ?_⟩, fun f => apply_perm perm f⟩
  · exact fun d member => sound d (perm.mem_iff.mp member)
  · exact fun d first other second =>
      unopened d (perm.mem_iff.mp first) other (perm.mem_iff.mp second)

end Tables

/-- A table is refused exactly when a key is not a single quantity, a value names something else
than quantities, a value misses its key, or a second pass would add to some request. Every
accepted table gives the least closure, whatever the order of its entries. -/
theorem refused_or_least_closure {K : Type} (pairs : List (Entry × Entry)) :
    (∀ e : Fault K, ofTable (table pairs) = .error e → e.isTableRefusal) ∧
    ((∃ e : Fault K, ofTable (table pairs) = .error e) ↔
      (∃ entry ∈ table pairs, ¬entry.1.IsSingle) ∨ (∃ entry ∈ table pairs, ¬entry.2.IsKnown) ∨
      (∃ key needs, (.flags key, .flags needs) ∈ table pairs ∧ ¬needs.meets key) ∨
      ∃ f, onePass (table pairs) (onePass (table pairs) f) ≠ onePass (table pairs) f) ∧
    ∀ c, (ofTable (table pairs) : Except (Fault K) _) = .ok c →
      IsClosureOf (table pairs) c.apply ∧
      ∀ others, others.Perm (table pairs) →
        ∃ d, (ofTable others : Except (Fault K) _) = .ok d ∧ ∀ f, d.apply f = c.apply f := by
  refine ⟨fun e refused => (ofTable_eq_error refused).1, ⟨?_, ?_⟩, fun c accepted => ?_⟩
  · rintro ⟨e, refused⟩
    exact unsupported_of_error (hasDistinctKeys_table pairs) refused
  · intro unsupported
    cases outcome : (ofTable (table pairs) : Except (Fault K) _) with
    | error e => exact ⟨e, rfl⟩
    | ok c =>
      obtain ⟨entries, own, once⟩ := supported_of_ok outcome
      rcases unsupported with ⟨entry, member, key⟩ | ⟨entry, member, value⟩ |
        ⟨key, needs, member, missing⟩ | ⟨f, twice⟩
      · exact absurd (entries entry member).1 key
      · exact absurd (entries entry member).2 value
      · exact absurd (own key needs member) missing
      · exact absurd (once f) twice
  · exact ⟨isClosureOf_of_ok accepted, fun others reordered => exists_ok_of_perm accepted reordered⟩

/-- The element's own table is accepted, and the requests that it resolves are closed under it. -/
theorem isClosureOf_resolve :
    IsClosureOf (table (P1.closure.dependencies.map Dependency.entry)) P1.resolve :=
  have accepted : (ofTable (table (P1.closure.dependencies.map Dependency.entry)) :
      Except (Fault Unit) _) = .ok P1.closure := by rfl
  ((refused_or_least_closure _).2.2 P1.closure accepted).1

end FlagClosure
end NonconformingQuad

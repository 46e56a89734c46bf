import Mathlib.Data.Set.Card
import Mathlib.Order.Interval.Finset.Nat
import NonconformingQuad.Proofs.Mesh.Displacement

/-! Which nodes move. Nothing but its coordinates tells whether a node is on the boundary: it stays
when one of them lies within the tolerance of the box around all nodes. On a grid whose lines are
further apart than the tolerance, wherever it lies, the nodes that can move are those off the rim,
and thin grids have none. -/
noncomputable section
namespace NonconformingQuad

namespace Distortion
variable {tol amplitude : ℝ} {before after nodes : List (Point ℝ)} {p q : Point ℝ} {n : Nat}

/-- Least and greatest coordinates of the nodes. -/
structure IsBoundingBox (nodes : List (Point ℝ)) (low high : Point ℝ) : Prop where
  left : IsLeast {x | x ∈ nodes.map (·.x)} low.x
  right : IsGreatest {x | x ∈ nodes.map (·.x)} high.x
  bottom : IsLeast {y | y ∈ nodes.map (·.y)} low.y
  top : IsGreatest {y | y ∈ nodes.map (·.y)} high.y

/-- In one of the coordinates the point lies within `tol` of the box. -/
def IsNearBox (tol : ℝ) (low high p : Point ℝ) : Prop :=
  (|p.x - low.x| ≤ tol ∨ |p.x - high.x| ≤ tol) ∨ |p.y - low.y| ≤ tol ∨ |p.y - high.y| ≤ tol

theorem exists_isBoundingBox (tol : ℝ) (present : nodes ≠ []) :
    ∃ low high, IsBoundingBox nodes low high ∧
      ∀ p, Stays tol nodes p ↔ IsNearBox tol low high p := by
  have abscissas : nodes.map (·.x) ≠ [] := List.map_eq_nil_iff.not.mpr present
  have ordinates : nodes.map (·.y) ≠ [] := List.map_eq_nil_iff.not.mpr present
  refine ⟨⟨least (nodes.map (·.x)), least (nodes.map (·.y))⟩,
    ⟨greatest (nodes.map (·.x)), greatest (nodes.map (·.y))⟩, ?_, fun p => Iff.rfl⟩
  exact ⟨isLeast_least abscissas, isGreatest_greatest abscissas, isLeast_least ordinates,
    isGreatest_greatest ordinates⟩

theorem length_displace {shifts : List (Point ℝ)} (tol : ℝ) (size : shifts.length = nodes.length) :
    (displace tol shifts nodes).length = nodes.length := by
  simp [displace, onBoundary, nearEnds, size]

theorem differs_iff {a b : ℝ} : differs a b = true ↔ a ≠ b := by
  rw [differs, Bool.or_eq_true, decide_eq_true_iff, decide_eq_true_iff]
  exact lt_or_lt_iff_ne

/-- A node is reported if it is not where it was. -/
theorem getElem?_moved (first : before[n]? = some p) (second : after[n]? = some q) :
    (moved before after)[n]? = some true ↔ q ≠ p := by
  rw [moved, List.getElem?_zipWith, first, second]
  simp only [Option.some.injEq, Bool.or_eq_true, differs_iff, Point.ext_iff, ne_eq]
  tauto

theorem abs_le_of_bounded {s : Point ℝ} (bounded : Bounded amplitude s) :
    |s.x| ≤ amplitude ∧ |s.y| ≤ amplitude := by
  obtain ⟨left, right, down, up⟩ := bounded
  exact ⟨abs_le.mpr ⟨left, right⟩, abs_le.mpr ⟨down, up⟩⟩

theorem movedInput_ofPoints {seed : Seed} {shift : ℝ → Nat → Point ℝ} {listing : Listing ℝ}
    (nonneg : 0 ≤ amplitude) (seeded : seed.check = .ok ())
    (array : listing.tensor = (.ok (.ofPoints nodes) : Except (Fault ℝ) _)) (present : nodes ≠ []) :
    movedInput (.number tol) (.number amplitude) seed shift listing =
      .ok (moved nodes
        (displace tol ((List.range nodes.length).map (shift amplitude)) nodes)) := by
  have allowed : checkAmplitude amplitude = (.ok () : Except (Fault ℝ) Unit) := by
    simp [checkAmplitude, nonneg.not_gt]
  have taken : Distortion.bounded (.number tol) listing =
      (.ok (.ofPoints nodes, tol) : Except (Fault ℝ) _) := by
    cases nodes with
    | nil => contradiction
    | cons p rest =>
      rw [Distortion.bounded, array]
      rfl
  rw [movedInput]
  simp only [Outcome.bind_eq_ok_iff]
  refine ⟨_, taken, (), by rw [seeded]; rfl, amplitude, rfl, (), allowed, ?_⟩
  exact congrArg (fun ps => Except.ok (moved ps (displace tol _ ps)))
    (Tensor.toPoints_ofPoints nodes)

/-- A node near the box stays exactly where it is, any other moves by what is given for it. -/
theorem exists_displaced_node {low high : Point ℝ} {shift : Nat → Point ℝ}
    (near : ∀ p, Stays tol nodes p ↔ IsNearBox tol low high p)
    (bounded : ∀ n, Bounded amplitude (shift n)) (node : nodes[n]? = some p) :
    ∃ q, (displace tol ((List.range nodes.length).map shift) nodes)[n]? = some q ∧
      (IsNearBox tol low high p → q = p) ∧
      (¬IsNearBox tol low high p →
        q = p + shift n ∧ |q.x - p.x| ≤ amplitude ∧ |q.y - p.y| ≤ amplitude) := by
  refine ⟨_, getElem?_displace_range tol shift node, fun close => ?_, fun far => ?_⟩
  · rw [if_pos ((near p).mpr close)]
    exact Point.ext (add_zero _) (add_zero _)
  · rw [if_neg ((near p).not.mpr far), Point.add_x, Point.add_y, add_sub_cancel_left,
      add_sub_cancel_left]
    exact ⟨rfl, abs_le_of_bounded (bounded n)⟩

/-- Some displacement moves the node of this number. -/
def IsMovable (tol : ℝ) (nodes : List (Point ℝ)) (n : Nat) : Prop :=
  ∃ shift : Nat → Point ℝ,
    (displace tol ((List.range nodes.length).map shift) nodes)[n]? ≠ nodes[n]?

theorem isMovable_iff : IsMovable tol nodes n ↔ ∃ p, nodes[n]? = some p ∧ ¬Stays tol nodes p := by
  constructor
  · rintro ⟨shift, moves⟩
    cases node : nodes[n]? with
    | none =>
      refine absurd ?_ moves
      rw [node, List.getElem?_eq_none_iff, length_displace tol (by simp)]
      exact List.getElem?_eq_none_iff.mp node
    | some p =>
      refine ⟨p, rfl, fun stays => moves ?_⟩
      rw [getElem?_displace_range tol shift node, if_pos stays, node]
      exact congrArg some (Point.ext (add_zero _) (add_zero _))
  · rintro ⟨p, node, moves⟩
    refine ⟨fun _ => ⟨1, 0⟩, fun same => ?_⟩
    rw [getElem?_displace_range tol _ node, if_neg moves, node] at same
    have first : p.x + 1 = p.x := congrArg Point.x (Option.some.inj same)
    linarith

end Distortion

namespace Grid
open Distortion
variable {g : Grid ℝ} {tol : ℝ} {n : Nat}

theorem exists_nodeNumber (inside : n < g.nodes.length) :
    ∃ i j, i ≤ g.columns ∧ j ≤ g.rows ∧ n = g.nodeNumber i j := by
  rw [length_nodes] at inside
  refine ⟨n % (g.columns + 1), n / (g.columns + 1),
    Nat.lt_succ_iff.mp (Nat.mod_lt _ (Nat.succ_pos _)),
    Nat.lt_succ_iff.mp (Nat.div_lt_of_lt_mul inside), ?_⟩
  exact (Nat.div_add_mod' n (g.columns + 1)).symm

/-- The numbers of the nodes off the rim. -/
def innerNumbers (g : Grid ℝ) : Finset Nat :=
  (Finset.Ioo 0 g.columns ×ˢ Finset.Ioo 0 g.rows).image fun p => g.nodeNumber p.1 p.2

theorem mem_innerNumbers : n ∈ g.innerNumbers ↔
    ∃ i j, 0 < i ∧ i < g.columns ∧ 0 < j ∧ j < g.rows ∧ n = j * (g.columns + 1) + i := by
  simp only [innerNumbers, Finset.mem_image, Finset.mem_product, Finset.mem_Ioo, Prod.exists]
  constructor
  · rintro ⟨i, j, ⟨⟨right, left⟩, up, down⟩, rfl⟩
    exact ⟨i, j, right, left, up, down, rfl⟩
  · rintro ⟨i, j, right, left, up, down, rfl⟩
    exact ⟨i, j, ⟨⟨right, left⟩, up, down⟩, rfl⟩

theorem card_innerNumbers (g : Grid ℝ) :
    g.innerNumbers.card = (g.columns - 1) * (g.rows - 1) := by
  rw [innerNumbers, Finset.card_image_of_injOn, Finset.card_product, Nat.card_Ioo, Nat.card_Ioo,
    Nat.sub_zero, Nat.sub_zero]
  rintro ⟨i, j⟩ first ⟨i', j'⟩ second same
  simp only [Finset.coe_product, Set.mem_prod, Finset.mem_coe, Finset.mem_Ioo] at first second
  obtain ⟨rfl, rfl⟩ := eq_of_rowMajor (w := g.columns + 1) (by omega) (by omega) same
  rfl

theorem isMovable_nodes_iff (columns : 1 ≤ g.columns) (rows : 1 ≤ g.rows) (width : 0 ≤ g.width)
    (height : 0 ≤ g.height) (rigid : g.IsRigid) (nonneg : 0 ≤ tol)
    (narrow : tol < g.width / g.columns) (low : tol < g.height / g.rows) :
    IsMovable tol g.nodes n ↔ n ∈ g.innerNumbers := by
  rw [isMovable_iff, mem_innerNumbers]
  constructor
  · rintro ⟨p, found, moves⟩
    obtain ⟨i, j, column, row, rfl⟩ := exists_nodeNumber (List.getElem?_eq_some_iff.mp found).1
    have node := getElem?_nodes_crossing columns rows column row
    obtain rfl : g.crossing i j = p := Option.some.inj (node.symm.trans found)
    have inner : ¬g.IsRim i j := fun rim =>
      moves (stays_of_isRim columns rows width height rigid nonneg column row rim)
    rw [IsRim] at inner
    exact ⟨i, j, by omega, by omega, by omega, by omega, rfl⟩
  · rintro ⟨i, j, right, left, up, down, rfl⟩
    have inner : ¬g.IsRim i j := by
      rw [IsRim]
      omega
    exact ⟨_, getElem?_nodes_crossing columns rows left.le down.le,
      not_stays_of_not_isRim columns rows width height rigid narrow low left.le down.le inner⟩

end Grid

namespace Distortion

/-- Nodes within the tolerance of their bounding box stay, all others move by at most the amplitude.
On a grid whose spacings exceed the tolerance the nodes that can move are those off the rim. -/
theorem displaces_inner_nodes (tol amplitude : ℝ) (seed : Seed) (shift : ℝ → Nat → Point ℝ)
    (listing : Listing ℝ) (nodes : List (Point ℝ)) (nonneg : 0 ≤ tol) (nonneg' : 0 ≤ amplitude)
    (seeded : seed.check = .ok ())
    (array : listing.tensor = (.ok (.ofPoints nodes) : Except (Fault ℝ) _)) (present : nodes ≠ [])
    (bounded : ∀ n, Bounded amplitude (shift amplitude n)) :
    (∃ (displaced : List (Point ℝ)) (low high : Point ℝ),
        displaced = displace tol ((List.range nodes.length).map (shift amplitude)) nodes ∧
        movedInput (.number tol) (.number amplitude) seed shift listing =
          .ok (moved nodes displaced) ∧
        displaced.length = nodes.length ∧ IsBoundingBox nodes low high ∧
        ∀ n p, nodes[n]? = some p → ∃ q, displaced[n]? = some q ∧
          ((moved nodes displaced)[n]? = some true ↔ q ≠ p) ∧
          (IsNearBox tol low high p → q = p) ∧
          (¬IsNearBox tol low high p →
            q = p + shift amplitude n ∧ |q.x - p.x| ≤ amplitude ∧ |q.y - p.y| ≤ amplitude)) ∧
      ∀ g : Grid ℝ, 1 ≤ g.columns → 1 ≤ g.rows → 0 < g.width → 0 < g.height → g.IsRigid →
        tol < g.width / g.columns → tol < g.height / g.rows →
        (∀ n, IsMovable tol g.nodes n ↔
          ∃ i j, 0 < i ∧ i < g.columns ∧ 0 < j ∧ j < g.rows ∧ n = j * (g.columns + 1) + i) ∧
        {n | IsMovable tol g.nodes n}.ncard = (g.columns - 1) * (g.rows - 1) := by
  constructor
  · obtain ⟨low, high, box, near⟩ := exists_isBoundingBox tol present
    refine ⟨_, low, high, rfl, movedInput_ofPoints nonneg' seeded array present,
      length_displace tol (by simp), box, fun n p node => ?_⟩
    obtain ⟨q, found, stays, moves⟩ := exists_displaced_node near bounded node
    exact ⟨q, found, getElem?_moved node found, stays, moves⟩
  · intro g columns rows width height rigid narrow low
    have inner (n : Nat) : IsMovable tol g.nodes n ↔ n ∈ g.innerNumbers :=
      Grid.isMovable_nodes_iff columns rows width.le height.le rigid nonneg narrow low
    refine ⟨fun n => (inner n).trans Grid.mem_innerNumbers, ?_⟩
    have numbers : {n | IsMovable tol g.nodes n} = g.innerNumbers := Set.ext inner
    rw [numbers, Set.ncard_coe_finset, Grid.card_innerNumbers]

/-- Three nodes on a line, of which the middle one moves, and a grid away from the origin. -/
theorem displaces_inner_nodes_diagonal :
    let nodes : List (Point ℝ) := [⟨0, 0⟩, ⟨1, 1⟩, ⟨2, 2⟩]
    let listing : Listing ℝ :=
      .list (nodes.map fun p => .list [.number (.ok p.x), .number (.ok p.y)])
    let g : Grid ℝ := ⟨3, 4, 3, 4, some fun _ => ⟨-1, 5⟩⟩
    listing.tensor = (.ok (.ofPoints nodes) : Except (Fault ℝ) _) ∧
      (∃ displaced : List (Point ℝ),
        movedInput (.number (1 / 2)) (.number (1 / 4)) .absent (fun a _ => ⟨a, -a⟩) listing =
          .ok (moved nodes displaced) ∧
        displaced[1]? = some ⟨5 / 4, 3 / 4⟩ ∧ displaced[2]? = some ⟨2, 2⟩) ∧
      {n | IsMovable (1 / 2) g.nodes n}.ncard = 6 := by
  intro nodes listing g
  have given : ∀ _ : Nat, Bounded (1 / 4) (⟨1 / 4, -(1 / 4)⟩ : Point ℝ) := fun _ => by
    norm_num [Bounded]
  obtain ⟨⟨displaced, low, high, -, told, -, box, each⟩, grids⟩ := displaces_inner_nodes (1 / 2)
    (1 / 4) .absent (fun a _ => ⟨a, -a⟩) listing nodes (by norm_num) (by norm_num) rfl rfl
    (List.cons_ne_nil _ _) given
  have left : low.x = 0 := box.left.unique (by simp [nodes, IsLeast, lowerBounds])
  have right : high.x = 2 := box.right.unique (by norm_num [nodes, IsGreatest, upperBounds])
  have bottom : low.y = 0 := box.bottom.unique (by simp [nodes, IsLeast, lowerBounds])
  have top : high.y = 2 := box.top.unique (by norm_num [nodes, IsGreatest, upperBounds])
  refine ⟨rfl, ⟨displaced, told, ?_, ?_⟩, ?_⟩
  · obtain ⟨q, found, -, -, moves⟩ := each 1 _ rfl
    have far : ¬IsNearBox (1 / 2) low high ⟨1, 1⟩ := by
      norm_num [IsNearBox, left, right, bottom, top]
    rw [found, (moves far).1]
    refine congrArg some (Point.ext ?_ ?_)
    · norm_num [Point.add_x]
    · norm_num [Point.add_y]
  · obtain ⟨q, found, -, stays, -⟩ := each 2 _ rfl
    have close : IsNearBox (1 / 2) low high ⟨2, 2⟩ := by
      norm_num [IsNearBox, left, right, bottom, top]
    rw [found, stays close]
  · exact (grids g (by decide) (by decide) (by norm_num [g]) (by norm_num [g])
      ⟨⟨-1, 5⟩, fun _ => rfl⟩ (by norm_num [g]) (by norm_num [g])).2

end Distortion
end NonconformingQuad
end

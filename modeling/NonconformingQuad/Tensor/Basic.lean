import NonconformingQuad.Scalar
import NonconformingQuad.Tensor.Index

/-! Rectangular arrays of numbers: a list of lengths, one for each axis, and the entries
with the last index running fastest. An array is known by its shape and its entries. -/
namespace NonconformingQuad

@[ext] structure Tensor (K : Type) where
  shape : List Nat
  /-- Entries, the last index running fastest. -/
  entries : Array K
  size_entries : entries.size = Index.volume shape

namespace Tensor

open Index

variable {K : Type}

def tabulate (shape : List Nat) (f : List Nat → K) : Tensor K where
  shape := shape
  entries := Array.ofFn fun n : Fin (volume shape) => f (ofPlace shape n)
  size_entries := Array.size_ofFn

def get? (t : Tensor K) (is : List Nat) : Option K :=
  if Within t.shape is then t.entries[place t.shape is]? else none

/-- The entry at an index list, zero outside. -/
def value [Zero K] (t : Tensor K) (is : List Nat) : K := (t.get? is).getD 0

@[simp] theorem shape_tabulate (shape : List Nat) (f : List Nat → K) :
    (tabulate shape f).shape = shape := rfl

theorem get?_tabulate {shape is : List Nat} (f : List Nat → K) (h : Within shape is) :
    (tabulate shape f).get? is = some (f is) := by
  have bound := place_lt h
  simp [get?, tabulate, h, bound, ofPlace_place h]

theorem value_tabulate [Zero K] {shape is : List Nat} (f : List Nat → K) (h : Within shape is) :
    (tabulate shape f).value is = f is := by
  simp [value, get?_tabulate f h]

def replicate (shape : List Nat) (x : K) : Tensor K where
  shape := shape
  entries := Array.replicate (volume shape) x
  size_entries := Array.size_replicate

def ofList (xs : List K) : Tensor K where
  shape := [xs.length]
  entries := xs.toArray
  size_entries := by simp [volume]

def rank (t : Tensor K) : Nat := t.shape.length

def map {L : Type} (f : K → L) (t : Tensor K) : Tensor L where
  shape := t.shape
  entries := t.entries.map f
  size_entries := by rw [Array.size_map, t.size_entries]

def reshape? (shape : List Nat) (t : Tensor K) : Option (Tensor K) :=
  if h : volume t.shape = volume shape then
    some { shape := shape, entries := t.entries, size_entries := t.size_entries.trans h }
  else none

/-- The entries as rows of two, if their number is even. -/
def pairs? (t : Tensor K) : Option (Tensor K) := t.reshape? [t.entries.size / 2, 2]

/-- The part of the array at leading indices; negative ones count from the end of an axis. -/
def sub? [Zero K] (t : Tensor K) : List Int → Option (Tensor K)
  | is =>
    if t.rank < is.length then none
    else
      let axes := t.shape.take is.length
      ((axes.zip is).mapM fun (d, i) => resolve? d i).map fun js =>
        tabulate (t.shape.drop is.length) fun rest => t.value (js ++ rest)

def columns? [Zero K] (first last : Nat) (t : Tensor K) : Option (Tensor K) :=
  match t.shape with
  | rows :: columns :: rest =>
    some (tabulate (rows :: (min last columns - first) :: rest) fun is =>
      match is with
      | i :: j :: more => t.value (i :: (first + j) :: more)
      | _ => 0)
  | _ => none

def transpose [Zero K] (t : Tensor K) : Tensor K :=
  match t.shape with
  | [rows, columns] => tabulate [columns, rows] fun is => t.value is.reverse
  | _ => t

/-- The array with a first axis of length one. -/
def leadingAxis (t : Tensor K) : Tensor K where
  shape := 1 :: t.shape
  entries := t.entries
  size_entries := by rw [t.size_entries, volume, Nat.one_mul]

end Tensor
end NonconformingQuad

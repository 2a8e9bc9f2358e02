import Mathlib.Data.List.Nodup
import SqlAnywhere.Catalog.ForeignKey

/-!
# Grouping by key

The column pairs of a key arrive in portions, a portion with each row.  The
main statement is that keys with different identities come out of the grouping
in the order in which they arrive and with their pairs in order, whatever the
portions are.  What carries it is that an addition to a key that is listed
already leaves the keys before it, and that further pairs are put at the end.
-/

namespace SqlAnywhere.ForeignKey

/-- Keys under their identities with a sequence of additions put to them. -/
def addAll (keys additions : List (Identity × List ColumnPair)) :
    List (Identity × List ColumnPair) :=
  additions.foldl
    (fun keys addition => addToKey addition.1 addition.2 keys) keys

@[simp]
theorem addAll_cons (keys additions : List (Identity × List ColumnPair))
    (addition : Identity × List ColumnPair) :
    addAll keys (addition :: additions) =
      addAll (addToKey addition.1 addition.2 keys) additions := rfl

theorem addAll_append
    (keys additions others : List (Identity × List ColumnPair)) :
    addAll keys (additions ++ others) =
      addAll (addAll keys additions) others :=
  List.foldl_append

/-- Pairs that are new and each there once are put at the end. -/
theorem addPairs_of_nodup (columns : List ColumnPair)
    {pairs : List ColumnPair} (distinct : (columns ++ pairs).Nodup) :
    addPairs columns pairs = columns ++ pairs := by
  induction pairs generalizing columns with
  | nil => simp [addPairs]
  | cons pair pairs ih =>
      have new : pair ∉ columns := by
        intro member
        exact (List.disjoint_of_nodup_append distinct) member
          List.mem_cons_self
      have shape : columns ++ pair :: pairs = columns ++ [pair] ++ pairs := by
        simp
      rw [shape] at distinct ⊢
      rw [← ih _ distinct, addPairs, List.foldl_cons, if_neg new]
      rfl

section Additions

variable {identity : Identity} {keys : List (Identity × List ColumnPair)}

/-- An addition passes over the keys of other identities. -/
theorem addToKey_append_of_notMem
    (new : identity ∉ keys.map Prod.fst) (pairs : List ColumnPair)
    (others : List (Identity × List ColumnPair)) :
    addToKey identity pairs (keys ++ others) =
      keys ++ addToKey identity pairs others := by
  induction keys with
  | nil => rfl
  | cons key keys ih =>
      rw [List.map_cons, List.mem_cons, not_or] at new
      rw [List.cons_append, addToKey, if_neg (Ne.symm new.1), ih new.2,
        List.cons_append]

/-- A new key is listed last. -/
theorem addToKey_of_notMem
    (new : identity ∉ keys.map Prod.fst) (pairs : List ColumnPair) :
    addToKey identity pairs keys = keys ++ [(identity, addPairs [] pairs)] := by
  have passed := addToKey_append_of_notMem new pairs []
  rwa [List.append_nil, addToKey] at passed

/-- Portions of the key that is listed last put their pairs at its end. -/
theorem addAll_portions
    (new : identity ∉ keys.map Prod.fst)
    {columns : List ColumnPair} {portions : List (List ColumnPair)}
    (distinct : (columns ++ portions.flatten).Nodup) :
    addAll (keys ++ [(identity, columns)]) (portions.map (identity, ·)) =
      keys ++ [(identity, columns ++ portions.flatten)] := by
  induction portions generalizing columns with
  | nil => simp [addAll]
  | cons portion portions ih =>
      rw [List.flatten_cons, ← List.append_assoc] at distinct
      rw [List.map_cons, addAll_cons, addToKey_append_of_notMem new,
        addToKey, if_pos rfl, addPairs_of_nodup _ distinct.of_append_left,
        ih distinct, List.flatten_cons, List.append_assoc]

/--
A key that arrives in portions is listed last, with the pairs of all of them.
-/
theorem addAll_key
    (new : identity ∉ keys.map Prod.fst)
    {portions : List (List ColumnPair)} (some : portions ≠ [])
    (distinct : portions.flatten.Nodup) :
    addAll keys (portions.map (identity, ·)) =
      keys ++ [(identity, portions.flatten)] := by
  obtain ⟨portion, portions, rfl⟩ := List.exists_cons_of_ne_nil some
  rw [List.flatten_cons] at distinct ⊢
  have first :
      addToKey identity portion keys = keys ++ [(identity, portion)] := by
    rw [addToKey_of_notMem new,
      addPairs_of_nodup [] distinct.of_append_left, List.nil_append]
  rw [List.map_cons, addAll_cons, first, addAll_portions new distinct]

end Additions

/-- Keys that arrive in portions, one key after the other. -/
def arrivals (keys : List (Identity × List (List ColumnPair))) :
    List (Identity × List ColumnPair) :=
  keys.flatMap fun key => key.2.map (key.1, ·)

/--
Keys with different identities that arrive in portions are listed in order,
each with the pairs of its portions.
-/
theorem addAll_arrivals
    (listed : List (Identity × List ColumnPair))
    {keys : List (Identity × List (List ColumnPair))}
    (different : (listed.map Prod.fst ++ keys.map Prod.fst).Nodup)
    (some : ∀ key ∈ keys, key.2 ≠ [])
    (distinct : ∀ key ∈ keys, key.2.flatten.Nodup) :
    addAll listed (arrivals keys) =
      listed ++ keys.map fun key => (key.1, key.2.flatten) := by
  induction keys generalizing listed with
  | nil => simp [addAll, arrivals]
  | cons key keys ih =>
      rw [List.forall_mem_cons] at some distinct
      have new : key.1 ∉ listed.map Prod.fst := by
        intro member
        exact (List.disjoint_of_nodup_append different) member
          List.mem_cons_self
      have shape :
          listed.map Prod.fst ++ (key :: keys).map Prod.fst =
            (listed ++ [(key.1, key.2.flatten)]).map Prod.fst ++
              keys.map Prod.fst := by
        simp
      rw [shape] at different
      rw [arrivals, List.flatMap_cons, addAll_append,
        addAll_key new some.1 distinct.1]
      change addAll _ (arrivals keys) = _
      rw [ih _ different some.2 distinct.2, List.map_cons, List.append_assoc]
      rfl

/--
Grouping what arrives in portions gives the keys in order, each with all of
its pairs.
-/
theorem group_arrivals
    {keys : List (Identity × List (List ColumnPair))}
    (different : (keys.map Prod.fst).Nodup)
    (some : ∀ key ∈ keys, key.2 ≠ [])
    (distinct : ∀ key ∈ keys, key.2.flatten.Nodup) :
    group (arrivals keys) =
      keys.map fun key => ⟨key.1.referencedTable, key.2.flatten⟩ := by
  change (addAll [] (arrivals keys)).map _ = _
  rw [addAll_arrivals [] different some distinct, List.nil_append,
    List.map_map]
  rfl

end SqlAnywhere.ForeignKey

import Mathlib.Data.List.Induction
import Mathlib.Data.List.Nodup
import Mathlib.Data.List.Perm.Basic
import Mathlib.Logic.Relation
import SqlAnywhere.Proofs.KeyGrouping
import SqlAnywhere.Proofs.KeyRow

/-!
# Foreign keys by identity

The foreign keys that rows make up, said without going through the rows: one
for each identity among them, in the order in which the identities first
appear, with the pairs of the rows of that identity in order, each pair at its
first place.  A key therefore depends on its own rows and their order alone:
rows of other keys can stand anywhere among them, and rows that refer to no
table are as good as none.
-/

namespace SqlAnywhere

/-! ## Values at their first places -/

section FirstPlaces

variable {α : Type} [BEq α] [LawfulBEq α] (values : List α)

/-- A value that is among those before it has its first place there. -/
theorem eraseDups_concat_of_mem {value : α} (member : value ∈ values) :
    (values ++ [value]).eraseDups = values.eraseDups := by
  rw [List.eraseDups_append]
  simp [List.removeAll, member]

/-- A value that is new comes last. -/
theorem eraseDups_concat_of_notMem {value : α} (new : value ∉ values) :
    (values ++ [value]).eraseDups = values.eraseDups ++ [value] := by
  rw [List.eraseDups_append]
  simp [List.removeAll, new, List.eraseDups_cons]

/-- Every value has one first place. -/
theorem nodup_eraseDups : values.eraseDups.Nodup := by
  induction values using List.reverseRecOn with
  | nil => simp
  | append_singleton values value ih =>
      by_cases member : value ∈ values
      · rwa [eraseDups_concat_of_mem values member]
      · rw [eraseDups_concat_of_notMem values member]
        apply ih.append (List.nodup_singleton value)
        rw [List.disjoint_singleton, List.mem_eraseDups]
        exact member

/-- Values in another order have their first places in another order. -/
theorem eraseDups_perm {values others : List α}
    (same : ∀ value, value ∈ values ↔ value ∈ others) :
    values.eraseDups.Perm others.eraseDups := by
  rw [List.perm_ext_iff_of_nodup (nodup_eraseDups _) (nodup_eraseDups _)]
  intro value
  rw [List.mem_eraseDups, List.mem_eraseDups, same]

end FirstPlaces

namespace ForeignKey

/-! ## Additions by identity -/

/-- Pairs that are added one after the other keep their first places. -/
theorem addPairs_eraseDups (columns pairs : List ColumnPair) :
    addPairs columns.eraseDups pairs = (columns ++ pairs).eraseDups := by
  induction pairs generalizing columns with
  | nil => simp [addPairs]
  | cons pair pairs ih =>
      have next :
          (if pair ∈ columns.eraseDups then columns.eraseDups
            else columns.eraseDups ++ [pair]) =
            (columns ++ [pair]).eraseDups := by
        split
        · next member =>
            exact (eraseDups_concat_of_mem columns
              (List.mem_eraseDups.1 member)).symm
        · next new =>
            exact (eraseDups_concat_of_notMem columns
              (mt List.mem_eraseDups.2 new)).symm
      rw [addPairs, List.foldl_cons, next]
      change addPairs _ _ = _
      rw [ih, List.append_assoc]
      rfl

/-- An addition to a listed key changes that key alone. -/
theorem addToKey_map_of_mem
    {identities : List Identity} (distinct : identities.Nodup)
    {identity : Identity} (member : identity ∈ identities)
    (columns : Identity → List ColumnPair) (pairs : List ColumnPair) :
    addToKey identity pairs
        (identities.map fun known => (known, columns known)) =
      identities.map fun known =>
        (known,
          if known = identity then addPairs (columns known) pairs
          else columns known) := by
  induction identities with
  | nil => cases member
  | cons first others ih =>
      obtain ⟨new, distinct⟩ := List.nodup_cons.1 distinct
      rw [List.map_cons, List.map_cons, addToKey]
      by_cases here : first = identity
      · subst here
        rw [if_pos rfl, if_pos rfl]
        congr 1
        apply List.map_congr_left
        intro known later
        have other : known ≠ first := fun same => new (same ▸ later)
        rw [if_neg other]
      · rw [if_neg here, if_neg here]
        congr 1
        exact ih distinct ((List.mem_cons.1 member).resolve_left (Ne.symm here))

/-- The pairs that additions bring to a key, each at its first place. -/
def pairsAdded (additions : List (Identity × List ColumnPair))
    (identity : Identity) : List ColumnPair :=
  ((additions.filter fun addition => addition.1 = identity).flatMap
    Prod.snd).eraseDups

/-- One more addition brings its pairs to its key. -/
theorem pairsAdded_concat (additions : List (Identity × List ColumnPair))
    (addition : Identity × List ColumnPair) (identity : Identity) :
    pairsAdded (additions ++ [addition]) identity =
      if identity = addition.1 then
        addPairs (pairsAdded additions identity) addition.2
      else
        pairsAdded additions identity := by
  rw [pairsAdded, List.filter_append, List.flatMap_append]
  split
  · next same =>
      rw [pairsAdded, addPairs_eraseDups]
      simp [same]
  · next other =>
      simp [pairsAdded, Ne.symm other]

/-- Nothing is brought to a key that no addition is about. -/
theorem pairsAdded_of_notMem
    {additions : List (Identity × List ColumnPair)} {identity : Identity}
    (new : identity ∉ additions.map Prod.fst) :
    pairsAdded additions identity = [] := by
  rw [pairsAdded, List.filter_eq_nil_iff.2]
  · simp
  · intro addition among
    rw [decide_eq_true_eq]
    intro same
    exact new (List.mem_map.2 ⟨addition, among, same⟩)

/--
What additions make up: a key for each identity among them, in order of first
appearance, with the pairs that they bring to it.
-/
theorem addAll_eq (additions : List (Identity × List ColumnPair)) :
    addAll [] additions =
      (additions.map Prod.fst).eraseDups.map fun identity =>
        (identity, pairsAdded additions identity) := by
  induction additions using List.reverseRecOn with
  | nil => simp [addAll]
  | append_singleton additions addition ih =>
      rw [addAll_append, ih, addAll_cons, addAll, List.foldl_nil,
        List.map_append, List.map_singleton]
      simp only [pairsAdded_concat]
      by_cases member : addition.1 ∈ additions.map Prod.fst
      · rw [eraseDups_concat_of_mem _ member,
          addToKey_map_of_mem (nodup_eraseDups _)
            (List.mem_eraseDups.2 member)]
      · rw [eraseDups_concat_of_notMem _ member, addToKey_of_notMem,
          List.map_append, List.map_singleton, if_pos rfl,
          pairsAdded_of_notMem member]
        · congr 1
          apply List.map_congr_left
          intro known among
          have other : known ≠ addition.1 := by
            rintro rfl
            exact member (List.mem_eraseDups.1 among)
          rw [if_neg other]
        · simpa using member

/-! ## Rows by identity -/

/--
The identities of the keys that rows belong to, in order of first appearance.
-/
def identities (rows : List Row) : List Identity :=
  (rows.filterMap identity?).eraseDups

/-- The rows of one key, in order. -/
def rowsOf (identity : Identity) (rows : List Row) : List Row :=
  rows.filter fun row => identity? row = some identity

/--
The key of an identity as rows describe it: the pairs of its own rows in
order, each pair at its first place.
-/
def described (grain : RowGrain) (rows : List Row) (identity : Identity) :
    ForeignKey :=
  ⟨identity.referencedTable,
    ((rowsOf identity rows).flatMap (heldPairs grain)).eraseDups⟩

variable {grain : RowGrain} {rows others : List Row} {keys : List ForeignKey}

/-- What rows add to the keys, row by row. -/
def additions (grain : RowGrain) (rows : List Row) :
    List (Identity × List ColumnPair) :=
  rows.filterMap fun row => (identity? row).map (·, heldPairs grain row)

/-- The keys that rows add to are those that they belong to. -/
theorem map_fst_additions (grain : RowGrain) (rows : List Row) :
    (additions grain rows).map Prod.fst = rows.filterMap identity? := by
  rw [additions, List.map_filterMap]
  congr 1
  funext row
  cases identity? row <;> rfl

/-- The pairs that rows bring to a key are those of the rows of that key. -/
theorem pairsAdded_additions (grain : RowGrain) (rows : List Row)
    (identity : Identity) :
    pairsAdded (additions grain rows) identity =
      ((rowsOf identity rows).flatMap (heldPairs grain)).eraseDups := by
  rw [pairsAdded]
  congr 1
  induction rows with
  | nil => rfl
  | cons row rows ih =>
      unfold additions rowsOf at ih ⊢
      rw [List.filterMap_cons, List.filter_cons]
      cases known : identity? row with
      | none => simpa using ih
      | some own =>
          by_cases here : own = identity
          · simpa [here] using ih
          · simpa [here] using ih

/-- Rows that are read bring what they add to the grouping. -/
theorem filterMap_id_of_mapM_eq_ok
    {read : List (Option (Identity × List ColumnPair))}
    (reading : rows.mapM (readRow grain) = .ok read) :
    read.filterMap id = additions grain rows := by
  have each := Traversal.mapM_eq_ok_iff.1 reading
  have same : read =
      rows.map fun row => (identity? row).map (·, heldPairs grain row) := by
    clear reading
    induction each with
    | nil => rfl
    | cons first _ ih => rw [List.map_cons, ← eq_of_readRow_eq_ok first, ih]
  rw [same, List.filterMap_map]
  rfl

/-- What rows add is grouped to the keys that the rows describe. -/
theorem group_additions (grain : RowGrain) (rows : List Row) :
    group (additions grain rows) =
      (identities rows).map (described grain rows) := by
  change (addAll [] _).map _ = _
  rw [addAll_eq, map_fst_additions, List.map_map]
  apply List.map_congr_left
  intro identity _
  simp [pairsAdded_additions, described]

/--
Rows are resolved where each of them is read, to the keys that they describe.
-/
theorem ofRows_eq_ok_iff :
    ofRows grain rows = .ok keys ↔
      (∀ row ∈ rows, ∃ addition, readRow grain row = .ok addition) ∧
        keys = (identities rows).map (described grain rows) := by
  rw [ofRows, Traversal.bind_eq_ok_iff, ← Traversal.exists_mapM_eq_ok_iff,
    ← group_additions]
  constructor
  · rintro ⟨read, reading, grouped⟩
    cases grouped
    rw [filterMap_id_of_mapM_eq_ok reading]
    exact ⟨⟨read, reading⟩, rfl⟩
  · rintro ⟨⟨read, reading⟩, rfl⟩
    refine ⟨read, reading, ?_⟩
    rw [filterMap_id_of_mapM_eq_ok reading]
    rfl

/-! ## Rows in another order -/

/-- Two neighbouring rows that do not belong to one key change places. -/
inductive Exchanges : List Row → List Row → Prop where
  | mk (before after : List Row) {first second : Row}
      (apart : identity? first ≠ identity? second) :
      Exchanges (before ++ first :: second :: after)
        (before ++ second :: first :: after)

/--
The same rows in an order in which those of each key are in their old order.
-/
structure SameByKey (rows others : List Row) : Prop where
  perm : others.Perm rows
  rowsOf : ∀ identity, rowsOf identity others = rowsOf identity rows

/-- Rows that change places stay in order among those of their key. -/
theorem Exchanges.sameByKey (exchanges : Exchanges rows others) :
    SameByKey rows others := by
  obtain ⟨before, after, apart⟩ := exchanges
  constructor
  · exact (List.Perm.swap _ _ after).append_left before
  · intro identity
    simp only [ForeignKey.rowsOf, List.filter_append, List.filter_cons]
    split
    · next first =>
        split
        · next second =>
            exact absurd
              ((of_decide_eq_true second).trans (of_decide_eq_true first).symm)
              apart
        · rfl
    · rfl

/-- Rows that change places any number of times do so. -/
theorem sameByKey_of_exchanges
    (exchanges : Relation.ReflTransGen Exchanges rows others) :
    SameByKey rows others := by
  induction exchanges with
  | refl => exact ⟨.refl rows, fun _ => rfl⟩
  | tail _ last ih =>
      have step := last.sameByKey
      refine ⟨step.perm.trans ih.perm, fun identity => ?_⟩
      rw [step.rowsOf, ih.rowsOf]

namespace SameByKey

/-- The keys are the same, perhaps in another order. -/
theorem identities_perm (same : SameByKey rows others) :
    (identities others).Perm (identities rows) := by
  apply eraseDups_perm
  intro identity
  exact (same.perm.filterMap identity?).mem_iff

/-- Each key is described alike. -/
theorem described_eq (same : SameByKey rows others) (grain : RowGrain) :
    described grain others = described grain rows := by
  funext identity
  rw [described, described, same.rowsOf]

end SameByKey

/-! ## Rows that refer to no table -/

/-- Whether a row says that it refers to no table. -/
def isVoid (row : Row) : Bool :=
  (Row.get? row "UQ_TABLE_NAME".toList).any Value.isNull

/-- A row that refers to no table adds nothing. -/
theorem readRow_of_isVoid {row : Row} (void : isVoid row) :
    readRow grain row = .ok none := by
  rw [isVoid, Option.any_eq_true] at void
  obtain ⟨value, found, isNull⟩ := void
  exact (readRow_of_null found ((value.toText?_eq_none_iff).2 isNull)).1

/-- What rows add to the keys is read row by row. -/
theorem map_mapM_cons (grain : RowGrain) (row : Row) (rows : List Row) :
    ((row :: rows).mapM (readRow grain)).map (·.filterMap id) =
      readRow grain row >>= fun addition =>
        ((rows.mapM (readRow grain)).map (·.filterMap id)).map
          (addition.toList ++ ·) := by
  rw [List.mapM_cons]
  cases readRow grain row with
  | error error => rfl
  | ok addition =>
      cases rows.mapM (readRow grain) with
      | error error => rfl
      | ok additions => cases addition <;> rfl

/-- Rows that refer to no table are as good as none. -/
theorem ofRows_filter (grain : RowGrain) (rows : List Row) :
    ofRows grain (rows.filter (!isVoid ·)) = ofRows grain rows := by
  have grouped (rows : List Row) :
      ofRows grain rows =
        ((rows.mapM (readRow grain)).map (·.filterMap id)).map group := by
    rw [ofRows]
    cases rows.mapM (readRow grain) <;> rfl
  rw [grouped, grouped]
  congr 1
  induction rows with
  | nil => rfl
  | cons row rows ih =>
      rw [map_mapM_cons, List.filter_cons]
      cases void : isVoid row with
      | false =>
          rw [Bool.not_false, if_pos rfl, map_mapM_cons, ih]
      | true =>
          rw [readRow_of_isVoid void, Bool.not_true, if_neg Bool.false_ne_true,
            ih]
          change _ = Except.map _ _
          cases (rows.mapM (readRow grain)).map (·.filterMap id) <;> rfl

/-! ## What rows are resolved to -/

/--
Rows that are resolved make up a key for each identity among them, in order
of first appearance, with the pairs of the rows of that identity in order and
each at its first place.  Rows of different keys can change places, which at
most changes the order of the keys, and rows that refer to no table can come
and go.
-/
theorem grouped_by_identity (resolved : ofRows grain rows = .ok keys) :
    keys = (identities rows).map (described grain rows) ∧
      (∀ others, Relation.ReflTransGen Exchanges rows others →
        ∃ moved, ofRows grain others = .ok moved ∧
          moved = (identities others).map (described grain rows) ∧
          moved.Perm keys) ∧
      ∀ others,
        others.filter (!isVoid ·) = rows.filter (!isVoid ·) →
          ofRows grain others = .ok keys := by
  obtain ⟨read, rfl⟩ := ofRows_eq_ok_iff.1 resolved
  refine ⟨rfl, fun others exchanges => ?_, fun others same => ?_⟩
  · have same := sameByKey_of_exchanges exchanges
    refine ⟨(identities others).map (described grain rows), ?_, rfl,
      same.identities_perm.map _⟩
    rw [ofRows_eq_ok_iff]
    refine ⟨fun row member => read row (same.perm.mem_iff.1 member), ?_⟩
    rw [same.described_eq]
  · rw [← ofRows_filter, same, ofRows_filter]
    exact resolved

/--
A row of another key moves past one row of a fragmented key, and a row that
refers to no table goes: the fragments still make up one key, which is now
listed second.
-/
theorem fragments_grouped_by_identity :
    let row (number table localColumn referencedColumn : Value) : Row :=
      [("foreign_key_id".toList, number), ("UQ_TABLE_NAME".toList, table),
        ("FK_COLUMN_NAME".toList, localColumn),
        ("UQ_COLUMN_NAME".toList, referencedColumn)]
    let country := row (.text "3".toList) (.text "Regions".toList)
      (.text "country".toList) (.text "country".toList)
    let order := row .null (.text "Orders ".toList)
      (.text "order".toList) (.text "id".toList)
    let region := row (.text "3".toList) (.text "Regions".toList)
      (.text "region, country".toList) (.text "code,country".toList)
    let void := row (.text "5".toList) .null (.text "note".toList) .null
    let regions : ForeignKey := ⟨"Regions".toList,
      [("country".toList, "country".toList), ("region".toList, "code".toList)]⟩
    let orders : ForeignKey := ⟨"Orders".toList,
      [("order".toList, "id".toList)]⟩
    ofRows .wholeKey [country, order, void, region] = .ok [regions, orders] ∧
      ofRows .wholeKey [order, country, void, region] =
        .ok [orders, regions] ∧
      ofRows .wholeKey [country, order, region] = .ok [regions, orders] := by
  intro row country order region void regions orders
  have resolved :
      ofRows .wholeKey [country, order, void, region] =
        .ok [regions, orders] := rfl
  obtain ⟨-, moved, without⟩ := grouped_by_identity resolved
  have apart : identity? country ≠ identity? order := by decide
  obtain ⟨keys, read, rfl, -⟩ :=
    moved [order, country, void, region] (.single (.mk [] _ apart))
  exact ⟨resolved, read, without [country, order, region] rfl⟩

end ForeignKey

end SqlAnywhere

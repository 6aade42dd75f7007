import WorkerSim.Proofs.Entries

/-!
# Tables in order

However a document puts its tables together, on dotted paths, under headers or between braces, every
table of it has its keys in ascending order, and so each key once.
-/

set_option autoImplicit false

namespace WorkerSim.Toml

open Entries

/-- The tables in a value, at any depth, have their keys in order. -/
inductive Value.Orderly : Value → Prop
  | scalar (s : Scalar) : Orderly (.scalar s)
  | list {items : List Item} : (∀ item ∈ items, Orderly item.value) → Orderly (.list items)
  | series {latest : Item} {others : List Item} : Orderly latest.value →
      (∀ item ∈ others, Orderly item.value) → Orderly (.series latest others)
  | table {standing : Standing} {es : Entries} : es.Sorted → (∀ e ∈ es, Orderly e.2.value) →
      Orderly (.table standing es)

structure Entries.Orderly (es : Entries) : Prop where
  sorted : es.Sorted
  values : ∀ e ∈ es, e.2.value.Orderly

namespace Entries.Orderly

variable {es es' : Entries} {item : Item}

theorem nil : Orderly [] := ⟨List.Pairwise.nil, List.forall_mem_nil _⟩

theorem table (h : es.Orderly) (standing : Standing) : Value.Orderly (.table standing es) :=
  .table h.sorted h.values

theorem of_table {standing : Standing} (h : Value.Orderly (.table standing es)) : es.Orderly := by
  cases h with
  | table hSorted hValues => exact ⟨hSorted, hValues⟩

theorem get? (h : es.Orderly) {key : List Char} (hGet : es.get? key = some item) : item.value.Orderly :=
  h.values _ (mem_of_get? hGet)

theorem put (h : es.Orderly) (hItem : item.value.Orderly) (key : List Char) :
    (es.put key item).Orderly := by
  refine ⟨h.sorted.put key item, ?_⟩
  intro e hMem
  obtain rfl | hMem := mem_put hMem
  · exact hItem
  · exact h.values e hMem

theorem assign (h : es.Orderly) (hItem : item.value.Orderly) {path : List Key}
    (hAssign : Entries.assign item path es = some es') : es'.Orderly := by
  -- a path goes through tables that are there, new tables, and the latest table of a list
  fun_induction Entries.assign item path es generalizing es' with
  | case1 | case2 | case6 | case7 | case9 => cases hAssign
  | case3 key es _ =>
    cases hAssign
    exact h.put hItem _
  | case4 key path es _ _ ih =>
    obtain ⟨inner', hInner, rfl⟩ := Option.map_eq_some_iff.mp hAssign
    apply h.put
    exact (ih nil hInner).table .dotted
  | case5 key path es _ span standing inner hGet _ ih =>
    obtain ⟨inner', hInner, rfl⟩ := Option.map_eq_some_iff.mp hAssign
    apply h.put
    exact (ih (of_table (h.get? hGet)) hInner).table standing
  | case8 key path es _ span latest standing inner others hGet _ ih =>
    obtain ⟨inner', hInner, rfl⟩ := Option.map_eq_some_iff.mp hAssign
    apply h.put
    cases h.get? hGet with
    | series hLatest hOthers => exact .series ((ih (of_table hLatest) hInner).table standing) hOthers

theorem assignAll {pairs : List (List Key × Item)} (h : es.Orderly)
    (hPairs : ∀ pair ∈ pairs, pair.2.value.Orderly)
    (hAssign : Entries.assignAll es pairs = some es') : es'.Orderly := by
  induction pairs generalizing es with
  | nil =>
    cases hAssign
    exact h
  | cons pair pairs ih =>
    obtain ⟨hPair, hRest⟩ := List.forall_mem_cons.mp hPairs
    rw [Entries.assignAll, List.foldlM_cons] at hAssign
    obtain ⟨mid, hFirst, hMid⟩ := Option.bind_eq_some_iff.mp hAssign
    exact ih (h.assign hPair hFirst) hRest hMid

end Entries.Orderly

/-! ### What is read -/

theorem forall_of_elements {α : Type} {P : α → Prop} {close : Char}
    {element : List Char → Option (α × List Char)} (h : ∀ cs r, element cs = some r → P r.1) {n : Nat}
    {cs : List Char} {r : List α × List Char} (hRead : elements close element n cs = some r) :
    ∀ a ∈ r.1, P a := by
  fun_induction elements close element n cs generalizing r with
  | case1 | case2 | case4 | case5 | case8 => cases hRead
  | case3 =>
    cases hRead
    exact List.forall_mem_nil P
  | case6 n cs c tail _ _ a rest hElement after _ =>
    cases hRead
    exact List.forall_mem_singleton.mpr (h _ _ hElement)
  | case7 n cs c tail _ _ a rest hElement after _ _ ih =>
    obtain ⟨r', hMore, rfl⟩ := Option.map_eq_some_iff.mp hRead
    exact List.forall_mem_cons.mpr ⟨h _ _ hElement, ih hMore⟩

theorem orderly_of_pair? {gap : List Char → List Char} {value : List Char → Option (Item × List Char)}
    (h : ∀ cs r, value cs = some r → r.1.value.Orderly) {cs : List Char}
    {r : (List Key × Item) × List Char} (hRead : pair? gap value cs = some r) :
    r.1.2.value.Orderly := by
  rw [pair?] at hRead
  split at hRead
  · cases hRead
  · split at hRead
    · obtain ⟨r', hValue, rfl⟩ := Option.map_eq_some_iff.mp hRead
      exact h _ _ hValue
    · cases hRead

theorem orderly_of_single {cs : List Char} {r : Item × List Char} (h : value?.single cs = some r) :
    r.1.value.Orderly := by
  obtain ⟨s, -, rfl⟩ := Option.map_eq_some_iff.mp h
  exact .scalar s.1

theorem orderly_of_value? {most depth : Nat} {cs : List Char} {r : Item × List Char}
    (h : value? most depth cs = some r) : r.1.value.Orderly := by
  induction depth generalizing cs r with
  | zero =>
    rw [value?] at h
    exact orderly_of_single h
  | succ depth ih =>
    rw [value?.eq_def] at h
    dsimp only at h
    split at h
    · obtain ⟨r', hItems, rfl⟩ := Option.map_eq_some_iff.mp h
      exact .list (forall_of_elements (P := fun item : Item => item.value.Orderly) (fun _ _ => ih) hItems)
    · split at h
      · cases h
      · rename_i pairs rest hPairs
        obtain ⟨es, hAssign, rfl⟩ := Option.map_eq_some_iff.mp h
        have hItems : ∀ pair ∈ pairs, pair.2.value.Orderly :=
          forall_of_elements (P := fun pair : List Key × Item => pair.2.value.Orderly)
            (fun _ _ => orderly_of_pair? fun _ _ => ih) hPairs
        exact (Entries.Orderly.nil.assignAll hItems hAssign).table .inline
    · exact orderly_of_single h

namespace Statement

def Orderly : Statement → Prop
  | pair _ item => item.value.Orderly
  | header _ _ | element _ _ => True

theorem orderly_of_header? {cs : List Char} {r : Statement × List Char} (h : header? cs = some r) :
    r.1.Orderly := by
  rw [header?.eq_def] at h
  split at h
  · split at h
    · cases h
      exact trivial
    · cases h
  · split at h
    · cases h
      exact trivial
    · cases h
  · cases h

theorem orderly_of_read? {most : Nat} {cs : List Char} {r : List Statement × List Char}
    (h : read? most cs = some r) : ∀ statement ∈ r.1, statement.Orderly := by
  rw [read?] at h
  split at h
  · cases h
    exact List.forall_mem_nil _
  · split at h
    · cases h
      exact List.forall_mem_nil _
    · split at h
      · obtain ⟨r', hHeader, rfl⟩ := Option.map_eq_some_iff.mp h
        exact List.forall_mem_singleton.mpr (orderly_of_header? hHeader)
      · obtain ⟨r', hPair, rfl⟩ := Option.map_eq_some_iff.mp h
        have hItem := orderly_of_pair? (fun _ _ => orderly_of_value?) hPair
        exact List.forall_mem_singleton.mpr hItem

theorem orderly_of_readLines? {most lines : Nat} {cs : List Char} {statements : List Statement}
    (h : readLines? most lines cs = some statements) : ∀ statement ∈ statements, statement.Orderly := by
  fun_induction readLines? most lines cs generalizing statements with
  | case1 =>
    cases h
    exact List.forall_mem_nil _
  | case2 | case3 | case4 => cases h
  | case5 lines cs hSome first rest hFirst after hAfter ih =>
    obtain ⟨more, hMore, rfl⟩ := Option.map_eq_some_iff.mp h
    exact List.forall_mem_append.mpr ⟨orderly_of_read? hFirst, ih hMore⟩

end Statement

namespace Section

def Orderly (s : Section) : Prop := ∀ pair ∈ s.pairs, pair.2.value.Orderly

theorem orderly_split {statements : List Statement} (h : ∀ s ∈ statements, s.Orderly) :
    (∀ pair ∈ (split statements).1, pair.2.value.Orderly) ∧ ∀ s ∈ (split statements).2, s.Orderly := by
  induction statements with
  | nil => exact ⟨List.forall_mem_nil _, List.forall_mem_nil _⟩
  | cons statement statements ih =>
    obtain ⟨hFirst, hRest⟩ := List.forall_mem_cons.mp h
    obtain ⟨hPairs, hSections⟩ := ih hRest
    cases statement with
    | pair path item => exact ⟨List.forall_mem_cons.mpr ⟨hFirst, hPairs⟩, hSections⟩
    | header path span => exact ⟨List.forall_mem_nil _, List.forall_mem_cons.mpr ⟨hPairs, hSections⟩⟩
    | element path span => exact ⟨List.forall_mem_nil _, List.forall_mem_cons.mpr ⟨hPairs, hSections⟩⟩

theorem Orderly.place {s : Section} (h : s.Orderly) {old : Option Item} {item : Item}
    (hOld : ∀ i ∈ old, i.value.Orderly) (hPlace : s.place old = some item) : item.value.Orderly := by
  have hNew {es : Entries} (hAssign : Entries.assignAll [] s.pairs = some es) :
      Value.Orderly (.table .headed es) :=
    (Entries.Orderly.nil.assignAll h hAssign).table .headed
  rw [Section.place.eq_def] at hPlace
  split at hPlace
  · obtain ⟨es, hAssign, hItem⟩ := Option.bind_eq_some_iff.mp hPlace
    obtain rfl := Option.some.inj hItem
    split
    · exact .series (hNew hAssign) (List.forall_mem_nil _)
    · exact hNew hAssign
  · rename_i span es
    split at hPlace
    · cases hPlace
    · obtain ⟨es', hAssign, hItem⟩ := Option.bind_eq_some_iff.mp hPlace
      obtain rfl := Option.some.inj hItem
      exact ((Entries.Orderly.of_table (hOld _ rfl)).assignAll h hAssign).table .headed
  · rename_i span latest others
    split at hPlace
    · obtain ⟨es, hAssign, hItem⟩ := Option.bind_eq_some_iff.mp hPlace
      obtain rfl := Option.some.inj hItem
      cases hOld _ rfl with
      | series hLatest hOthers => exact .series (hNew hAssign) (List.forall_mem_cons.mpr ⟨hLatest, hOthers⟩)
    · cases hPlace
  · cases hPlace

theorem Orderly.update {s : Section} (hSection : s.Orderly) {path : List Key} {es es' : Entries}
    (h : es.Orderly) (hUpdate : Section.update s.place path es = some es') : es'.Orderly := by
  fun_induction Section.update s.place path es generalizing es' with
  | case1 | case4 | case7 => cases hUpdate
  | case2 key es =>
    obtain ⟨item, hPlace, rfl⟩ := Option.map_eq_some_iff.mp hUpdate
    exact h.put (hSection.place (fun _ hGet => h.get? hGet) hPlace) _
  | case3 key path es _ _ ih =>
    obtain ⟨inner', hInner, rfl⟩ := Option.map_eq_some_iff.mp hUpdate
    apply h.put
    exact (ih .nil hInner).table .implied
  | case5 key path es _ span standing inner hGet _ ih =>
    obtain ⟨inner', hInner, rfl⟩ := Option.map_eq_some_iff.mp hUpdate
    apply h.put
    exact (ih (.of_table (h.get? hGet)) hInner).table standing
  | case6 key path es _ span latest standing inner others hGet ih =>
    obtain ⟨inner', hInner, rfl⟩ := Option.map_eq_some_iff.mp hUpdate
    apply h.put
    cases h.get? hGet with
    | series hLatest hOthers => exact .series ((ih (.of_table hLatest) hInner).table standing) hOthers

end Section

/-- The tables of a document have each key once. -/
theorem Document.orderly_of_ofText? {text : List Char} {root : Entries}
    (h : Document.ofText? text = some root) : root.Orderly := by
  obtain ⟨statements, hRead, hRoot⟩ := Option.bind_eq_some_iff.mp h
  obtain ⟨hPairs, hSections⟩ := Section.orderly_split (Statement.orderly_of_readLines? hRead)
  obtain ⟨start, hStart, hRest⟩ := Option.bind_eq_some_iff.mp hRoot
  have hOrderly := Entries.Orderly.nil.assignAll hPairs hStart
  clear hStart
  generalize (Section.split statements).2 = sections at hSections hRest
  induction sections generalizing start with
  | nil =>
    cases hRest
    exact hOrderly
  | cons s sections ih =>
    obtain ⟨hFirst, hLater⟩ := List.forall_mem_cons.mp hSections
    rw [List.foldlM_cons] at hRest
    obtain ⟨mid, hMid, hEnd⟩ := Option.bind_eq_some_iff.mp hRest
    have hNext := hFirst.update hOrderly hMid
    exact ih mid hNext hLater hEnd

end WorkerSim.Toml
